import StationHub.Link

/-!
The writer of a connection. It takes parcels from the queue and hands them to the socket, one at a
time and each only when the socket took the one before. Once the connection is closed it takes no
more, says why it closes, and closes the socket, all within two seconds.
-/

namespace StationHub

/-- What the socket has taken. -/
inductive Wire where
  | parcel (parcel : Parcel)
  /-- A close frame, which may say nothing. -/
  | close (frame : Option CloseFrame)
  /-- The end of the stream. -/
  | finish
  deriving DecidableEq, Repr

/-- What the writer is doing. -/
inductive Writer where
  /-- Waiting for a parcel or for the close. -/
  | idle
  /-- Handing a parcel to the socket. -/
  | sending (parcel : Parcel)
  /-- Handing the close frame to the socket, until a deadline. -/
  | saying (deadline : Nat)
  /-- Closing the socket, until a deadline. -/
  | finishing (deadline : Nat)
  /-- Nothing any more. -/
  | ended
  deriving DecidableEq, Repr

/-- How long the writer tries to say that it closes. -/
def Writer.patience : Nat := 2000

/-- A connection with its writer and what the socket has taken so far. -/
structure Connection where
  link : Link
  writer : Writer := .idle
  written : List Wire := []
  /-- How many on the socket side, apart from the writer, hold the connection. -/
  keepers : Nat := 1
  deriving DecidableEq, Repr

namespace Connection

/-- The writer starts something new: the close, if the connection is closed, before any parcel
that is still queued. -/
def takeUp? (c : Connection) (now : Nat) : Option Connection :=
  match c.writer with
  | .idle =>
      if c.link.closed then some { c with writer := .saying (now + Writer.patience) }
      else c.link.take?.map fun (parcel, link) => { c with link, writer := .sending parcel }
  | _ => none

/-- The socket takes what the writer hands to it. -/
def accepted? (c : Connection) : Option Connection :=
  match c.writer with
  | .sending parcel => some { c with writer := .idle, written := c.written ++ [.parcel parcel] }
  | .saying deadline =>
      some { c with
        writer := .finishing deadline
        written := c.written ++ [.close (c.link.cause.map CloseCause.frame)] }
  | .finishing _ =>
      some { c with
        link := c.link.dropReader
        writer := .ended
        written := c.written ++ [.finish] }
  | _ => none

/-- The socket fails to take what the writer hands to it. A parcel that fails ends the writer
without a close frame. -/
def failed? (c : Connection) : Option Connection :=
  match c.writer with
  | .sending _ =>
      some { c with link := (c.link.close .transport).1.dropReader, writer := .ended }
  | .saying deadline => some { c with writer := .finishing deadline }
  | .finishing _ => some { c with link := c.link.dropReader, writer := .ended }
  | _ => none

/-- The writer runs out of patience with the close. -/
def expired? (c : Connection) (now : Nat) : Option Connection :=
  match c.writer with
  | .saying deadline | .finishing deadline =>
      if deadline ≤ now then some { c with link := c.link.dropReader, writer := .ended } else none
  | _ => none

/-- When the writer runs out of patience. -/
def deadline? (c : Connection) : Option Nat :=
  match c.writer with
  | .saying deadline | .finishing deadline => some deadline
  | _ => none

/-- The writer is stopped wherever it is. -/
def stop (c : Connection) : Connection := { c with link := c.link.dropReader, writer := .ended }

/-- One more on the socket side holds the connection. -/
def hold (c : Connection) : Connection := { c with keepers := c.keepers + 1 }

/-- One on the socket side lets go of the connection. -/
def letGo (c : Connection) : Connection := { c with keepers := c.keepers - 1 }

/-- Somebody on the socket side holds the connection. -/
def isKept (c : Connection) : Bool := decide (0 < c.keepers) || decide (c.writer ≠ .ended)

end Connection

end StationHub
