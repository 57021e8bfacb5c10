/-!
What a hub counts. Counters only grow, except for the number of open connections.
-/

namespace StationHub

/-- The counters of a hub. -/
structure Counters where
  /-- Connections accepted. -/
  opened : Nat := 0
  /-- Upgrades refused. -/
  rejected : Nat := 0
  /-- Connections identified and registered. -/
  resolved : Nat := 0
  /-- Connections whose peer could not be identified. -/
  resolutionFailed : Nat := 0
  /-- Live connections closed in favour of a newer one. -/
  duplicatesClosed : Nat := 0
  /-- Probes that failed in a sweep. -/
  pingFailures : Nat := 0
  /-- Connections that a sweep removed. -/
  evicted : Nat := 0
  /-- Outgoing calls not answered in time. -/
  timedOut : Nat := 0
  /-- Connections whose end was handled. -/
  closed : Nat := 0
  /-- Malformed messages dropped. -/
  protocolErrors : Nat := 0
  /-- Answers to no pending call. -/
  unknownResponses : Nat := 0
  /-- Attempts to hold a path that ran out of time. -/
  lockExhausted : Nat := 0
  /-- Connections open now. -/
  active : Int := 0
  deriving DecidableEq, Repr

namespace Counters

/-- What there is to count. -/
inductive Occasion where
  | opened
  | closed
  | rejected
  | resolved
  | resolutionFailed
  | duplicateClosed
  | pingFailure
  | evicted
  | timedOut
  | protocolError
  | unknownResponse
  | lockExhausted
  deriving DecidableEq, Repr

/-- The counters after one more occasion. -/
def count (c : Counters) : Occasion → Counters
  | .opened => { c with opened := c.opened + 1, active := c.active + 1 }
  | .closed => { c with closed := c.closed + 1, active := c.active - 1 }
  | .rejected => { c with rejected := c.rejected + 1 }
  | .resolved => { c with resolved := c.resolved + 1 }
  | .resolutionFailed => { c with resolutionFailed := c.resolutionFailed + 1 }
  | .duplicateClosed => { c with duplicatesClosed := c.duplicatesClosed + 1 }
  | .pingFailure => { c with pingFailures := c.pingFailures + 1 }
  | .evicted => { c with evicted := c.evicted + 1 }
  | .timedOut => { c with timedOut := c.timedOut + 1 }
  | .protocolError => { c with protocolErrors := c.protocolErrors + 1 }
  | .unknownResponse => { c with unknownResponses := c.unknownResponses + 1 }
  | .lockExhausted => { c with lockExhausted := c.lockExhausted + 1 }

/-- The counters by name. -/
def fields (c : Counters) : List (String × Int) := [
  ("opened", c.opened), ("rejected", c.rejected), ("resolved", c.resolved),
  ("resolution_failed", c.resolutionFailed), ("duplicates_closed", c.duplicatesClosed),
  ("ping_failures", c.pingFailures), ("evicted", c.evicted), ("timed_out", c.timedOut),
  ("closed", c.closed), ("protocol_errors", c.protocolErrors),
  ("unknown_responses", c.unknownResponses), ("lock_exhausted", c.lockExhausted),
  ("active_connections", c.active)]

end Counters

end StationHub
