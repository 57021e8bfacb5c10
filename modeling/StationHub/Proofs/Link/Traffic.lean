import Mathlib.Data.List.Basic
import StationHub.Proofs.Link.Aspects

/-!
The law of the outbound queue.

* `bigEndian_pingPayload`: a ping carries its number, modulo 2⁶⁴, in eight bytes.
* `Refuses`: nothing is put into the queue; `offer_of_refuses`, `offer_of_not_refuses` and the same
  for pings: what becomes of what is offered.
* `Traffic`: a connection with what has gone into its queue and out of it; `Traffic.run`: the same
  after a history of acts of those who send, close or read.
* `Turn`, `turn_after`: what an act does.
* `Told`, `Flows`, `Counts`: what every act keeps; `kept_run` has them for every history.
* `lawful_run`: the law.
-/

namespace StationHub

/-! ### Payloads -/

/-- The number that some bytes spell, the highest first. -/
def bigEndian (bytes : List UInt8) : Nat :=
  bytes.foldl (fun value byte => 256 * value + byte.toNat) 0

theorem bigEndian_pingPayload (number : Nat) :
    bigEndian (pingPayload number) = number % Nat.pow 2 64 := by
  simp only [bigEndian, pingPayload, List.range, List.range.loop, List.map_cons, List.map_nil,
    List.foldl_cons, List.foldl_nil, UInt8.toNat_ofNat', Nat.pow_eq, Nat.reduceSub, Nat.reducePow]
  omega

namespace Parcel

/-- The number of a ping. -/
def number? : Parcel → Option Nat
  | .ping number => some number
  | .text _ => none

/-- The number that the payload of a ping spells. -/
def payload? (parcel : Parcel) : Option Nat :=
  parcel.number?.map fun number => bigEndian (pingPayload number)

end Parcel

namespace Link

variable {link : Link}

/-! ### Offers -/

/-- Nothing is put into the queue. -/
def Refuses (link : Link) : Prop :=
  link.closed = true ∨ link.hasReader = false ∨ link.capacity ≤ link.queue.length

theorem offer_of_refuses (refuses : link.Refuses) (parcel : Parcel) :
    link.offer parcel = (link, .refused) := by
  have stops : (link.closed || !link.hasReader || decide (link.capacity ≤ link.queue.length)) =
      true := by
    simpa [Refuses, or_assoc] using refuses
  rw [offer, if_pos stops]

theorem offer_of_not_refuses (room : ¬link.Refuses) (parcel : Parcel) :
    link.offer parcel = ({ link with queue := link.queue ++ [parcel] },
      if link.capacity - (link.queue.length + 1) < link.watermark then .crowded else .queued) := by
  have goesOn : ¬(link.closed || !link.hasReader || decide (link.capacity ≤ link.queue.length)) =
      true := by
    simpa [Refuses, or_assoc] using room
  rw [offer, if_neg goesOn]
  simp only [List.length_append, List.length_singleton]

theorem ping_of_refuses (refuses : link.Refuses) (now : Nat) :
    link.ping now = ({ link with pings := link.pings + 1 }, false) := by
  have refuses' : ({ link with pings := link.pings + 1 } : Link).Refuses := refuses
  rw [ping, offer_of_refuses refuses']
  rfl

theorem ping_of_not_refuses (room : ¬link.Refuses) (now : Nat) :
    link.ping now = ({ link with
      pings := link.pings + 1
      queue := link.queue ++ [.ping link.pings]
      lastPing := some now }, true) := by
  have room' : ¬({ link with pings := link.pings + 1 } : Link).Refuses := room
  rw [ping, offer_of_not_refuses room']
  dsimp only
  split <;> rfl

theorem refuses_of_ping {now : Nat} (refused : (link.ping now).2 = false) : link.Refuses := by
  by_contra room
  rw [ping_of_not_refuses room] at refused
  cases refused

theorem not_refuses_of_ping {now : Nat} (queued : (link.ping now).2 = true) : ¬link.Refuses := by
  intro refuses
  rw [ping_of_refuses refuses] at queued
  cases queued

/-- A close leaves the connection closed, and its queue alone. -/
theorem close_eq_of_latch (latch : link.cause.isSome = link.closed) (cause : CloseCause) :
    ∃ cause' phase, (link.close cause).1 =
      { link with cause := some cause', phase, closed := true } := by
  cases known : link.cause with
  | some first =>
      rw [known] at latch
      refine ⟨first, link.phase, ?_⟩
      rw [close_of_cause known, ← known, show true = link.closed from latch]
  | none =>
      obtain ⟨phase, same⟩ := enter_eq { link with cause := some cause } .closing
      refine ⟨cause, phase, ?_⟩
      rw [close_of_open known, same]

/-- What becomes of a parcel that is offered to the queue of a connection that may be `shut`. -/
structure Offered (shut : Prop) (capacity watermark : Nat) (parcel : Parcel) (link : Link)
    (result : Link × Delivery) : Prop where
  refused : result.2 = .refused ↔ shut ∨ link.queue.length = capacity
  crowded : result.2 = .crowded ↔ ¬(shut ∨ link.queue.length = capacity) ∧
    capacity - (link.queue.length + 1) < watermark
  queued : result.2 = .queued ↔ ¬(shut ∨ link.queue.length = capacity) ∧
    ¬capacity - (link.queue.length + 1) < watermark
  unchanged : result.2 = .refused → result.1 = link
  added : result.2 ≠ .refused → result.1 = { link with queue := link.queue ++ [parcel] }

theorem offered_of_refuses_iff {shut : Prop}
    (same : link.Refuses ↔ shut ∨ link.queue.length = link.capacity) (parcel : Parcel) :
    Offered shut link.capacity link.watermark parcel link (link.offer parcel) := by
  by_cases refuses : link.Refuses
  · have stops := same.mp refuses
    rw [offer_of_refuses refuses]
    exact ⟨iff_of_true rfl stops, iff_of_false nofun fun goesOn => goesOn.1 stops,
      iff_of_false nofun fun goesOn => goesOn.1 stops, fun _ => rfl, fun other => absurd rfl other⟩
  · have goesOn := mt same.mpr refuses
    rw [offer_of_not_refuses refuses]
    by_cases few : link.capacity - (link.queue.length + 1) < link.watermark
    · rw [if_pos few]
      exact ⟨iff_of_false nofun goesOn, iff_of_true rfl ⟨goesOn, few⟩,
        iff_of_false nofun fun many => many.2 few, nofun, fun _ => rfl⟩
    · rw [if_neg few]
      exact ⟨iff_of_false nofun goesOn, iff_of_false nofun fun full => few full.2,
        iff_of_true rfl ⟨goesOn, few⟩, nofun, fun _ => rfl⟩

/-! ### Histories -/

/-- Somebody sends, closes the connection, or reads its queue. -/
inductive Act where
  | text (text : String)
  | message (message : Message)
  | ping
  | close (cause : CloseCause)
  /-- The reader takes the oldest parcel, if there is one. -/
  | take
  | dropReader

/-- The act closes the connection. -/
def Act.isClose : Act → Bool
  | .close _ => true
  | _ => false

/-- With the act the reader goes away. -/
def Act.isDrop : Act → Bool
  | .dropReader => true
  | _ => false

/-- The act attempts a ping. -/
def Act.isPing : Act → Bool
  | .ping => true
  | _ => false

/-- The act sends something else than a ping, or takes something. -/
def Act.IsPlain (act : Act) : Prop :=
  act.isClose = false ∧ act.isDrop = false ∧ act.isPing = false

/-- A connection with what has gone into its queue and out of it. -/
structure Traffic where
  link : Link
  /-- What was put into the queue. -/
  accepted : List Parcel := []
  /-- When pings were put into it. -/
  pinged : List Nat := []
  /-- What was taken from it. -/
  received : List Parcel := []

namespace Traffic

/-- The traffic after an act with its time. -/
def after (t : Traffic) (done : Nat × Act) : Traffic :=
  match done.2 with
  | .text text =>
      let (link, delivery) := t.link.sendText text
      { t with link, accepted := t.accepted ++ if delivery.isQueued then [.text text] else [] }
  | .message message =>
      let (link, delivery) := t.link.sendMessage message
      { t with
        link
        accepted := t.accepted ++ if delivery.isQueued then [.text message.encode] else [] }
  | .ping =>
      let (link, queued) := t.link.ping done.1
      { t with
        link
        accepted := t.accepted ++ if queued then [.ping t.link.pings] else []
        pinged := t.pinged ++ if queued then [done.1] else [] }
  | .close cause => { t with link := (t.link.close cause).1 }
  | .take =>
      match t.link.take? with
      | some (parcel, link) => { t with link, received := t.received ++ [parcel] }
      | none => t
  | .dropReader => { t with link := t.link.dropReader }

/-- The traffic of a fresh connection after a history. -/
def run (variant : Variant) (capacity watermark : Nat) (history : List (Nat × Act)) : Traffic :=
  history.foldl after { link := .fresh variant capacity watermark }

variable {t next : Traffic} {now capacity watermark : Nat} {act : Act}
  {history : List (Nat × Act)}

/-! ### One act -/

theorem after_text_of_refuses (refuses : t.link.Refuses) (text : String) :
    t.after (now, .text text) = t := by
  have refused : t.link.sendText text = (t.link, .refused) := offer_of_refuses refuses _
  simp [after, refused, Delivery.isQueued]

theorem after_text_of_not_refuses (room : ¬t.link.Refuses) (text : String) :
    t.after (now, .text text) =
      { t with
        link := { t.link with queue := t.link.queue ++ [.text text] }
        accepted := t.accepted ++ [.text text] } := by
  have taken : t.link.sendText text = _ := offer_of_not_refuses room _
  simp only [after, taken]
  congr 2
  split <;> rfl

theorem after_ping_of_refuses (refuses : t.link.Refuses) :
    t.after (now, .ping) = { t with link := { t.link with pings := t.link.pings + 1 } } := by
  simp [after, ping_of_refuses refuses]

theorem after_ping_of_not_refuses (room : ¬t.link.Refuses) :
    t.after (now, .ping) =
      { t with
        link := { t.link with
          pings := t.link.pings + 1
          queue := t.link.queue ++ [.ping t.link.pings]
          lastPing := some now }
        accepted := t.accepted ++ [.ping t.link.pings]
        pinged := t.pinged ++ [now] } := by
  simp [after, ping_of_not_refuses room]

theorem after_take_of_nil (queue : t.link.queue = []) : t.after (now, .take) = t := by
  simp [after, take?, queue]

theorem after_take_of_cons {parcel : Parcel} {rest : List Parcel}
    (queue : t.link.queue = parcel :: rest) :
    t.after (now, .take) =
      { t with link := { t.link with queue := rest }, received := t.received ++ [parcel] } := by
  simp [after, take?, queue]

/-- What an act does. -/
inductive Turn (now : Nat) (t : Traffic) : Act → Traffic → Prop where
  /-- Nothing: what is sent is refused, or there is nothing to take. -/
  | idle {act : Act} (plain : act.IsPlain) : Turn now t act t
  | sends {act : Act} (text : String) (room : ¬t.link.Refuses) (plain : act.IsPlain) :
      Turn now t act { t with
        link := { t.link with queue := t.link.queue ++ [.text text] }
        accepted := t.accepted ++ [.text text] }
  | attempts (refuses : t.link.Refuses) :
      Turn now t .ping { t with link := { t.link with pings := t.link.pings + 1 } }
  | pings (room : ¬t.link.Refuses) :
      Turn now t .ping { t with
        link := { t.link with
          pings := t.link.pings + 1
          queue := t.link.queue ++ [.ping t.link.pings]
          lastPing := some now }
        accepted := t.accepted ++ [.ping t.link.pings]
        pinged := t.pinged ++ [now] }
  | takes {parcel : Parcel} {rest : List Parcel} (queue : t.link.queue = parcel :: rest) :
      Turn now t .take
        { t with link := { t.link with queue := rest }, received := t.received ++ [parcel] }
  | closes (cause cause' : CloseCause) (phase : Phase) :
      Turn now t (.close cause)
        { t with link := { t.link with cause := some cause', phase, closed := true } }
  | drops : Turn now t .dropReader { t with link := t.link.dropReader }

theorem turn_after (latch : t.link.cause.isSome = t.link.closed) (now : Nat) (act : Act) :
    Turn now t act (t.after (now, act)) := by
  have sent : ∀ (act : Act) (text : String), act.IsPlain →
      Turn now t act (t.after (now, .text text)) := by
    intro act text plain
    by_cases refuses : t.link.Refuses
    · rw [after_text_of_refuses refuses]
      exact .idle plain
    · rw [after_text_of_not_refuses refuses]
      exact .sends text refuses plain
  cases act with
  | text text => exact sent _ text ⟨rfl, rfl, rfl⟩
  | message message => exact sent _ message.encode ⟨rfl, rfl, rfl⟩
  | ping =>
      by_cases refuses : t.link.Refuses
      · rw [after_ping_of_refuses refuses]
        exact .attempts refuses
      · rw [after_ping_of_not_refuses refuses]
        exact .pings refuses
  | take =>
      cases queue : t.link.queue with
      | nil =>
          rw [after_take_of_nil queue]
          exact .idle ⟨rfl, rfl, rfl⟩
      | cons parcel rest =>
          rw [after_take_of_cons queue]
          exact .takes queue
  | close cause =>
      obtain ⟨cause', phase, same⟩ := close_eq_of_latch latch cause
      show Turn now t (.close cause) { t with link := (t.link.close cause).1 }
      rw [same]
      exact .closes cause cause' phase
  | dropReader => exact .drops

/-! ### What a connection knows of its history -/

/-- What a connection knows of its history. -/
structure Told (capacity watermark : Nat) (history : List (Nat × Act)) (link : Link) : Prop where
  capacity : link.capacity = max capacity 1
  watermark : link.watermark = watermark
  latch : link.cause.isSome = link.closed
  closed : link.closed = history.any fun done => done.2.isClose
  reader : link.hasReader = !history.any fun done => done.2.isDrop
  pings : link.pings = history.countP fun done => done.2.isPing

/-- What neither closes a connection nor takes its reader away. -/
theorem Told.aside {link : Link} (told : Told capacity watermark history link)
    (spares : act.isClose = false) (stays : act.isDrop = false) (queue : List Parcel)
    (lastPing : Option Nat) {pings : Nat}
    (counted : pings = link.pings + if act.isPing then 1 else 0) :
    Told capacity watermark (history ++ [(now, act)]) { link with queue, lastPing, pings } := by
  subst counted
  refine ⟨told.capacity, told.watermark, told.latch, ?_, ?_, ?_⟩
  · simp [told.closed, spares]
  · simp [told.reader, stays]
  · simp [told.pings]

theorem Turn.told (turn : Turn now t act next) (told : Told capacity watermark history t.link) :
    Told capacity watermark (history ++ [(now, act)]) next.link := by
  cases turn with
  | idle plain => exact told.aside plain.1 plain.2.1 _ _ (by simp [plain.2.2])
  | sends text room plain => exact told.aside plain.1 plain.2.1 _ _ (by simp [plain.2.2])
  | attempts | pings | takes => exact told.aside rfl rfl _ _ rfl
  | closes cause cause' phase =>
      exact ⟨told.capacity, told.watermark, rfl, by simp [Act.isClose],
        by simp [told.reader, Act.isDrop], by simp [told.pings, Act.isPing]⟩
  | drops =>
      exact ⟨told.capacity, told.watermark, told.latch,
        by simp [told.closed, Act.isClose, dropReader], by simp [Act.isDrop, dropReader],
        by simp [told.pings, Act.isPing, dropReader]⟩

/-! ### What goes through the queue -/

/-- What goes into the queue comes out of it in the same order, as long as it is read. -/
structure Flows (t : Traffic) : Prop where
  room : t.link.queue.length ≤ t.link.capacity
  inOrder : t.received <+: t.accepted
  kept : t.link.hasReader = true → t.accepted = t.received ++ t.link.queue
  lost : t.link.hasReader = false → t.link.queue = []

/-- What is put into the queue is behind all that was put into it before. -/
theorem Flows.put (flows : t.Flows) (room : ¬t.link.Refuses) {parcel : Parcel}
    (queue : next.link.queue = t.link.queue ++ [parcel])
    (accepted : next.accepted = t.accepted ++ [parcel]) (received : next.received = t.received)
    (capacity : next.link.capacity = t.link.capacity)
    (reader : next.link.hasReader = t.link.hasReader) : next.Flows := by
  simp only [Refuses, not_or, Bool.not_eq_false, Nat.not_le] at room
  obtain ⟨-, read, few⟩ := room
  refine ⟨?_, ?_, fun _ => ?_, fun gone => ?_⟩
  · rw [queue, capacity, List.length_append, List.length_singleton]
    exact few
  · rw [received, accepted]
    exact flows.inOrder.trans (List.prefix_append _ _)
  · rw [accepted, received, queue, flows.kept read, List.append_assoc]
  · cases (gone.symm.trans reader).trans read

theorem Turn.flows (turn : Turn now t act next) (flows : t.Flows) : next.Flows := by
  cases turn with
  | idle => exact flows
  | sends text room | pings room => exact flows.put room rfl rfl rfl rfl rfl
  | attempts | closes => exact ⟨flows.room, flows.inOrder, flows.kept, flows.lost⟩
  | drops => exact ⟨Nat.zero_le _, flows.inOrder, nofun, fun _ => rfl⟩
  | @takes parcel rest queue =>
      have read : t.link.hasReader = true := by
        by_contra gone
        cases queue.symm.trans (flows.lost (Bool.eq_false_iff.mpr gone))
      have kept : t.accepted = t.received ++ [parcel] ++ rest := by
        rw [flows.kept read, queue, List.append_cons]
      have room := flows.room
      rw [queue] at room
      refine ⟨Nat.le_of_succ_le room, ?_, fun _ => kept, fun gone => ?_⟩
      · show t.received ++ [parcel] <+: t.accepted
        rw [kept]
        exact List.prefix_append _ _
      · cases gone.symm.trans read

/-! ### Pings -/

/-- Pings that were put into the queue have the numbers of their attempts, and the last of them is
noted with its time. -/
structure Counts (t : Traffic) : Prop where
  numbers : (t.accepted.filterMap Parcel.number?).Pairwise (· < ·)
  below : ∀ number ∈ t.accepted.filterMap Parcel.number?, number < t.link.pings
  lastPing : t.link.lastPing = t.pinged.getLast?

theorem Turn.counts (turn : Turn now t act next) (counts : t.Counts) : next.Counts := by
  obtain ⟨numbers, below, lastPing⟩ := counts
  cases turn with
  | idle | takes | closes | drops => exact ⟨numbers, below, lastPing⟩
  | sends text room plain =>
      have others : (t.accepted ++ [Parcel.text text]).filterMap Parcel.number? =
          t.accepted.filterMap Parcel.number? := by
        rw [List.filterMap_append]
        exact List.append_nil _
      exact ⟨others ▸ numbers, others ▸ below, lastPing⟩
  | attempts =>
      exact ⟨numbers, fun number member => Nat.lt_succ_of_lt (below number member), lastPing⟩
  | pings room =>
      have more : (t.accepted ++ [Parcel.ping t.link.pings]).filterMap Parcel.number? =
          t.accepted.filterMap Parcel.number? ++ [t.link.pings] := List.filterMap_append
      refine ⟨?_, ?_, by simp⟩
      · rw [more, List.pairwise_append]
        refine ⟨numbers, List.pairwise_singleton _ _, fun number member last is => ?_⟩
        rw [List.mem_singleton.mp is]
        exact below number member
      · intro number member
        rcases List.mem_append.mp (more ▸ member) with old | new
        · exact Nat.lt_succ_of_lt (below number old)
        · rw [List.mem_singleton.mp new]
          exact Nat.lt_succ_self _

/-- Payloads grow as long as the numbers fit into them. -/
theorem Counts.payloads (counts : t.Counts) (few : t.link.pings ≤ Nat.pow 2 64) :
    (t.accepted.filterMap Parcel.payload?).Pairwise (· < ·) := by
  have values : t.accepted.filterMap Parcel.payload? = t.accepted.filterMap Parcel.number? := by
    refine List.filterMap_congr fun parcel member => ?_
    cases parcel with
    | text => rfl
    | ping number =>
        have known : number ∈ t.accepted.filterMap Parcel.number? :=
          List.mem_filterMap.mpr ⟨_, member, rfl⟩
        have fits := Nat.lt_of_lt_of_le (counts.below number known) few
        show some (bigEndian (pingPayload number)) = some number
        rw [bigEndian_pingPayload, Nat.mod_eq_of_lt fits]
  rw [values]
  exact counts.numbers

end Traffic

/-! ### The law -/

/-- The connection was closed in the history, or the reader of its queue went away. -/
def Shut (history : List (Nat × Act)) : Prop :=
  ∃ done ∈ history, done.2.isClose = true ∨ done.2.isDrop = true

/-- The outbound queue after a history. -/
structure Lawful (capacity watermark : Nat) (history : List (Nat × Act)) (t : Traffic) : Prop where
  room : t.link.queue.length ≤ max capacity 1
  /-- What is sent is refused exactly if the connection was closed, the reader is gone or the queue
  is full, and then nothing happens; otherwise it comes last in the queue, and whether many places
  are left is told. -/
  text : ∀ text, Offered (Shut history) (max capacity 1) watermark (.text text) t.link
    (t.link.sendText text)
  message : ∀ message : Message, Offered (Shut history) (max capacity 1) watermark
    (.text message.encode) t.link (t.link.sendMessage message)
  /-- A ping is refused for the same reasons, and otherwise comes last in the queue as well, with
  the number of earlier attempts. -/
  ping : ∀ now, ((t.link.ping now).2 = false ↔
      Shut history ∨ t.link.queue.length = max capacity 1) ∧
    (t.link.ping now).1.queue = t.link.queue ++ if (t.link.ping now).2 then
      [.ping (history.countP fun done => done.2.isPing)] else []
  /-- What was received was put into the queue, in this order, without gaps; -/
  received : t.received <+: t.accepted
  /-- while the reader is there, all that was not received is queued, -/
  kept : (∀ done ∈ history, done.2.isDrop = false) → t.accepted = t.received ++ t.link.queue
  /-- and once it is gone, nothing is. -/
  lost : (∃ done ∈ history, done.2.isDrop = true) → t.link.queue = []
  /-- A ping carries its number modulo 2⁶⁴ in eight bytes, the highest first. -/
  payload : ∀ number, .ping number ∈ t.accepted → (pingPayload number).length = 8 ∧
    bigEndian (pingPayload number) = number % Nat.pow 2 64
  /-- As long as there are no more than 2⁶⁴ attempts, the payloads of queued pings grow. -/
  payloads : (history.countP fun done => done.2.isPing) ≤ Nat.pow 2 64 →
    (t.accepted.filterMap Parcel.payload?).Pairwise (· < ·)
  /-- The time of the last ping is that of the last that was queued. -/
  lastPing : t.link.lastPing = t.pinged.getLast?

namespace Traffic

variable {t : Traffic} {capacity watermark : Nat} {history : List (Nat × Act)}

/-- Why nothing is put into the queue, told from the history. -/
theorem refuses_iff (told : Told capacity watermark history t.link) (flows : t.Flows) :
    t.link.Refuses ↔ Shut history ∨ t.link.queue.length = t.link.capacity := by
  have closed : t.link.closed = true ↔ ∃ done ∈ history, done.2.isClose = true := by
    rw [told.closed, List.any_eq_true]
  have gone : t.link.hasReader = false ↔ ∃ done ∈ history, done.2.isDrop = true := by
    rw [told.reader, Bool.not_eq_false', List.any_eq_true]
  have full : t.link.capacity ≤ t.link.queue.length ↔ t.link.queue.length = t.link.capacity :=
    ⟨fun many => Nat.le_antisymm flows.room many, fun same => Nat.le_of_eq same.symm⟩
  rw [Refuses, Shut, closed, gone, full, ← or_assoc]
  refine or_congr_left ?_
  simp only [← exists_or, ← and_or_left]

/-- What every act of a history keeps. -/
theorem kept_run (variant : Variant) (capacity watermark : Nat) (history : List (Nat × Act)) :
    Told capacity watermark history (run variant capacity watermark history).link ∧
      (run variant capacity watermark history).Flows ∧
      (run variant capacity watermark history).Counts := by
  induction history using List.reverseRecOn with
  | nil =>
      exact ⟨⟨rfl, rfl, rfl, rfl, rfl, rfl⟩,
        ⟨Nat.zero_le _, List.prefix_refl _, fun _ => rfl, nofun⟩, ⟨.nil, nofun, rfl⟩⟩
  | append_singleton history done ih =>
      obtain ⟨told, flows, counts⟩ := ih
      have turn := turn_after told.latch done.1 done.2
      have next : run variant capacity watermark (history ++ [done]) =
          (run variant capacity watermark history).after done := by
        simp [run]
      rw [next]
      exact ⟨turn.told told, turn.flows flows, turn.counts counts⟩

end Traffic

/-- **The law of the outbound queue.** -/
theorem lawful_run (variant : Variant) (capacity watermark : Nat) (history : List (Nat × Act)) :
    Lawful capacity watermark history (Traffic.run variant capacity watermark history) := by
  obtain ⟨told, flows, counts⟩ := Traffic.kept_run variant capacity watermark history
  generalize Traffic.run variant capacity watermark history = t at told flows counts
  have refuses := Traffic.refuses_iff told flows
  have offered := offered_of_refuses_iff refuses
  rw [told.capacity, told.watermark] at offered
  rw [told.capacity] at refuses
  refine ⟨told.capacity ▸ flows.room, fun text => offered (.text text),
    fun message => offered (.text message.encode), fun now => ?_, flows.inOrder, fun stays => ?_,
    fun drops => ?_, fun number _ => ⟨rfl, bigEndian_pingPayload number⟩, fun few => ?_,
    counts.lastPing⟩
  · rw [← refuses]
    by_cases stops : t.link.Refuses
    · rw [ping_of_refuses stops]
      exact ⟨iff_of_true rfl stops, (List.append_nil _).symm⟩
    · rw [ping_of_not_refuses stops, told.pings]
      exact ⟨iff_of_false nofun stops, rfl⟩
  · refine flows.kept ?_
    rw [told.reader, Bool.not_eq_true', List.any_eq_false]
    exact fun done member => by simp [stays done member]
  · refine flows.lost ?_
    rw [told.reader, Bool.not_eq_false', List.any_eq_true]
    exact drops
  · exact counts.payloads (told.pings ▸ few)

end Link

end StationHub
