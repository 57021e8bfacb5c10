import StationHub.Proofs.Server.Sweeper

/-!
Who answers its pings is not closed as idle.

* `Attended`: in a run, a peer reads everything, answers every ping at once and stays registered, and
  nothing that is due is late.
* `Settings.Sustains`: when the pings to the peers of a variant come more often than its connections
  idle out. Passively they always do; a sweep has to be done in time.
* `InTime`: a connection is pinged before it idles out; `Spared`, `step?_spared`: every move keeps it
  so.
* `kept_alive`: a peer that is attended to is not closed as idle.
* `idled_out`: where a sweep takes longer than connections idle out, it may be.
-/

namespace StationHub

open Connection (Deed)

namespace Settings

/-- The pings to the peers of a variant come more often than connections idle out. -/
def Sustains (settings : Settings) (variant : Variant) : Prop :=
  settings.keepAlive = .passive ∨ settings.longestGap variant < settings.idleTimeout

instance (settings : Settings) (variant : Variant) : Decidable (settings.Sustains variant) :=
  inferInstanceAs (Decidable (_ ∨ _))

theorem pingInterval_lt {settings : Settings} (valid : settings.Valid) :
    settings.pingInterval < settings.idleTimeout := by
  have demand := valid_iff.mp valid
    (decide (settings.pingInterval < settings.idleTimeout),
      .rarePings settings.pingInterval settings.idleTimeout)
    (by simp [demands])
  exact of_decide_eq_true demand

/-- A sweep that is done with both rosters within the idle timeout sustains everybody. -/
theorem sustains_of_lt {settings : Settings} (valid : settings.Valid)
    (clients : settings.pingInterval + settings.probeTimeout < settings.idleTimeout)
    (sweeps : 2 * settings.probeTimeout < settings.idleTimeout) (variant : Variant) :
    settings.Sustains variant := by
  have := pingInterval_lt valid
  right
  cases variant <;> dsimp only [longestGap] <;> omega

end Settings

namespace Server

/-! ### Peers that answer -/

/-- The connection that reader number `i` reads from for a session, with its number, while it is
open. -/
def served? (s : Server) (i : Nat) : Option (Nat × Connection) :=
  (s.reader? i).bind fun reader =>
    match reader.stage with
    | .reading .. =>
        (s.hub.connection? reader.link).bind fun c =>
          if c.link.closed then none else some (reader.link, c)
    | _ => none

/-- What the peer has not read leaves room for a ping. -/
def readsAll (i : Nat) (s : Server) (_ : Move) : Bool :=
  (s.served? i).all fun (_, c) => (c.link.ping s.hub.now).2

/-- When time passes the peer has answered the ping that was just sent. -/
def answers (i : Nat) (s : Server) : Move → Bool
  | .advance ms =>
      (s.served? i).all fun (_, c) =>
        ms == 0 || c.link.lastPing != some s.hub.now || c.link.lastPong == some s.hub.now
  | _ => true

/-- A slot of its variant is bound to the connection. -/
def isRegistered (i : Nat) (s : Server) (_ : Move) : Bool :=
  (s.served? i).all fun (link, c) =>
    (s.hub.roster c.link.variant).entries.any fun (key, _) =>
      s.hub.boundTo? c.link.variant key == some link

/-- Time passes only while nothing is due. -/
def isPrompt (s : Server) : Move → Bool
  | .advance ms => (List.range ms).all fun passed => (s.later passed).rests
  | _ => true

/-- In a run, the peer of reader number `i` reads everything, answers every ping at once and stays
registered, no timer is late, and the server is not shut down. -/
structure Attended (i : Nat) (start : Server) (moves : List Move) : Prop where
  goesOn : .shutDown ∉ moves
  prompt : Runs.always step? isPrompt start moves = true
  readsAll : Runs.always step? (readsAll i) start moves = true
  answers : Runs.always step? (answers i) start moves = true
  registered : Runs.always step? (isRegistered i) start moves = true

/-- What `Attended` says of one move. -/
structure Attends (i : Nat) (s : Server) (move : Move) : Prop where
  goesOn : move ≠ .shutDown
  prompt : ∀ ms, move = .advance ms → ∀ passed < ms, (s.later passed).rests = true
  room : ∀ {link : Nat} {c : Connection}, s.served? i = some (link, c) →
    (c.link.ping s.hub.now).2 = true
  answered : ∀ {link : Nat} {c : Connection} {ms : Nat}, move = .advance ms → 0 < ms →
    s.served? i = some (link, c) → c.link.lastPing = some s.hub.now →
    c.link.lastPong = some s.hub.now
  registered : ∀ {link : Nat} {c : Connection}, s.served? i = some (link, c) →
    ∃ key slot, s.hub.registered? c.link.variant key = some slot ∧ slot.link = link

variable {settings : Settings} {mark : Mark} {start s next : Server} {moves : List Move}
  {move : Move} {i : Nat}
  {reader : Reader} {c : Connection} {session idleAt pingAt : Nat} {handover : Option Handover}

theorem Attended.concat (attended : Attended i start (moves ++ [move]))
    (run : start.run? moves = some s) : Attended i start moves ∧ Attends i s move := by
  obtain ⟨goesOn, prompt, readsAll, answers, registered⟩ := attended
  rw [List.mem_append, not_or, List.mem_singleton] at goesOn
  obtain ⟨prompt, promptNow⟩ := Runs.always_concat run prompt
  obtain ⟨readsAll, roomNow⟩ := Runs.always_concat run readsAll
  obtain ⟨answers, answersNow⟩ := Runs.always_concat run answers
  obtain ⟨registered, registeredNow⟩ := Runs.always_concat run registered
  refine ⟨⟨goesOn.1, prompt, readsAll, answers, registered⟩, Ne.symm goesOn.2, ?_, ?_, ?_, ?_⟩
  · rintro ms rfl passed within
    exact List.all_eq_true.mp promptNow passed (List.mem_range.mpr within)
  · intro link c served
    rw [Server.readsAll, served] at roomNow
    exact roomNow
  · rintro link c ms rfl passes served pinged
    rw [Server.answers, served] at answersNow
    simpa [pinged, Nat.ne_of_gt passes] using answersNow
  · intro link c served
    rw [isRegistered, served] at registeredNow
    obtain ⟨⟨key, _⟩, -, bound⟩ := List.any_eq_true.mp registeredNow
    obtain ⟨slot, here, same⟩ := Option.map_eq_some_iff.mp (beq_iff_eq.mp bound)
    exact ⟨key, slot, here, same⟩

theorem served?_of_open (here : s.reader? i = some reader)
    (there : s.hub.connection? reader.link = some c)
    (stage : reader.stage = .reading session handover idleAt pingAt)
    (isOpen : c.link.closed = false) : s.served? i = some (reader.link, c) := by
  simp [served?, here, stage, there, isOpen]

/-! ### In time -/

/-- A connection is pinged before it idles out: the next ping comes by `pingBy` and the connection is
closed at `idleAt` if nothing is read until then, or it has just been pinged. -/
structure InTime (now timeout pingBy idleAt : Nat) (link : Link) : Prop where
  soon : now < idleAt
  fresh : idleAt ≤ now + timeout
  heard : ∀ {time}, link.lastPong = some time → time + timeout ≤ idleAt
  pinged : pingBy < idleAt ∨ link.lastPing = some now ∧ pingBy < now + timeout

section InTime

variable {now timeout pingBy : Nat} {link : Link}

/-- Time may pass until the next ping, once the last one has been answered. -/
theorem InTime.later (inTime : InTime now timeout pingBy idleAt link) {ms pingBy' : Nat}
    (early : now + ms ≤ pingBy) (answered : link.lastPing = some now → link.lastPong = some now)
    (sooner : pingBy' ≤ pingBy) : InTime (now + ms) timeout pingBy' idleAt link := by
  have before : pingBy < idleAt := by
    rcases inTime.pinged with before | ⟨just, soon⟩
    · exact before
    · exact Nat.lt_of_lt_of_le soon (inTime.heard (answered just))
  have fresh := inTime.fresh
  exact ⟨by omega, by omega, inTime.heard, .inl (by omega)⟩

/-- While time stands still, the next ping may only be put off by a ping, and what is read puts off
the end. -/
theorem InTime.onward (inTime : InTime now timeout pingBy idleAt link) {pingBy' idleAt' : Nat}
    {link' : Link} (reads : idleAt' = idleAt ∨ idleAt' = now + timeout)
    (ponged : link'.lastPong = link.lastPong ∨
      link'.lastPong = some now ∧ idleAt' = now + timeout)
    (pinged : link'.lastPing = link.lastPing ∨ link'.lastPing = some now)
    (sooner : pingBy' ≤ pingBy ∨ link'.lastPing = some now ∧ pingBy' < now + timeout) :
    InTime now timeout pingBy' idleAt' link' := by
  obtain ⟨soon, fresh, heard, before⟩ := inTime
  have put_off : idleAt ≤ idleAt' := by omega
  refine ⟨by omega, by omega, fun {time} ponged' => ?_, ?_⟩
  · rcases ponged with same | ⟨just, still⟩
    · exact Nat.le_trans (heard (same ▸ ponged')) put_off
    · cases ponged'.symm.trans just
      exact Nat.le_of_eq still.symm
  · rcases sooner with sooner | just
    · rcases before with before | ⟨was, before⟩
      · exact .inl (by omega)
      · exact .inr ⟨pinged.elim (fun same => same.trans was) id, by omega⟩
    · exact .inr just

/-- The reader has just begun to read for its session. -/
theorem InTime.begins (positive : 0 < timeout)
    (heard : ∀ {time}, link.lastPong = some time → time ≤ now) (soon : pingBy < now + timeout) :
    InTime now timeout pingBy (now + timeout) link :=
  ⟨Nat.lt_add_of_pos_right positive, Nat.le_refl _,
    fun ponged => Nat.add_le_add_right (heard ponged) _, .inl soon⟩

end InTime

/-! ### One move -/

/-- What a reader that reads for a session did before: it began to read with this move, or read
already; a pong puts off the end, as all that is read does, and only its own ping puts off the next
one. -/
inductive Reads (s : Server) (i : Nat) (move : Move) (before : Reader) (idleAt pingAt : Nat) :
    Prop where
  | begins : idleAt = s.hub.now + s.hub.settings.idleTimeout →
      pingAt = s.hub.now + s.hub.settings.pingInterval → Reads s i move before idleAt pingAt
  | goesOn {session idleAt' pingAt' : Nat} {handover : Option Handover} :
      before.stage = .reading session handover idleAt' pingAt' →
      idleAt = idleAt' ∨ idleAt = s.hub.now + s.hub.settings.idleTimeout →
      (move = .read i .pong → idleAt = s.hub.now + s.hub.settings.idleTimeout) →
      pingAt = pingAt' ∨ move = .ping i ∧ pingAt' ≤ s.hub.now ∧
        pingAt = pingAt' + s.hub.settings.pingInterval → Reads s i move before idleAt pingAt

theorem reads_of_turn {before : Reader}
    (turn : before.Turn s i move reader ∨ move.reader? ≠ some i ∧ reader = before)
    (stage : reader.stage = .reading session handover idleAt pingAt) :
    s.Reads i move before idleAt pingAt := by
  rcases turn with turn | ⟨other, rfl⟩
  · cases turn with
    | begin_ =>
        obtain ⟨-, -, rfl, rfl⟩ := Reader.Stage.reading.inj stage
        exact .begins rfl rfl
    | take before | queue before | hear before =>
        obtain ⟨-, -, rfl, rfl⟩ := Reader.Stage.reading.inj stage
        exact .goesOn before (.inr rfl) (fun _ => rfl) (.inl rfl)
    | handOver before | handled before =>
        obtain ⟨-, -, rfl, rfl⟩ := Reader.Stage.reading.inj stage
        exact .goesOn before (.inl rfl) nofun (.inl rfl)
    | ping before passive due =>
        obtain ⟨-, -, rfl, rfl⟩ := Reader.Stage.reading.inj stage
        exact .goesOn before (.inl rfl) nofun (.inr ⟨rfl, due, rfl⟩)
    | keep before | listen before | leave before => cases before.symm.trans stage
    | deafen | fail | stop => cases stage
  · refine .goesOn stage (.inl rfl) (fun same => ?_) (.inl rfl)
    exact absurd (congrArg Move.reader? same) other

/-- A reader that sends a ping puts it into the queue. -/
theorem connection?_of_ping (here : s.reader? i = some reader)
    (there : s.hub.connection? reader.link = some c) (moved : s.step? (.ping i) = some next) :
    next.hub.connection? reader.link =
      some (c.onLink fun link => (link.ping s.hub.now).1) := by
  have run := step?_unnoted moved
  rw [hubMoves_of_reader rfl here] at run
  have same : next.hub.connection? reader.link =
      (s.hub.modifyLink reader.link fun link => (link.ping s.hub.now).1).connection? reader.link :=
    congrArg (fun h : Hub => h.connection? reader.link) (Option.some.inj run).symm
  rw [same, Hub.modifyLink, Hub.connection?_modifyConnection, there, Option.map_some, if_pos rfl]
  rfl

/-- While nothing is due time does not pass beyond the next ping of a reader. -/
theorem pingAt_of_rests {ms : Nat} (passive : s.hub.settings.keepAlive = .passive)
    (here : s.reader? i = some reader)
    (stage : reader.stage = .reading session handover idleAt pingAt)
    (prompt : ∀ passed < ms, (s.later passed).rests = true) : 0 < ms → s.hub.now + ms ≤ pingAt := by
  intro passes
  by_contra late
  have nothing := prompt (pingAt - s.hub.now) (by omega)
  simp only [rests, Bool.and_eq_true] at nothing
  have within : i ∈ List.range s.readers.length :=
    List.mem_range.mpr (List.getElem?_eq_some_iff.mp here).1
  have none := Option.isNone_iff_eq_none.mp (List.all_eq_true.mp nothing.1.2 i within)
  have found : (s.later (pingAt - s.hub.now)).reader? i = some reader := here
  have isDue : (s.later (pingAt - s.hub.now)).hub.settings.keepAlive = .passive ∧
      pingAt ≤ (s.later (pingAt - s.hub.now)).hub.now := by
    refine ⟨passive, ?_⟩
    show pingAt ≤ s.hub.now + (pingAt - s.hub.now)
    omega
  simp [step?, ping?, found, stage, isDue] at none

/-- By when a peer of a variant is pinged next, if its reader is to do so at `pingAt` or the sweeper
stands at `phase`. -/
def pingsBy (s : Server) (phase : Phase) (pingAt : Nat) (variant : Variant) : Nat :=
  match s.hub.settings.keepAlive with
  | .passive => pingAt
  | .active => s.reachesBy phase variant

/-- The connection of reader number `i` is in time while it is open, and the sweeper stands at
`phase`. -/
structure Spared (s : Server) (i : Nat) (phase : Phase) : Prop where
  sweeper : s.hub.settings.keepAlive = .active → s.InPhase phase
  inTime : ∀ {reader : Reader} {c : Connection} {session idleAt pingAt : Nat}
    {handover : Option Handover}, s.reader? i = some reader →
    s.hub.connection? reader.link = some c →
    reader.stage = .reading session handover idleAt pingAt → c.link.closed = false →
    s.hub.settings.Sustains c.link.variant →
    InTime s.hub.now s.hub.settings.idleTimeout (s.pingsBy phase pingAt c.link.variant) idleAt c.link

variable {phase : Phase}

theorem spared_later (grounded : s.Grounded) (spared : s.Spared i phase) {ms : Nat}
    (attends : Attends i s (.advance ms)) : (s.later ms).Spared i phase := by
  have prompt := attends.prompt ms rfl
  refine ⟨fun active => inPhase_later grounded (spared.sweeper active) prompt,
    fun {reader c session idleAt pingAt handover} here there stage isOpen sustains => ?_⟩
  have before := spared.inTime here there stage isOpen sustains
  rcases Nat.eq_zero_or_pos ms with rfl | passes
  · exact before
  have served := served?_of_open here there stage isOpen
  have answered := attends.answered rfl passes served
  cases mode : s.hub.settings.keepAlive with
  | passive =>
      have same : (s.later ms).pingsBy phase pingAt c.link.variant = pingAt := by
        simp only [pingsBy, show (s.later ms).hub.settings.keepAlive = .passive from mode]
      simp only [pingsBy, mode] at before
      rw [same]
      exact before.later (pingAt_of_rests mode here stage prompt passes) answered (Nat.le_refl _)
  | active =>
      have same : (s.later ms).pingsBy phase pingAt c.link.variant =
          (s.later ms).reachesBy phase c.link.variant := by
        simp only [pingsBy, show (s.later ms).hub.settings.keepAlive = .active from mode]
      have limit := limit_of_rests grounded (spared.sweeper mode) prompt
      simp only [pingsBy, mode] at before
      rw [same]
      exact before.later (Nat.le_trans (limit passes) (s.limit_le_reachesBy phase _)) answered
        (reachesBy_later limit _)

/-- Where there is a sweeper, it comes nearer with a move. -/
theorem approaches_of_step? (grounded : s.Grounded) (handling : s.Handling)
    (spared : s.Spared i phase) (goesOn : move ≠ .shutDown) (still : ∀ ms, move ≠ .advance ms)
    (moved : s.step? move = some next) :
    ∃ phase', s.hub.settings.keepAlive = .active → s.Approaches next phase phase' := by
  cases mode : s.hub.settings.keepAlive with
  | passive => exact ⟨phase, nofun⟩
  | active =>
      obtain ⟨phase', approaches⟩ :=
        inPhase_of_step? grounded handling (spared.sweeper mode) goesOn still moved
      exact ⟨phase', fun _ => approaches⟩

/-- Only a pong that its reader reads is noted of a connection. -/
theorem ponged_of_permits (apart : s.Apart) (here : s.reader? i = some reader)
    {next : Connection} (goes : c.Goes (s.Permits reader.link move) s.hub.now next) :
    next.link.lastPong = c.link.lastPong ∨
      next.link.lastPong = some s.hub.now ∧ move = .read i .pong := by
  refine (Connection.ponged_of_goes goes).imp id fun ⟨permitted, just⟩ => ⟨just, ?_⟩
  cases permitted with
  | common common => cases common
  | writing writing => cases writing
  | hear found same => rw [apart found here same]

section Open

variable (here : s.reader? i = some reader) (there : s.hub.connection? reader.link = some c)
  (stage : reader.stage = .reading session handover idleAt pingAt) (isOpen : c.link.closed = false)
  (attends : Attends i s move) {last : Connection}
  (after : next.hub.connection? reader.link = some last)
include here there stage isOpen attends after

/-- A ping of the reader is noted, since there is room for it. -/
theorem pinged_by_reader (moved : s.step? move = some next) (pings : move = .ping i) :
    last.link.lastPing = some s.hub.now := by
  subst pings
  cases after.symm.trans (connection?_of_ping here there moved)
  have room := attends.room (served?_of_open here there stage isOpen)
  exact (c.link.lastPing_ping s.hub.now).trans (if_pos room)

/-- A registered connection with room for a ping is pinged by a sweep that comes to its variant. -/
theorem pinged_by_sweep (tended : s.Tended i) (stillOpen : last.link.closed = false)
    (reaches : Hub.Reaches c.link.variant s.hub next.hub) :
    last.link.lastPing = some next.hub.now := by
  have served := served?_of_open here there stage isOpen
  obtain ⟨key, slot, bound, same⟩ := attends.registered served
  have kept : c.isKept = true := by
    have runs : reader.stage ≠ .ended := by simp [stage]
    simp [Connection.isKept, tended.kept here there runs]
  obtain ⟨last', there', pinged⟩ :=
    reaches key slot bound (same ▸ ⟨c, there, kept, .inr (attends.room served)⟩)
  rw [same] at there'
  cases after.symm.trans there'
  rcases pinged with shut | just
  · cases stillOpen.symm.trans shut
  · exact just

end Open

/-- **A move keeps a connection in time**, while its peer is attended to. -/
theorem spared_of_step? (interval : s.hub.settings.pingInterval < s.hub.settings.idleTimeout)
    (grounded : s.Grounded) (apart : s.Apart) (tended : s.Tended i) (handling : s.Handling)
    (spared : s.Spared i phase) (attends : Attends i s move) (moved : s.step? move = some next) :
    ∃ phase', next.Spared i phase' := by
  by_cases passes : ∃ ms, move = .advance ms
  · obtain ⟨ms, rfl⟩ := passes
    cases moved
    exact ⟨phase, spared_later grounded spared attends⟩
  have still : ∀ ms, move ≠ .advance ms := fun ms same => passes ⟨ms, same⟩
  obtain ⟨phase', approaches⟩ :=
    approaches_of_step? grounded handling spared attends.goesOn still moved
  obtain ⟨now, -⟩ := goes_of_step? attends.goesOn still moved
  have persists := step?_persists moved
  have settings := persists.settings
  have tended' := step?_tended grounded apart tended attends.goesOn moved
  have positive : 0 < s.hub.settings.idleTimeout := by omega
  refine ⟨phase', fun active => (approaches (settings ▸ active)).there, ?_⟩
  intro reader c session idleAt pingAt handover here there stage isOpen sustains
  have mode' : next.hub.settings.keepAlive = s.hub.settings.keepAlive := congrArg _ settings
  rw [now, settings]
  rw [settings] at sustains
  -- A sweeper comes to this variant before the connection would idle out if it were read now.
  have gap (active : s.hub.settings.keepAlive = .active) :
      next.reachesBy phase' c.link.variant < s.hub.now + s.hub.settings.idleTimeout := by
    have within := reachesBy_le (approaches active).there c.link.variant
    rw [now, settings] at within
    rcases sustains with passive | often
    · cases active.symm.trans passive
    · omega
  cases past_of_step? grounded attends.goesOn still moved here there with
  | new target _ _ _ _ same =>
      subst same
      cases stage
  | old before was here' there' link goes turn =>
      cases reads_of_turn turn stage with
      | begins idle ping =>
          subst idle ping
          refine .begins positive (fun ponged => now ▸ tended'.heard here there ponged) ?_
          cases mode : s.hub.settings.keepAlive with
          | passive => simpa only [pingsBy, mode', mode] using Nat.add_lt_add_left interval _
          | active => simpa only [pingsBy, mode', mode] using gap mode
      | goesOn stage' reads pong pings =>
          obtain ⟨pinged, closed⟩ := Connection.pinged_of_goes goes
          have wasOpen : was.link.closed = false :=
            Bool.eq_false_iff.mpr fun shut => Bool.false_ne_true (isOpen.symm.trans (closed shut))
          have after : next.hub.connection? before.link = some c := link ▸ there
          have same : c.link.variant = was.link.variant := by
            obtain ⟨_, after', leads⟩ := persists.connection there'
            cases after.symm.trans after'
            exact leads.variant
          rw [same] at sustains gap ⊢
          refine (spared.inTime here' there' stage' wasOpen sustains).onward reads
            ((ponged_of_permits apart here' goes).imp id (And.imp_right pong)) pinged ?_
          cases mode : s.hub.settings.keepAlive with
          | passive =>
              simp only [pingsBy, mode', mode]
              refine pings.imp Nat.le_of_eq fun ⟨sends, due, same⟩ => ⟨?_, by omega⟩
              exact pinged_by_reader here' there' stage' wasOpen attends after moved sends
          | active =>
              simp only [pingsBy, mode', mode]
              refine ((approaches mode).sooner was.link.variant).imp id fun reaches => ⟨?_, gap mode⟩
              exact now ▸ pinged_by_sweep here' there' stage' wasOpen attends after tended isOpen
                reaches

/-- The connection of reader number `i` is not closed as idle, if its variant is sustained. -/
def NotIdle (s : Server) (i : Nat) : Prop :=
  ∀ (reader : Reader) (c : Connection), s.reader? i = some reader →
    s.hub.connection? reader.link = some c → s.hub.settings.Sustains c.link.variant →
    c.link.cause ≠ some .idle

theorem notIdle_of_step? (grounded : s.Grounded) (apart : s.Apart)
    (coherent : ∀ {link : Nat} {c : Connection}, s.hub.connection? link = some c → c.link.Coherent)
    (spared : s.Spared i phase) (notIdle : s.NotIdle i) (goesOn : move ≠ .shutDown)
    (moved : s.step? move = some next) : next.NotIdle i := by
  by_cases passes : ∃ ms, move = .advance ms
  · obtain ⟨ms, rfl⟩ := passes
    cases moved
    exact notIdle
  have still : ∀ ms, move ≠ .advance ms := fun ms same => passes ⟨ms, same⟩
  have persists := step?_persists moved
  intro reader c here there sustains
  rw [persists.settings] at sustains
  cases past_of_step? grounded goesOn still moved here there with
  | new target _ _ _ _ _ goes =>
      exact Connection.notIdle_of_goes goes (fun _ common => (Deed.ne_of_isCommon common).2) nofun
  | old before was here' there' link goes turn =>
      obtain ⟨_, after, leads⟩ := persists.connection there'
      rw [link] at after
      cases there.symm.trans after
      rw [leads.variant] at sustains
      have notYet := notIdle before was here' there' sustains
      cases closed : was.link.closed with
      | true =>
          obtain ⟨cause, first⟩ := Option.isSome_iff_exists.mp ((coherent there').cause.trans closed)
          rw [leads.cause first]
          exact first ▸ notYet
      | false =>
          refine Connection.notIdle_of_goes goes (fun deed permitted => ?_) notYet
          cases permitted with
          | common common => exact (Deed.ne_of_isCommon common).2
          | writing writing => exact (Deed.ne_of_isWriting writing).2
          | hear | leave => exact nofun
          | idle found same =>
              -- Its reader would close it, but it is in time.
              cases apart found here' same
              rcases turn with turn | ⟨other, -⟩
              · cases turn with
                | stop stage why =>
                    rcases why with ⟨_, -, ⟨⟩⟩ | ⟨-, due⟩ | ⟨⟨⟩, -⟩
                    have soon := (spared.inTime here' there' stage closed sustains).soon
                    omega
              · exact absurd rfl other

/-! ### Whole runs -/

theorem settings_of_run? (run : (fresh settings mark).run? moves = some s) :
    s.hub.settings = settings :=
  run?_induction (P := fun _ s => s.hub.settings = settings)
    (fun _ same moved => (step?_persists moved).settings.trans same) rfl run

theorem spared_fresh (settings : Settings) (mark : Mark) (i : Nat) :
    (fresh settings mark).Spared i (.rests settings.pingInterval) :=
  ⟨fun active => inPhase_fresh active, fun here => absurd here (no_reader_fresh settings mark)⟩

/-- **Who answers its pings is not closed as idle**, in either mode and however silent other peers
are, as long as the settings sustain its variant: a sweep waits for the slowest probe, so the ping
interval alone does not. -/
theorem kept_alive (valid : settings.Valid) (run : (fresh settings mark).run? moves = some s)
    (attended : Attended i (fresh settings mark) moves) (here : s.reader? i = some reader)
    (there : s.hub.connection? reader.link = some c) (sustains : settings.Sustains c.link.variant) :
    c.link.cause ≠ some .idle := by
  have start : Attended i (fresh settings mark) [] →
      (∃ phase, (fresh settings mark).Spared i phase) ∧ (fresh settings mark).NotIdle i :=
    fun _ => ⟨⟨_, spared_fresh settings mark i⟩,
      fun _ _ here => absurd here (no_reader_fresh settings mark)⟩
  have kept := run?_induction (P := fun moves s => Attended i (fresh settings mark) moves →
    (∃ phase, s.Spared i phase) ∧ s.NotIdle i) ?_ start run attended
  · exact kept.2 reader c here there (settings_of_run? run ▸ sustains)
  · intro moves mid next move run kept moved attended
    obtain ⟨before, attends⟩ := attended.concat run
    obtain ⟨⟨phase, spared⟩, notIdle⟩ := kept before
    have grounded := grounded_of_run? run
    have apart : mid.Apart := apart_of_run? run
    have interval : mid.hub.settings.pingInterval < mid.hub.settings.idleTimeout := by
      rw [settings_of_run? run]
      exact Settings.pingInterval_lt valid
    exact ⟨spared_of_step? interval grounded apart (tended_of_run? before.goesOn run i)
      (handling_of_run? run) spared attends moved,
      notIdle_of_step? grounded apart (coherent_of_run? run) spared notIdle attends.goesOn moved⟩

/-- Two devices connect to a server that sweeps. -/
def twoDevices : List Move := [
  .upgrade "/OCPP16/T/K/D" (some "ocpp1.6"), .upgrade "/OCPP16/T/K/E" (some "ocpp1.6"),
  .hub (.directoryAnswers 0 (.ok ⟨⟨"T", "T"⟩, ⟨"D", none, none, none⟩⟩)),
  .hub (.directoryAnswers 1 (.ok ⟨⟨"T", "T"⟩, ⟨"E", none, none, none⟩⟩)),
  .opened 0, .opened 1]

/-- The first one of them reads its ping and answers it. -/
def firstAnswers : List Move := [.hub (.takeUp 0), .hub (.socketTakes 0), .read 0 .pong]

/-- Settings with which a sweep is done before connections idle out. -/
def quickSettings : Settings :=
  { keepAlive := .active, pingInterval := 2, probeTimeout := 2, idleTimeout := 5 }

/-- A run in which one of two devices answers two sweeps and the other one says nothing. -/
def sweptRun : List Move :=
  twoDevices ++ [.advance 2, .sweep] ++ firstAnswers ++
    [.hub (.resume 2), .advance 2, .hub (.resume 2), .swept, .sweep] ++ firstAnswers ++
    [.hub (.resume 3), .advance 1, .idle 1, .advance 1]

theorem kept_alive_sweptRun : ∃ s reader c, (fresh quickSettings).run? sweptRun = some s ∧
    quickSettings.idleTimeout < s.hub.now ∧ Attended 0 (fresh quickSettings) sweptRun ∧
    s.reader? 0 = some reader ∧ s.hub.connection? reader.link = some c ∧
    quickSettings.Sustains c.link.variant ∧ c.link.cause ≠ some .idle := by
  have valid : quickSettings.Valid := by decide +kernel
  have attended : Attended 0 (fresh quickSettings) sweptRun :=
    ⟨by simp [sweptRun, twoDevices, firstAnswers], by decide +kernel, by decide +kernel,
      by decide +kernel, by decide +kernel⟩
  obtain ⟨s, run⟩ : ∃ s, (fresh quickSettings).run? sweptRun = some s :=
    Option.isSome_iff_exists.mp (by decide +kernel)
  have late : ((fresh quickSettings).run? sweptRun).any
      (fun s => decide (quickSettings.idleTimeout < s.hub.now)) = true := by decide +kernel
  have known : (((fresh quickSettings).run? sweptRun).bind fun s =>
      (s.reader? 0).bind fun reader => s.hub.connection? reader.link).isSome = true := by
    decide +kernel
  rw [run] at late
  rw [run, Option.bind_some] at known
  obtain ⟨c, known⟩ := Option.isSome_iff_exists.mp known
  obtain ⟨reader, here, there⟩ := Option.bind_eq_some_iff.mp known
  have sustains : quickSettings.Sustains c.link.variant := by
    cases c.link.variant <;> decide
  exact ⟨s, reader, c, run, of_decide_eq_true late, attended, here, there, sustains,
    kept_alive valid run attended here there sustains⟩

/-- Settings with which a probe may outlast the idle timeout. -/
def slowSettings : Settings :=
  { keepAlive := .active, pingInterval := 2, probeTimeout := 9, idleTimeout := 3 }

/-- A run in which one of two devices answers its ping and idles out while the sweep still waits for
the other one. -/
def stalledRun : List Move :=
  twoDevices ++ [.advance 2, .sweep] ++ firstAnswers ++
    [.hub (.resume 2), .advance 1, .idle 1, .advance 2, .idle 0]

/-- **A sweep that waits for a silent peer lets one that answers idle out**, whatever the ping
interval is. -/
theorem idled_out : ∃ s reader c, slowSettings.Valid ∧
    (fresh slowSettings).run? stalledRun = some s ∧ Attended 0 (fresh slowSettings) stalledRun ∧
    s.reader? 0 = some reader ∧ s.hub.connection? reader.link = some c ∧
    c.link.cause = some .idle := by
  have valid : slowSettings.Valid := by decide +kernel
  have attended : Attended 0 (fresh slowSettings) stalledRun :=
    ⟨by simp [stalledRun, twoDevices, firstAnswers], by decide +kernel, by decide +kernel,
      by decide +kernel, by decide +kernel⟩
  obtain ⟨s, run⟩ : ∃ s, (fresh slowSettings).run? stalledRun = some s :=
    Option.isSome_iff_exists.mp (by decide +kernel)
  have known : (((fresh slowSettings).run? stalledRun).bind fun s =>
      (s.reader? 0).bind fun reader => s.hub.connection? reader.link).map
        (fun c => c.link.cause) = some (some .idle) := by decide +kernel
  rw [run, Option.bind_some] at known
  obtain ⟨c, known, idle⟩ := Option.map_eq_some_iff.mp known
  obtain ⟨reader, here, there⟩ := Option.bind_eq_some_iff.mp known
  exact ⟨s, reader, c, valid, run, attended, here, there, idle⟩

end Server

end StationHub
