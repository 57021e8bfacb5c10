import StationHub.Proofs.Link.Pings
import StationHub.Proofs.Server.Readers
import StationHub.Proofs.Tasks.Deeds

/-!
What each move of a server does to the connections.

* `Serves`: what a hub does within a move of its server; `serves_of_mem`.
* `Permits`: the deeds that a move may do to a connection. Only reading a pong is noted as one, only
  an idle reader closes its connection as idle, and only a reader that leaves lets go of it.
* `goes_of_step?`: a move does no others, and time stands still unless it passes.
* `Apart`: different readers have different connections.
* `Past`: what a reader and its connection come from; `past_of_step?`.
* `Tended`: what holds of every connection that has a reader.
-/

namespace StationHub

open Connection (Deed)

namespace Hub

variable {h next : Hub} {moves : List Move} {i : Nat} {c : Connection}

/-- What a run does to a connection while time stands still. -/
theorem goes_of_run? (still : ∀ move ∈ moves, ∀ ms, move ≠ .advance ms)
    (run : h.run? moves = some next) :
    next.now = h.now ∧ ∀ {i c}, h.connection? i = some c → ∃ c', next.connection? i = some c' ∧
      c.Goes (fun deed => ∃ move ∈ moves, move.Permits i deed) h.now c' := by
  induction moves generalizing h with
  | nil =>
      cases run
      exact ⟨rfl, fun {i c} here => ⟨c, here, .refl _ _ c⟩⟩
  | cons move rest ih =>
      rw [run?_cons] at run
      obtain ⟨mid, moved, run⟩ := Option.bind_eq_some_iff.mp run
      obtain ⟨now, later⟩ := ih (fun other member => still other (List.mem_cons_of_mem _ member)) run
      have first : mid.now = h.now ∧ ∀ {i c}, h.connection? i = some c →
          ∃ c', mid.connection? i = some c' ∧ c.Goes (move.Permits i) h.now c' := by
        rcases step?_does moved with does | ⟨variant, rfl⟩ | ⟨ms, rfl⟩
        · exact ⟨Does.now does, Does.connection does⟩
        · cases moved
          refine ⟨rfl, fun {i c} here => ⟨c, ?_, .refl _ _ c⟩⟩
          obtain ⟨within, -⟩ := List.getElem?_eq_some_iff.mp here
          exact (List.getElem?_append_left within).trans here
        · exact absurd rfl (still _ List.mem_cons_self ms)
      refine ⟨now.trans first.1, fun {i c} here => ?_⟩
      obtain ⟨c', at_mid, goes⟩ := first.2 here
      obtain ⟨c'', there, goes'⟩ := later at_mid
      rw [first.1] at goes'
      refine ⟨c'', there, (goes.mono fun deed permitted => ?_).trans
        (goes'.mono fun deed permitted => ?_)⟩
      · exact ⟨move, List.mem_cons_self, permitted⟩
      · obtain ⟨other, member, permitted⟩ := permitted
        exact ⟨other, List.mem_cons_of_mem _ member, permitted⟩

/-- The move is about no task that waits, and does nothing but common deeds. -/
def Move.isPlain : Move → Bool
  | .refuse | .accept _ | .opening .. | .handling .. | .sweeping | .ending .. | .ping _ => true
  | _ => false

end Hub

namespace Server

variable {s next : Server} {move : Move} {deed : Deed} {i : Nat} {reader : Reader}

/-! ### Within a move -/

/-- What a hub does within a move of its server, unless it is shut down or time passes. -/
inductive Serves (s : Server) : Move → Hub.Move → Prop where
  | internal {m : Hub.Move} : m.isInternal = true → Serves s (.hub m) m
  | plain {move : Move} {m : Hub.Move} : m.isPlain = true → Serves s move m
  | hear {j : Nat} {reader : Reader} : s.reader? j = some reader →
      Serves s (.read j .pong) (.pong reader.link)
  | close {move : Move} {link : Nat} {cause : CloseCause} : cause ≠ .idle →
      Serves s move (.close link cause)
  | idle {j : Nat} {reader : Reader} : s.reader? j = some reader →
      Serves s (.idle j) (.close reader.link .idle)
  | leave {j : Nat} {reader : Reader} : s.reader? j = some reader → reader.stage = .ended →
      Serves s (.leave j) (.lettingGo reader.link)
  /-- A reader drops what it has in hand. -/
  | drop {move : Move} {j session task idleAt pingAt : Nat} {reader : Reader} :
      s.reader? j = some reader →
      reader.stage = .reading session (some (.running task)) idleAt pingAt →
      Serves s move (.cancel task)

theorem serves_of_stopMoves {m : Hub.Move} {session idleAt pingAt : Nat}
    {handover : Option Handover} (here : s.reader? i = some reader)
    (stage : reader.stage = .reading session handover idleAt pingAt)
    (member : m ∈ stopMoves reader session handover) : s.Serves move m := by
  rcases List.mem_append.mp member with dropped | ending
  · unfold dropMoves at dropped
    split at dropped
    · cases List.mem_singleton.mp dropped
      exact .drop here stage
    · cases dropped
  · cases List.mem_singleton.mp ending
    exact .plain rfl

theorem serves_of_readerMoves {m : Hub.Move} (about : move.reader? = some i)
    (here : s.reader? i = some reader) (moved : s.step? move = some next)
    (member : m ∈ s.readerMoves reader move) : s.Serves move m := by
  cases move <;> cases about
  case read.refl item =>
    rw [readerMoves] at member
    split at member
    · cases item with
      | letter | ping => cases member
      | pong =>
          cases List.mem_singleton.mp member
          exact .hear here
      | close | finish | failure =>
          cases List.mem_singleton.mp member
          exact .close (by decide)
    · next stage =>
      cases item with
      | letter | ping => cases member
      | pong =>
          cases List.mem_singleton.mp member
          exact .hear here
      | close | finish => exact serves_of_stopMoves here stage member
      | failure =>
          rcases List.mem_cons.mp member with rfl | member
          · exact .close (by decide)
          · exact serves_of_stopMoves here stage member
    · cases member
  case opened =>
    rw [readerMoves] at member
    split at member
    · split at member
      · cases List.mem_singleton.mp member
        exact .plain rfl
      · cases member
    · cases member
  case handOver =>
    rw [readerMoves] at member
    split at member
    · cases List.mem_singleton.mp member
      exact .plain rfl
    · cases member
  case handled => cases member
  case idle =>
    rw [readerMoves] at member
    split at member
    · next stage =>
      rcases List.mem_cons.mp member with rfl | member
      · exact .idle here
      · exact serves_of_stopMoves here stage member
    · cases member
  case ping =>
    cases List.mem_singleton.mp member
    exact .plain rfl
  case noticeClose =>
    rw [readerMoves] at member
    split at member
    · next stage => exact serves_of_stopMoves here stage member
    · cases member
  case leave =>
    cases List.mem_singleton.mp member
    obtain ⟨_, _, here', turn, -⟩ := turn_of_step? rfl moved
    cases here.symm.trans here'
    cases turn with
    | leave ended => exact .leave here ended
    | stop _ why => rcases why with ⟨_, -, why⟩ | ⟨why, -⟩ | ⟨why, -⟩ <;> cases why

theorem serves_of_mem {m : Hub.Move} (goesOn : move ≠ .shutDown) (still : ∀ ms, move ≠ .advance ms)
    (moved : s.step? move = some next) (member : m ∈ s.hubMoves move) : s.Serves move m := by
  cases about : move.reader? with
  | some j =>
      obtain ⟨reader, _, here, -⟩ := turn_of_step? about moved
      rw [hubMoves_of_reader about here] at member
      exact serves_of_readerMoves about here moved member
  | none =>
      cases move with
      | hub m =>
          cases List.mem_singleton.mp member
          exact .internal (hub_of_internal moved).1
      | upgrade path offered =>
          rw [hubMoves] at member
          split at member
          · cases List.mem_singleton.mp member
            exact .plain rfl
          · rcases List.mem_cons.mp member with rfl | member
            · exact .plain rfl
            · cases List.mem_singleton.mp member
              exact .plain rfl
      | sweep =>
          cases List.mem_singleton.mp member
          exact .plain rfl
      | swept | stopListening => cases member
      | shutDown => exact absurd rfl goesOn
      | advance ms => exact absurd rfl (still ms)
      | _ => cases about

/-! ### What it does to connections -/

/-- A move of a server may do the deed to connection number `i`. -/
inductive Permits (s : Server) (i : Nat) : Move → Deed → Prop where
  | common {move : Move} {deed : Deed} : deed.isCommon = true → Permits s i move deed
  | writing {move : Move} {deed : Deed} : deed.isWriting = true → Permits s i move deed
  | hear {j : Nat} {reader : Reader} : s.reader? j = some reader → reader.link = i →
      Permits s i (.read j .pong) .pong
  | idle {j : Nat} {reader : Reader} : s.reader? j = some reader → reader.link = i →
      Permits s i (.idle j) (.close .idle)
  | leave {j : Nat} {reader : Reader} : s.reader? j = some reader → reader.link = i →
      reader.stage = .ended → Permits s i (.leave j) .letGo

theorem permits_of_serves {m : Hub.Move} (serves : s.Serves move m)
    (permitted : m.Permits i deed) : s.Permits i move deed := by
  rcases permitted with common | does | ⟨cause, rfl, rfl⟩
  · exact .common common
  · cases serves with
    | @internal m internal =>
        cases m with
        | takeUp | socketTakes | socketFails | writerExpires =>
            cases does
            exact .writing rfl
        | sending | calling | resume | directoryAnswers | executorAnswers | expire => cases does
        | _ => cases internal
    | @plain _ m plain =>
        cases m with
        | refuse | accept | opening | handling | sweeping | ending | ping => cases does
        | _ => cases plain
    | hear here =>
        cases does
        exact .hear here rfl
    | close other =>
        cases does
        exact .common (bne_iff_ne.mpr other)
    | idle here =>
        cases does
        exact .idle here rfl
    | leave here ended =>
        cases does
        exact .leave here rfl ended
    | drop => cases does
  · cases serves with
    | internal internal => cases internal
    | plain plain => cases plain

/-- **A move of a server does to the connections what it permits**, and time stands still, unless it
is shut down or time passes. -/
theorem goes_of_step? (goesOn : move ≠ .shutDown) (still : ∀ ms, move ≠ .advance ms)
    (moved : s.step? move = some next) :
    next.hub.now = s.hub.now ∧ ∀ {i c}, s.hub.connection? i = some c →
      ∃ c', next.hub.connection? i = some c' ∧ c.Goes (s.Permits i move) s.hub.now c' := by
  have serves {m : Hub.Move} (member : m ∈ s.hubMoves move) : s.Serves move m :=
    serves_of_mem goesOn still moved member
  have noTime : ∀ m ∈ s.hubMoves move, ∀ ms, m ≠ .advance ms := by
    rintro m member ms rfl
    cases serves member with
    | internal internal => cases internal
    | plain plain => cases plain
  obtain ⟨now, goes⟩ := Hub.goes_of_run? noTime (step?_unnoted moved)
  refine ⟨now, fun {i c} here => ?_⟩
  obtain ⟨c', there, goes⟩ := goes here
  refine ⟨c', there, goes.mono fun deed permitted => ?_⟩
  obtain ⟨m, member, permitted⟩ := permitted
  exact permits_of_serves (serves member) permitted

/-! ### Readers and their connections -/

/-- Different readers have different connections. -/
def Apart (s : Server) : Prop :=
  ∀ {i j : Nat} {reader other : Reader}, s.reader? i = some reader → s.reader? j = some other →
    reader.link = other.link → i = j

theorem length_readers (moved : s.step? move = some next) :
    next.readers.length ≤ s.readers.length + 1 := by
  cases about : move.reader? with
  | some i =>
      obtain ⟨_, _, -, -, same⟩ := readers_of_step? about moved
      rw [same, List.length_set]
      exact Nat.le_succ _
  | none =>
      rcases readers_of_nobody about moved with same | ⟨_, _, _, -, -, same⟩
      · rw [same]
        exact Nat.le_succ _
      · rw [same, List.length_append]
        exact Nat.le_refl _

/-- A reader has the connection that it had, or a new one. -/
theorem origin_of_step? (there : next.reader? i = some reader) (moved : s.step? move = some next) :
    (∃ old, s.reader? i = some old ∧ old.link = reader.link) ∨
      i = s.readers.length ∧ reader.link = s.hub.connections.length := by
  cases here : s.reader? i with
  | none =>
      obtain ⟨_, _, target, -, -, rfl⟩ := newcomer_of_step? here there moved
      have beyond : s.readers.length ≤ i := List.getElem?_eq_none_iff.mp here
      have within : i < next.readers.length := (List.getElem?_eq_some_iff.mp there).1
      have grows := length_readers moved
      exact .inr ⟨by omega, rfl⟩
  | some old =>
      refine .inl ⟨old, rfl, ?_⟩
      by_cases about : move.reader? = some i
      · obtain ⟨before, after, here', turn, there'⟩ := turn_of_step? about moved
        cases here.symm.trans here'
        cases there.symm.trans there'
        exact (link_eq_of_turn turn).symm
      · cases there.symm.trans (reader?_of_step? about here moved)
        rfl

theorem step?_apart (grounded : s.Grounded) (apart : s.Apart) (moved : s.step? move = some next) :
    next.Apart := by
  have within {j : Nat} {old : Reader} (here : s.reader? j = some old) :
      old.link < s.hub.connections.length := by
    obtain ⟨c, at_link⟩ := grounded.connected here
    exact (List.getElem?_eq_some_iff.mp at_link).1
  intro i j reader other there there' same
  rcases origin_of_step? there moved with ⟨old, here, link⟩ | ⟨number, link⟩ <;>
    rcases origin_of_step? there' moved with ⟨old', here', link'⟩ | ⟨number', link'⟩
  · exact apart here here' (link.trans (same.trans link'.symm))
  · have := within here
    omega
  · have := within here'
    omega
  · exact number.trans number'.symm

theorem apart_of_run? {settings : Settings} {mark : Mark} {moves : List Move}
    (run : (fresh settings mark).run? moves = some s) : s.Apart :=
  run?_induction (P := fun _ s => s.Apart)
    (fun run apart moved => step?_apart (grounded_of_run? run) apart moved) nofun run

/-- The connection that an upgrade brings is new, but for the beginning of its opening. -/
theorem goes_of_upgrade {path : String} {offered : Option String} {target : Target}
    (is : Upgrade.target s.hub.settings path offered = .ok target)
    (moved : s.step? (.upgrade path offered) = some next) :
    ∃ c, next.hub.connection? s.hub.connections.length = some c ∧
      (Connection.fresh target.variant s.hub.settings.queueCapacity s.hub.settings.watermark).Goes
        (fun deed => deed.isCommon = true) s.hub.now c := by
  have run := step?_unnoted moved
  rw [hubMoves, is, Hub.run?_cons] at run
  obtain ⟨mid, accepted, run⟩ := Option.bind_eq_some_iff.mp run
  cases accepted
  obtain ⟨-, goes⟩ := Hub.goes_of_run? (fun m member ms same => by
    cases (List.mem_singleton.mp member).symm.trans same) run
  obtain ⟨c, there, goes⟩ := goes (i := s.hub.connections.length) (List.getElem?_concat_length ..)
  refine ⟨c, there, goes.mono fun deed permitted => ?_⟩
  obtain ⟨m, member, permitted⟩ := permitted
  cases List.mem_singleton.mp member
  rcases permitted with common | does | ⟨_, ⟨⟩, -⟩
  · exact common
  · cases does

/-- What reader number `i` and its connection come from. -/
inductive Past (s : Server) (i : Nat) (move : Move) (reader : Reader) (c : Connection) : Prop where
  | new (target : Target) (variant : Variant) (capacity watermark : Nat) :
      s.reader? i = none → reader = s.newReader target →
      (Connection.fresh variant capacity watermark).Goes (fun deed => deed.isCommon = true)
        s.hub.now c → Past s i move reader c
  | old (before : Reader) (was : Connection) : s.reader? i = some before →
      s.hub.connection? before.link = some was → before.link = reader.link →
      was.Goes (s.Permits before.link move) s.hub.now c →
      before.Turn s i move reader ∨ move.reader? ≠ some i ∧ reader = before →
      Past s i move reader c

theorem past_of_step? (grounded : s.Grounded) (goesOn : move ≠ .shutDown)
    (still : ∀ ms, move ≠ .advance ms) (moved : s.step? move = some next)
    (here : next.reader? i = some reader) {c : Connection}
    (there : next.hub.connection? reader.link = some c) : s.Past i move reader c := by
  cases before : s.reader? i with
  | none =>
      obtain ⟨path, offered, target, rfl, is, rfl⟩ := newcomer_of_step? before here moved
      obtain ⟨c', there', goes⟩ := goes_of_upgrade is moved
      cases there.symm.trans there'
      exact .new target target.variant _ _ before rfl goes
  | some old =>
      obtain ⟨was, at_link⟩ := grounded.connected before
      obtain ⟨-, goes⟩ := goes_of_step? goesOn still moved
      obtain ⟨c', there', goes⟩ := goes at_link
      by_cases about : move.reader? = some i
      · obtain ⟨old', after, before', turn, here'⟩ := turn_of_step? about moved
        cases before.symm.trans before'
        cases here.symm.trans here'
        have link := link_eq_of_turn turn
        rw [link] at there
        cases there.symm.trans there'
        exact .old old was before at_link link.symm goes (.inl turn)
      · cases here.symm.trans (reader?_of_step? about before moved)
        cases there.symm.trans there'
        exact .old reader was before at_link rfl goes (.inr ⟨about, rfl⟩)

/-- What holds of the connection of reader number `i`: the reader keeps it, and no pong came later
than now. -/
structure Tended (s : Server) (i : Nat) : Prop where
  kept : ∀ {reader : Reader} {c : Connection}, s.reader? i = some reader →
    s.hub.connection? reader.link = some c → reader.stage ≠ .ended → 0 < c.keepers
  heard : ∀ {reader : Reader} {c : Connection} {time : Nat}, s.reader? i = some reader →
    s.hub.connection? reader.link = some c → c.link.lastPong = some time → time ≤ s.hub.now

theorem ended_of_turn {after : Reader} (turn : reader.Turn s i move after)
    (rests : reader.stage = .ended) : after.stage = .ended := by
  cases turn with
  | leave stage => exact stage
  | fail | stop => rfl
  | keep stage | listen stage | deafen stage | take stage | queue stage | hear stage
  | begin_ stage | handOver stage | handled stage | ping stage => cases rests.symm.trans stage

theorem step?_tended (grounded : s.Grounded) (apart : s.Apart) (tended : s.Tended i)
    (goesOn : move ≠ .shutDown) (moved : s.step? move = some next) : next.Tended i := by
  by_cases passes : ∃ ms, move = .advance ms
  · obtain ⟨ms, rfl⟩ := passes
    cases moved
    exact ⟨tended.kept, fun here there heard =>
      Nat.le_trans (tended.heard here there heard) (Nat.le_add_right ..)⟩
  · have still : ∀ ms, move ≠ .advance ms := fun ms same => passes ⟨ms, same⟩
    obtain ⟨now, -⟩ := goes_of_step? goesOn still moved
    constructor
    · intro reader c here there goesOn'
      cases past_of_step? grounded goesOn still moved here there with
      | new target variant capacity watermark absent same goes =>
          have kept := Connection.keepers_of_goes goes fun deed common =>
            (Deed.ne_of_isCommon common).1
          rw [kept]
          exact Nat.one_pos
      | old before was here' there' link goes turn =>
          have reads : before.stage ≠ .ended := by
            rcases turn with turn | ⟨-, rfl⟩
            · exact fun rests => goesOn' (ended_of_turn turn rests)
            · exact goesOn'
          have kept := Connection.keepers_of_goes goes fun deed permitted => by
            cases permitted with
            | common common => exact (Deed.ne_of_isCommon common).1
            | writing writing => exact (Deed.ne_of_isWriting writing).1
            | hear | idle => exact ⟨nofun, nofun⟩
            | leave leaver same rests =>
                cases apart leaver here' same
                cases leaver.symm.trans here'
                exact absurd rests reads
          rw [kept]
          exact tended.kept here' there' reads
    · intro reader c time here there heard
      rw [now]
      cases past_of_step? grounded goesOn still moved here there with
      | new target variant capacity watermark absent same goes =>
          rcases Connection.ponged_of_goes goes with old | ⟨common, -⟩
          · cases heard.symm.trans old
          · cases common
      | old before was here' there' link goes turn =>
          rcases Connection.ponged_of_goes goes with old | ⟨-, just⟩
          · exact tended.heard here' there' (old.symm.trans heard)
          · cases heard.symm.trans just
            exact Nat.le_refl _

theorem no_reader_fresh (settings : Settings) (mark : Mark) {i : Nat} {reader : Reader} :
    (fresh settings mark).reader? i ≠ some reader := nofun

theorem tended_fresh (settings : Settings) (mark : Mark) (i : Nat) :
    (fresh settings mark).Tended i :=
  ⟨fun here => absurd here (no_reader_fresh settings mark),
    fun here => absurd here (no_reader_fresh settings mark)⟩

theorem tended_of_run? {settings : Settings} {mark : Mark} {moves : List Move}
    (goesOn : .shutDown ∉ moves) (run : (fresh settings mark).run? moves = some s) (i : Nat) : s.Tended i := by
  refine run?_induction (P := fun moves s => .shutDown ∉ moves → s.Tended i) ?_
    (fun _ => tended_fresh settings mark i) run goesOn
  intro moves mid next move run tended moved goesOn
  rw [List.mem_append, not_or, List.mem_singleton] at goesOn
  exact step?_tended (grounded_of_run? run) (apart_of_run? run) (tended goesOn.1) (Ne.symm goesOn.2)
    moved

/-- All connections are coherent. -/
theorem coherent_of_run? {settings : Settings} {mark : Mark} {moves : List Move}
    (run : (fresh settings mark).run? moves = some s) {link : Nat} {c : Connection}
    (here : s.hub.connection? link = some c) : c.link.Coherent := by
  have start : ∀ {link : Nat} {l : Link}, (fresh settings mark).hub.link? link = some l →
      l.Coherent := fun here => nomatch here
  refine run?_induction (P := fun _ s => ∀ {link : Nat} {l : Link}, s.hub.link? link = some l →
    l.Coherent) (fun _ coherent moved => (step?_persists moved).coherent coherent) start run
    (Hub.link?_eq_some_iff.mpr ⟨c, here, rfl⟩)

end Server

end StationHub
