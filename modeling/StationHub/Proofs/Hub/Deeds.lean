import StationHub.Proofs.Hub.Step
import StationHub.Proofs.Link.Deeds

/-!
What a hub does to its connections.

* `Doing`, `Does`: connections change by deeds that `permits` allows, and time stands still; each
  operation has its lemma `does_…`.
* `Deed.isCommon`: what is done to connections in passing; `Deed.isPassing`: what does not take them
  further in their course; `Deed.isPlain`: what any operation may do; `Deed.isSweeping`: what a sweep
  may do; `Deed.isOrderly`: what does not bring about the last phases without a close.
* `Does.connection`, `Does.length`, `Does.now`: what follows for each connection.
-/

namespace StationHub

namespace Connection

/-- What is done to connections in passing: the peer has not been heard, the connection is not idle,
and neither its writer nor its keepers have moved. -/
def Deed.isCommon : Deed → Bool
  | .text _ | .ping | .probe _ | .probeFails | .probeSucceeds | .enter _ | .identify _
  | .finish => true
  | .close cause => cause != .idle
  | _ => false

/-- What a sweep does to a connection. -/
def Deed.isSweeping : Deed → Bool
  | .probe _ | .probeFails | .probeSucceeds => true
  | .close cause => cause == .unresponsive
  | _ => false

/-- What is done to connections in passing and takes none of them further in its course. -/
def Deed.isPassing : Deed → Bool
  | .text _ | .ping | .probe _ | .probeFails | .probeSucceeds | .identify _ => true
  | .close cause => cause != .idle
  | _ => false

/-- What any operation may do to any connection, whichever it is about. -/
def Deed.isPlain : Deed → Bool
  | .text _ | .ping | .probe _ | .identify _ => true
  | .close cause => cause == .normal || cause == .unidentified || cause == .shutdown
  | _ => false

/-- The deed leaves it to closes and ends to bring about the last phases. -/
def Deed.isOrderly : Deed → Bool
  | .enter phase => !phase.isOver
  | _ => true

theorem Deed.isPassing_of_isSweeping {deed : Deed} (sweeping : deed.isSweeping = true) :
    deed.isPassing = true := by
  cases deed with
  | close cause => cases cause <;> first | rfl | cases sweeping
  | _ => first | rfl | cases sweeping

theorem Deed.isPassing_of_isPlain {deed : Deed} (plain : deed.isPlain = true) :
    deed.isPassing = true := by
  cases deed with
  | close cause => cases cause <;> first | rfl | cases plain
  | _ => first | rfl | cases plain

theorem Deed.isCommon_of_isPassing {deed : Deed} (passing : deed.isPassing = true) :
    deed.isCommon = true := by
  cases deed with
  | close cause => exact passing
  | _ => first | rfl | cases passing

/-- The connection comes to `next` at time `now` by deeds that are permitted. -/
def Goes (permits : Deed → Prop) (now : Nat) (c next : Connection) : Prop :=
  ∃ deeds : List Deed, (∀ deed ∈ deeds, permits deed) ∧
    c.run? (deeds.map fun deed => (now, deed)) = some next

theorem Goes.refl (permits : Deed → Prop) (now : Nat) (c : Connection) : c.Goes permits now c :=
  ⟨[], nofun, rfl⟩

theorem Goes.then {permits : Deed → Prop} {now : Nat} {c mid next : Connection}
    (goes : c.Goes permits now mid) {deed : Deed} (permitted : permits deed)
    (acted : mid.act? now deed = some next) : c.Goes permits now next := by
  obtain ⟨deeds, all, run⟩ := goes
  refine ⟨deeds ++ [deed], fun other member => ?_, ?_⟩
  · rcases List.mem_append.mp member with old | new
    · exact all other old
    · exact List.mem_singleton.mp new ▸ permitted
  · rw [List.map_append]
    exact Runs.run_concat.mpr ⟨mid, run, acted⟩

theorem Goes.mono {permits permits' : Deed → Prop} {now : Nat} {c next : Connection}
    (wider : ∀ deed, permits deed → permits' deed) (goes : c.Goes permits now next) :
    c.Goes permits' now next := by
  obtain ⟨deeds, all, run⟩ := goes
  exact ⟨deeds, fun deed member => wider deed (all deed member), run⟩

theorem Goes.trans {permits : Deed → Prop} {now : Nat} {c mid next : Connection}
    (first : c.Goes permits now mid) (second : mid.Goes permits now next) :
    c.Goes permits now next := by
  obtain ⟨deeds, all, run⟩ := first
  obtain ⟨deeds', all', run'⟩ := second
  refine ⟨deeds ++ deeds', fun deed member => ?_, ?_⟩
  · exact (List.mem_append.mp member).elim (all deed) (all' deed)
  · unfold run? at run run' ⊢
    rw [List.map_append, Runs.run_append, run]
    exact run'

/-- What holds of a connection and is kept by every permitted deed holds on. -/
theorem Goes.keeps {permits : Deed → Prop} {now : Nat} {c next : Connection} {P : Connection → Prop}
    (goes : c.Goes permits now next)
    (step : ∀ {mid next : Connection} {deed : Deed}, permits deed → P mid →
      mid.act? now deed = some next → P next)
    (start : P c) : P next := by
  obtain ⟨deeds, all, run⟩ := goes
  induction deeds generalizing c with
  | nil =>
      cases run
      exact start
  | cons deed rest ih =>
      obtain ⟨mid, acted, run⟩ := Option.bind_eq_some_iff.mp run
      exact ih (step (all deed List.mem_cons_self) start acted)
        (fun other member => all other (List.mem_cons_of_mem _ member)) run

end Connection

namespace Hub

open Connection (Deed)

/-- One permitted deed is done to a connection, or something changes that is no connection. -/
inductive Doing (permits : Nat → Deed → Prop) : Hub → Hub → Prop where
  | books {h next : Hub} : next.connections = h.connections → next.now = h.now →
      Doing permits h next
  | deed {h : Hub} {i : Nat} (deed : Deed) (change : Connection → Connection) :
      permits i deed →
      (∀ c, h.connection? i = some c → c.act? h.now deed = some (change c)) →
      Doing permits h (h.modifyConnection i change)

/-- Any number of permitted deeds. -/
abbrev Does (permits : Nat → Deed → Prop) : Hub → Hub → Prop := Relation.ReflTransGen (Doing permits)

variable {permits : Nat → Deed → Prop} {h next : Hub}

/-! ### What follows -/

theorem Does.now (does : Does permits h next) : next.now = h.now := by
  induction does with
  | refl => rfl
  | tail _ doing ih =>
      rw [← ih]
      cases doing with
      | books _ now => exact now
      | deed => rfl

theorem Does.length (does : Does permits h next) :
    next.connections.length = h.connections.length := by
  induction does with
  | refl => rfl
  | tail _ doing ih =>
      rw [← ih]
      cases doing with
      | books connections _ => rw [connections]
      | deed => exact List.length_modify ..

/-- Each connection changes by deeds that are permitted on it. -/
theorem Does.connection (does : Does permits h next) {i : Nat} {c : Connection}
    (here : h.connection? i = some c) :
    ∃ c', next.connection? i = some c' ∧ c.Goes (permits i) h.now c' := by
  induction does with
  | refl => exact ⟨c, here, .refl _ _ c⟩
  | @tail mid last before doing ih =>
      obtain ⟨c', there, goes⟩ := ih
      cases doing with
      | books connections _ => exact ⟨c', by rw [connection?, connections]; exact there, goes⟩
      | @deed j deed change permitted acts =>
          rw [connection?_modifyConnection, there]
          by_cases same : j = i
          · subst same
            refine ⟨change c', by simp, goes.then permitted ?_⟩
            rw [← Does.now before]
            exact acts c' there
          · exact ⟨c', by simp [same], goes⟩

theorem Does.mono {permits' : Nat → Deed → Prop} (wider : ∀ i deed, permits i deed → permits' i deed)
    (does : Does permits h next) : Does permits' h next := by
  refine Relation.ReflTransGen.mono (fun mid last doing => ?_) _ _ does
  cases doing with
  | books connections now => exact .books connections now
  | deed deed change permitted acts => exact .deed deed change (wider _ _ permitted) acts

/-! ### Elementary operations -/

theorem does_of_eq (connections : next.connections = h.connections) (now : next.now = h.now) :
    Does permits h next :=
  .single (.books connections now)

theorem does_setRoster (h : Hub) (variant : Variant) (roster : Roster Nat Nat) :
    Does permits h (h.setRoster variant roster) := by
  cases variant <;> exact does_of_eq rfl rfl

/-- A deed of those who hold a connection is done to it. -/
theorem does_modifyLink {i : Nat} (deed : Deed) (permitted : permits i deed)
    {change : Link → Link}
    (acts : ∀ c : Connection, c.act? h.now deed = some (c.onLink change)) :
    Does permits h (h.modifyLink i change) :=
  .single (.deed deed _ permitted fun c _ => acts c)

/-- A link is replaced by what a deed makes of it. -/
theorem does_replaceLink {i : Nat} {link : Link} (here : h.link? i = some link) (deed : Deed)
    (permitted : permits i deed) {change : Link → Link}
    (acts : ∀ c : Connection, c.act? h.now deed = some (c.onLink change)) :
    Does permits h (h.modifyLink i fun _ => change link) := by
  refine .single (.deed deed _ permitted fun c at_i => ?_)
  have same : c.link = link := by simpa [link?, at_i] using here
  rw [acts c, ← same]
  rfl

theorem does_changeConnection? {i : Nat} {change : Connection → Option Connection} (deed : Deed)
    (permitted : permits i deed) (acts : ∀ c : Connection, c.act? h.now deed = change c)
    (done : h.changeConnection? i change = some next) : Does permits h next := by
  unfold changeConnection? at done
  obtain ⟨c', changed, rfl⟩ := Option.map_eq_some_iff.mp done
  obtain ⟨c, here, changed⟩ := Option.bind_eq_some_iff.mp changed
  refine .single (.deed deed _ permitted fun c'' at_i => ?_)
  rw [here] at at_i
  cases at_i
  rw [acts c]
  exact changed

theorem does_closeLink {i : Nat} {cause : CloseCause} (permitted : permits i (.close cause)) :
    Does permits h (h.closeLink i cause).1 := by
  unfold closeLink
  split
  · exact .refl
  · next here => exact does_replaceLink here (.close cause) permitted fun _ => rfl

theorem does_closed {i : Nat} {cause : CloseCause} (permitted : permits i (.close cause)) :
    Does permits h (h.closed i cause) :=
  does_closeLink permitted

theorem does_sendText {i : Nat} {text : String} (permitted : permits i (.text text)) :
    Does permits h (h.sendText i text).1 := by
  unfold sendText
  split
  · exact .refl
  · next here => exact does_replaceLink here (.text text) permitted fun _ => rfl

theorem does_startProbe {i wait : Nat} (permitted : permits i (.probe wait)) :
    Does permits h (h.startProbe i wait).1 := by
  unfold startProbe
  split
  · exact .refl
  · next here => exact does_replaceLink here (.probe wait) permitted fun _ => rfl

/-! ### Sessions -/

theorem does_settle (h : Hub) (i : Nat) (id : String) (outcome : CallOutcome) :
    Does permits h (h.settle i id outcome).1 := by
  unfold settle
  split <;> exact does_of_eq rfl rfl

theorem does_failPending (h : Hub) (i : Nat) : Does permits h (h.failPending i).1 := by
  unfold failPending
  split <;> exact does_of_eq rfl rfl

theorem does_expire? {i : Nat} {id : String} (expired : h.expire? i id = some next) :
    Does permits h next := by
  unfold expire? at expired
  obtain ⟨s, -, rfl⟩ := Option.map_eq_some_iff.mp expired
  exact does_of_eq rfl rfl

/-! ### Sweeps -/

section Sweeps

variable (sweeps : ∀ i deed, deed.isSweeping = true → permits i deed)
include sweeps

theorem does_failMember (h : Hub) (variant : Variant) (key : Key) (link : Nat) :
    Does permits h (h.failMember variant key link).1 := by
  have counted : Does permits h ((h.count .pingFailure).modifyLink link Link.addFailure) :=
    (does_of_eq rfl rfl : Does permits h (h.count .pingFailure)).trans
      (does_modifyLink .probeFails (sweeps _ _ rfl) fun _ => rfl)
  unfold failMember
  dsimp only
  split
  · exact counted
  · exact (counted.trans (does_closed (sweeps _ _ rfl))).trans (does_setRoster _ variant _)

theorem does_beginMember (h : Hub) (variant : Variant) (key : Key) (link : Nat) :
    Does permits h (h.beginMember variant key link).1 := by
  have probed : Does permits h (h.startProbe link h.settings.probeTimeout).1 :=
    does_startProbe (sweeps _ _ rfl)
  unfold beginMember
  split
  · split <;> rename_i started <;> rw [started] at probed
    · exact probed
    · exact probed.trans (does_failMember sweeps _ variant key link)
  · exact does_setRoster h variant _

theorem does_resumeMember (h : Hub) (variant : Variant) (member : Member) :
    Does permits h (h.resumeMember variant member).1 := by
  unfold resumeMember
  split
  · exact .refl
  · split
    · exact .refl
    · exact does_modifyLink .probeSucceeds (sweeps _ _ rfl) fun _ => rfl
    · exact does_failMember sweeps h variant member.key member.link

omit sweeps in
theorem does_eachMember {α β : Type} {act : Hub → α → Hub × β}
    (does : ∀ (h : Hub) item, Does permits h (act h item).1) (h : Hub) (items : List α) :
    Does permits h (eachMember act h items).1 := by
  induction items generalizing h with
  | nil => exact .refl
  | cons item rest ih => exact (does h item).trans (ih (act h item).1)

theorem does_beginRoster (h : Hub) (variant : Variant) :
    Does permits h (h.beginRoster variant).1 := by
  unfold beginRoster
  refine does_eachMember ?_ h _
  intro h entry
  exact does_beginMember sweeps h variant entry.1 entry.2.link

omit sweeps in
theorem does_countEvicted (h : Hub) (members : List Member) :
    Does permits h (h.countEvicted members) := by
  unfold countEvicted
  induction members generalizing h with
  | nil => exact .refl
  | cons member rest ih =>
      refine .trans ?_ (ih _)
      dsimp only
      split <;> exact does_of_eq rfl rfl

omit sweeps in
theorem does_sweepManagement (h : Hub) (id : Nat) (members : List Member) (report : SweepReport) :
    Does permits h (h.sweepManagement id members report) := by
  unfold sweepManagement
  split
  · exact does_of_eq rfl rfl
  · exact (does_countEvicted h members).trans (does_of_eq rfl rfl)

theorem does_sweepDevices (h : Hub) (id : Nat) (members : List Member) (report : SweepReport) :
    Does permits h (h.sweepDevices id members report) := by
  unfold sweepDevices
  split
  · exact does_of_eq rfl rfl
  · exact ((does_countEvicted h members).trans (does_beginRoster sweeps _ .management)).trans
      (does_sweepManagement _ id _ _)

theorem does_beginSweep (h : Hub) : Does permits h h.beginSweep.1 :=
  ((does_of_eq rfl rfl : Does permits h h.newTask.1).trans
    (does_beginRoster sweeps h.newTask.1 .device)).trans (does_sweepDevices sweeps _ _ _ _)

theorem does_resumeSweep (h : Hub) (id : Nat) (variant : Variant) (members : List Member)
    (report : SweepReport) : Does permits h (h.resumeSweep id variant members report) := by
  have looked : Does permits h _ :=
    does_eachMember (fun h member => does_resumeMember sweeps h variant member) h members
  unfold resumeSweep
  cases variant with
  | device => exact looked.trans (does_sweepDevices sweeps _ id _ report)
  | management => exact looked.trans (does_sweepManagement _ id _ report)

end Sweeps

/-! ### Closing -/

theorem does_closeSlots {cause : CloseCause} (permitted : ∀ i, permits i (.close cause)) (h : Hub)
    (slots : List (Key × Slot Nat Nat)) : Does permits h (h.closeSlots cause slots).1 := by
  induction slots generalizing h with
  | nil => exact .refl
  | cons entry rest ih =>
      unfold closeSlots
      dsimp only
      refine .trans ?_ (ih _)
      split
      · exact does_closeLink (permitted _)
      · exact .refl

theorem does_closeAll {cause : CloseCause} (permitted : ∀ i, permits i (.close cause)) (h : Hub) :
    Does permits h (h.closeAll cause).1 := by
  have roster : ∀ (h : Hub) variant, Does permits h (h.closeRoster cause variant).1 :=
    fun h variant => (does_setRoster h variant []).trans (does_closeSlots permitted _ _)
  exact (roster h .device).trans (roster _ .management)

section Plain

variable (plain : ∀ i deed, deed.isPlain = true → permits i deed)
include plain

theorem does_sendCall (h : Hub) (i : Nat) (command : String) (payload : Json) :
    Does permits h (h.sendCall i command payload).1 := by
  have numbered : Does permits h { h with nextMessage := h.nextMessage + 1 } := does_of_eq rfl rfl
  unfold sendCall
  split
  · exact .refl
  · rename_i s _
    split
    · exact .refl
    · dsimp only
      split
      · exact numbered
      · have sent := numbered.trans (does_sendText
          (plain s.link (.text (Message.call (h.messageId h.nextMessage) command payload).encode)
            rfl))
        split
        · exact sent.trans (does_of_eq rfl rfl)
        · exact sent

omit plain in
theorem does_withoutSession (h : Hub) (link : Nat) (session : Option Nat) :
    Does permits h (h.withoutSession link session) := by
  unfold withoutSession
  split
  · exact .refl
  · exact (does_setRoster _ _ _).trans (does_failPending _ _)

theorem does_handleEnd (h : Hub) {link : Nat} (finishes : permits link .finish)
    (session : Option Nat) : Does permits h (h.handleEnd link session) := by
  have closed : Does permits h (h.closed link .normal) := does_closed (plain _ _ rfl)
  rw [handleEnd_eq]
  refine (closed.trans (does_withoutSession _ link session)).trans ?_
  unfold finishLink
  split
  · exact .refl
  · next l here =>
    have finished : Does permits _ (Hub.modifyLink _ link fun _ => l.finish.1) :=
      does_replaceLink here .finish finishes fun _ => rfl
    dsimp only
    split
    · exact finished.trans (does_of_eq rfl rfl)
    · exact finished

/-! ### Takeovers and openings -/

theorem does_withSession (h : Hub) (link : Nat) (variant : Variant) (identity : Identity) :
    Does permits h (h.withSession link variant identity) := by
  have made : Does permits h
      { h with sessions := h.sessions ++ [h.newSession link variant identity] } :=
    does_of_eq rfl rfl
  exact made.trans (does_modifyLink (.identify identity) (plain _ _ rfl) fun _ => rfl)

theorem does_beginTakeover (h : Hub) (i : Nat) (s : Session) :
    Does permits h (h.beginTakeover i s).1 := by
  unfold beginTakeover
  split
  · exact does_setRoster h _ _
  · split
    · exact .refl
    · split
      · exact does_setRoster h _ _
      · rename_i rival _
        have probed : Does permits h (h.startProbe rival h.settings.probeTimeout).1 :=
          does_startProbe (plain _ _ rfl)
        split <;> rename_i started <;> rw [started] at probed
        · exact probed.trans (does_setRoster _ _ _)
        · exact probed

omit plain in
theorem does_concludeTakeover (h : Hub) (i : Nat) {rival : Nat} {alive : Bool}
    (displaces : alive = true → permits rival (.close .duplicate)) :
    Does permits h (h.concludeTakeover i rival alive).1 := by
  unfold concludeTakeover
  split
  · exact .refl
  · cases alive with
    | false => exact does_setRoster h _ _
    | true =>
        have closed : Does permits h (h.closed rival .duplicate) := does_closed (displaces rfl)
        have counted : Does permits h ((h.closed rival .duplicate).count .duplicateClosed) :=
          closed.trans (does_of_eq rfl rfl)
        exact counted.trans (does_setRoster _ _ _)

omit plain in
theorem does_endOpening (h : Hub) (id : Nat) (guard : Guard) (result : Except Failure Nat) :
    Does permits h (h.endOpening id guard result) :=
  does_of_eq rfl rfl

theorem does_afterTakeover (h : Hub) {link : Nat}
    (enters : h.stopping = false → permits link (.enter .bound)) (id session : Nat)
    (guard : Guard) : Does permits h (h.afterTakeover id link session guard) := by
  have closed : Does permits h (h.closed link .shutdown) := does_closed (plain _ _ rfl)
  unfold afterTakeover
  split
  · dsimp only
    split
    · exact closed.trans (does_endOpening _ id guard _)
    · exact (closed.trans (does_setRoster _ _ _)).trans (does_endOpening _ id guard _)
  · next running =>
    have entered : Does permits h (h.modifyLink link fun l => l.enter .bound) :=
      does_modifyLink (.enter .bound) (enters (Bool.eq_false_iff.mpr running)) fun _ => rfl
    exact entered.trans (does_of_eq rfl rfl)

theorem does_afterGuard (h : Hub) {link : Nat}
    (enters : h.stopping = false → permits link (.enter .resolving)) (id : Nat) (target : Target)
    (guard : Guard) : Does permits h (h.afterGuard id link target guard) := by
  have closed : Does permits h (h.closed link .shutdown) := does_closed (plain _ _ rfl)
  unfold afterGuard
  split
  · exact does_endOpening h id guard _
  · split
    · exact closed.trans (does_endOpening _ id guard _)
    · next running =>
      have entered : Does permits h (h.modifyLink link fun l => l.enter .resolving) :=
        does_modifyLink (.enter .resolving) (enters (Bool.eq_false_iff.mpr running)) fun _ => rfl
      exact entered.trans (does_of_eq rfl rfl)

theorem does_beginOpening (h : Hub) {link : Nat}
    (enters : h.stopping = false → permits link (.enter .resolving)) (target : Target) :
    Does permits h (h.beginOpening link target).1 := by
  unfold beginOpening
  dsimp only
  split
  · next lock guard _ =>
    have begun : Does permits h { h.newTask.1 with lock } := does_of_eq rfl rfl
    exact begun.trans (does_afterGuard plain { h.newTask.1 with lock } enters _ target guard)
  · exact does_of_eq rfl rfl

theorem does_afterIdentified (h : Hub) {link : Nat}
    (enters : (h.link? link).isSome = true → permits link (.enter .bound)) (id : Nat)
    (guard : Guard) (identity : Identity) :
    Does permits h (h.afterIdentified id link guard identity) := by
  cases here : h.link? link with
  | none =>
      unfold afterIdentified
      rw [here]
      exact does_endOpening h id guard _
  | some l =>
      have known : (h.link? link).isSome = true := Option.isSome_iff_exists.mpr ⟨l, here⟩
      rw [afterIdentified_eq here]
      have begun := (does_withSession plain h link l.variant identity).trans
        (does_beginTakeover plain (h.withSession link l.variant identity) h.sessions.length
          (h.newSession link l.variant identity))
      split <;> rename_i started <;> rw [started] at begun
      · exact begun.trans (does_afterTakeover plain _ (fun _ => enters known) id _ guard)
      · exact begun.trans (does_of_eq rfl rfl)

theorem does_afterDirectory (h : Hub) {link : Nat} {answer : Except Failure Identity}
    (enters : ∀ identity, answer = .ok identity → h.isClosed link = false → h.stopping = false →
      (h.link? link).isSome = true → permits link (.enter .bound)) (id : Nat) (guard : Guard) :
    Does permits h (h.afterDirectory id link guard answer) := by
  have counted : Does permits h (h.count .resolutionFailed) := does_of_eq rfl rfl
  cases answer with
  | error failure =>
      exact (counted.trans (does_closed (plain _ _ rfl))).trans (does_endOpening _ id guard _)
  | ok identity =>
      have closed : Does permits h (h.closed link .shutdown) := does_closed (plain _ _ rfl)
      unfold afterDirectory
      dsimp only
      split
      · exact does_endOpening h id guard _
      · next open_ =>
        split
        · exact closed.trans (does_endOpening _ id guard _)
        · next running =>
          have entered := enters identity rfl (Bool.eq_false_iff.mpr open_)
            (Bool.eq_false_iff.mpr running)
          exact does_afterIdentified plain h entered id guard identity

/-! ### Handling -/

omit plain in
theorem does_execute (h : Hub) (id session : Nat) (request : Request) (guard : Option Guard) :
    Does permits h (h.execute id session request guard) := by
  unfold execute
  split
  · exact does_of_eq rfl rfl
  · split <;> exact does_of_eq rfl rfl

theorem does_afterExecution (h : Hub) (id session : Nat) (request : Request)
    (guard : Option Guard) (reply : Reply) :
    Does permits h (h.afterExecution id session request guard reply) := by
  have answered : Does permits h (h.afterExecution id session request none reply) := by
    unfold afterExecution
    dsimp only
    split
    · exact .refl
    · rename_i s _
      have sent : Does permits h (h.sendText s.link (Reply.message request.id reply).encode).1 :=
        does_sendText (plain _ _ rfl)
      split <;> rename_i delivered <;> rw [delivered] at sent
      · exact sent.trans (does_of_eq rfl rfl)
      · exact sent
  cases guard with
  | none => exact answered
  | some guard => exact answered.trans (does_of_eq rfl rfl)

omit plain in
theorem does_receiveCall (h : Hub) (id session : Nat) (path : String) (request : Request) :
    Does permits h (h.receiveCall id session path request) := by
  unfold receiveCall
  split
  · exact does_of_eq rfl rfl
  · rename_i s _
    have noted : ∀ lock, Does permits h { h.modifySession session fun _ => s.noteCall.1 with lock } :=
      fun lock => does_of_eq rfl rfl
    dsimp only
    split
    · split
      · exact (noted _).trans (does_execute _ id session request _)
      · exact does_of_eq rfl rfl
    · exact does_of_eq rfl rfl

omit plain in
theorem does_receive (h : Hub) (id session : Nat) (path : String) (message : Message) :
    Does permits h (h.receive id session path message) := by
  cases message with
  | call messageId command payload => exact does_receiveCall h id session path _
  | result messageId payload => exact (does_settle h session messageId _).trans (does_of_eq rfl rfl)
  | error messageId fault description details =>
      exact (does_settle h session messageId _).trans (does_of_eq rfl rfl)

theorem does_beginHandling (h : Hub) (session : Nat) (path : String)
    (decoded : Except Message.Malformation Message) :
    Does permits h (h.beginHandling session path decoded).1 := by
  have begun : Does permits h h.newTask.1 := does_of_eq rfl rfl
  unfold beginHandling
  cases decoded with
  | error malformed => exact does_of_eq rfl rfl
  | ok message =>
      dsimp only
      split
      · exact does_of_eq rfl rfl
      · rename_i s _
        split
        · have taken := begun.trans (does_beginTakeover plain h.newTask.1 session s)
          split <;> rename_i started <;> rw [started] at taken
          · exact taken.trans (does_receive _ _ session path message)
          · exact taken.trans (does_of_eq rfl rfl)
        · exact begun.trans (does_receive _ _ session path message)

end Plain

end Hub

end StationHub
