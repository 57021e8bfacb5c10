import Mathlib.Data.List.Nodup
import StationHub.Proofs.Hub.Effect

/-!
The ledger of a session: what its calls came to, told from the events that concerned them.

* `Recorded`: the states that a session without calls comes to with a history of events.
* `Recorded.fate`: a call is pending until the first event that concerns it, and from then on has
  what that event decided, once.
* `Recorded.perm`: every call issued is pending or settled, and nothing else is.
* `Recorded.accounts`: the calls issued are the pending ones and those that were resolved,
  rejected, overdue or given up.
-/

namespace StationHub

namespace CallEvent

/-- What the call comes to if the event is the first that concerns it. -/
def verdict? (id command : String) (timeout : Nat) : CallEvent → Option CallOutcome
  | .issued .. => none
  | .answered other answer => if other = id then some answer.outcome else none
  | .overdue other _ => if other = id then some (.error (.timedOut id command timeout)) else none
  | .ended => some (.error .closed)

/-- The identifier of the call that the event issues. -/
def issued? : CallEvent → Option String
  | .issued id .. => some id
  | _ => none

theorem issued?_eq_some {event : CallEvent} {id : String} (issued : event.issued? = some id) :
    ∃ command time, event = .issued id command time := by
  cases event with
  | issued id' command time =>
      cases issued
      exact ⟨command, time, rfl⟩
  | _ => cases issued

/-- The event may happen to the session: an identifier is not used twice, and a timer rings for a
pending call that is due. -/
def Possible (history : List CallEvent) (s : Session) : CallEvent → Prop
  | .issued id .. => id ∉ history.filterMap issued?
  | .overdue id time => (s.expire? id time).isSome = true
  | .answered .. | .ended => True

end CallEvent

/-- The ways in which a call ends. -/
inductive Ending where
  | resolved
  | rejected
  | overdue
  /-- The call was given up with the connection. -/
  | abandoned
  deriving DecidableEq, Repr

/-- How a call with the given outcome ended. -/
def Ending.of? : CallOutcome → Option Ending
  | .ok _ => some .resolved
  | .error (.refused ..) => some .rejected
  | .error (.timedOut ..) => some .overdue
  | .error .closed => some .abandoned
  | .error _ => none

namespace Session

/-- How many calls of the session ended in the given way. -/
def endings (s : Session) (ending : Ending) : Nat :=
  s.settled.countP fun entry => Ending.of? entry.2 = some ending

/-- The session with the call settled if it is pending. -/
def settleOrKeep (s : Session) (id : String) (outcome : CallOutcome) : Session :=
  (s.settle? id outcome).getD s

/-- The states that a session without calls comes to with a history of events. -/
inductive Recorded : List CallEvent → Session → Prop where
  | start {s : Session} : s.pending = [] → s.settled = [] → Recorded [] s
  | event {history : List CallEvent} {s s' : Session} {event : CallEvent} :
      Recorded history s → event.Possible history s → (event.apply s).SameCalls s' →
      Recorded (history ++ [event]) s'

/-- Where a call stands: pending as long as nothing is decided, and from then on settled, once and
with the verdict. -/
structure Fate (s : Session) (p : Pending) (verdict : Option CallOutcome) : Prop where
  pending : (s.pending.filter fun q => q.id == p.id) = if verdict.isNone then [p] else []
  settled : (s.settled.filter fun entry => entry.1 == p.id) =
    verdict.toList.map fun outcome => (p.id, outcome)

/-! ### Single events -/

theorem isPending_eq_false_iff {s : Session} {id : String} :
    s.isPending id = false ↔ ∀ p ∈ s.pending, p.id ≠ id := by
  simp [isPending, pending?]

theorem pending_settleOrKeep (s : Session) (id : String) (outcome : CallOutcome) :
    (s.settleOrKeep id outcome).pending = s.pending.filter fun p => p.id != id := by
  unfold settleOrKeep settle?
  split
  · rfl
  · rename_i idle
    symm
    rw [Option.getD_none, List.filter_eq_self]
    intro p member
    have other := isPending_eq_false_iff.mp (Bool.eq_false_iff.mpr idle) p member
    simpa using other

theorem settled_settleOrKeep (s : Session) (id : String) (outcome : CallOutcome) :
    (s.settleOrKeep id outcome).settled =
      s.settled ++ if s.isPending id then [(id, outcome)] else [] := by
  unfold settleOrKeep settle?
  split <;> simp

/-- A timer that rings settles its call. -/
theorem apply_overdue {s : Session} {id : String} {time : Nat}
    (rings : (s.expire? id time).isSome = true) :
    ∃ p, s.pending? id = some p ∧ p.deadline ≤ time ∧ (CallEvent.overdue id time).apply s =
      s.settleOrKeep id (.error (.timedOut id p.command s.callTimeout)) := by
  unfold CallEvent.apply settleOrKeep
  unfold expire? at rings ⊢
  cases found : s.pending? id with
  | none =>
      rw [found] at rings
      cases rings
  | some p =>
      simp only [found] at rings ⊢
      split at rings
      · rename_i due
        exact ⟨p, rfl, due, by rw [if_pos due]⟩
      · cases rings

/-! ### The fate of a call -/

namespace Fate

variable {s s' : Session} {p : Pending} {verdict : Option CallOutcome}

theorem sameCalls (fate : s.Fate p verdict) (same : s.SameCalls s') : s'.Fate p verdict :=
  ⟨by rw [same.pending]; exact fate.pending, by rw [same.settled]; exact fate.settled⟩

/-- The call is pending exactly as long as nothing is decided. -/
theorem isPending_eq (fate : s.Fate p verdict) : s.isPending p.id = verdict.isNone := by
  cases verdict with
  | none =>
      have there : p ∈ s.pending.filter fun q => q.id == p.id := by
        rw [fate.pending]
        exact List.mem_singleton.mpr rfl
      cases known : s.isPending p.id with
      | true => rfl
      | false => exact absurd rfl (isPending_eq_false_iff.mp known p (List.mem_filter.mp there).1)
  | some outcome =>
      rw [Option.isNone_some, isPending_eq_false_iff]
      intro q member same
      have there : q ∈ s.pending.filter fun q => q.id == p.id :=
        List.mem_filter.mpr ⟨member, by simpa using same⟩
      rw [fate.pending] at there
      cases there

theorem pending?_eq (fate : s.Fate p none) : s.pending? p.id = some p := by
  rw [pending?, ← List.head?_filter, fate.pending]
  rfl

/-- Settling a call decides it if nothing was decided, and leaves every other call alone. -/
theorem settleOrKeep (fate : s.Fate p verdict) (id : String) (outcome : CallOutcome) :
    (s.settleOrKeep id outcome).Fate p (verdict.or (if id = p.id then some outcome else none)) := by
  by_cases same : id = p.id
  · subst same
    rw [if_pos rfl]
    constructor
    · rw [pending_settleOrKeep, List.filter_filter]
      cases verdict <;> simp
    · rw [settled_settleOrKeep, List.filter_append, fate.settled, fate.isPending_eq]
      cases verdict <;> simp
  · rw [if_neg same, Option.or_none]
    constructor
    · rw [pending_settleOrKeep, List.filter_filter, ← fate.pending]
      refine List.filter_congr fun q _ => ?_
      by_cases here : q.id = p.id
      · simp [here, Ne.symm same]
      · simp [here]
    · rw [settled_settleOrKeep, List.filter_append, fate.settled]
      split <;> simp [same]

/-- Giving up all pending calls decides those that are. -/
theorem failPending (fate : s.Fate p verdict) :
    s.failPending.1.Fate p (verdict.or (some (.error .closed))) := by
  constructor
  · cases verdict <;> rfl
  · have given : (s.pending.map fun q => (q.id, (.error .closed : CallOutcome))).filter
        (fun entry => entry.1 == p.id) =
        (s.pending.filter fun q => q.id == p.id).map fun q => (q.id, .error .closed) := by
      rw [List.filter_map]
      rfl
    show List.filter _ (s.settled ++ _) = _
    rw [List.filter_append, given, fate.pending, fate.settled]
    cases verdict <;> rfl

/-- A call issued under another identifier leaves the call alone. -/
theorem issue (fate : s.Fate p verdict) {id : String} (other : id ≠ p.id) (command : String)
    (time : Nat) : (s.issue id command time).Fate p verdict := by
  constructor
  · show List.filter _ (s.pending ++ _) = _
    rw [List.filter_append, fate.pending]
    simp [other]
  · exact fate.settled

/-- An event decides the call if it concerns it and nothing was decided before. -/
theorem event (fate : s.Fate p verdict) {history : List CallEvent} {event : CallEvent}
    (known : p.id ∈ history.filterMap CallEvent.issued?) (possible : event.Possible history s) :
    (event.apply s).Fate p (verdict.or (event.verdict? p.id p.command s.callTimeout)) := by
  cases event with
  | issued id command time =>
      have other : id ≠ p.id := fun same => possible (same ▸ known)
      rw [CallEvent.verdict?, Option.or_none]
      exact fate.issue other command time
  | answered id answer => exact fate.settleOrKeep id answer.outcome
  | overdue id time =>
      obtain ⟨q, found, -, rings⟩ := apply_overdue possible
      rw [rings]
      by_cases same : id = p.id
      · subst same
        cases verdict with
        | none =>
            rw [fate.pending?_eq] at found
            cases found
            exact fate.settleOrKeep p.id _
        | some outcome => exact fate.settleOrKeep p.id _
      · have settled := fate.settleOrKeep id (.error (.timedOut id q.command s.callTimeout))
        rw [if_neg same] at settled
        rw [CallEvent.verdict?, if_neg same]
        exact settled
  | ended => exact fate.failPending

end Fate

/-! ### Histories -/

namespace Recorded

variable {history : List CallEvent} {s : Session}

theorem sameCalls {s' : Session} (recorded : Recorded history s) (same : s.SameCalls s') :
    Recorded history s' := by
  cases recorded with
  | start noPending noSettled =>
      exact .start (same.pending.trans noPending) (same.settled.trans noSettled)
  | event recorded possible before => exact .event recorded possible (before.trans same)

theorem issued_concat (history : List CallEvent) (event : CallEvent) :
    (history ++ [event]).filterMap CallEvent.issued? =
      history.filterMap CallEvent.issued? ++ event.issued?.toList := by
  rw [List.filterMap_append]
  cases event <;> rfl

/-- No identifier is issued twice. -/
theorem nodup (recorded : Recorded history s) : (history.filterMap CallEvent.issued?).Nodup := by
  induction recorded with
  | start => exact .nil
  | @event history s s' event _ possible _ ih =>
      rw [issued_concat]
      cases event with
      | issued id command time =>
          refine List.nodup_append.mpr ⟨ih, List.nodup_singleton id, ?_⟩
          intro other known new member same
          rw [List.mem_singleton.mp member] at same
          exact possible (same ▸ known)
      | answered id answer => exact (List.append_nil _).symm ▸ ih
      | overdue id time => exact (List.append_nil _).symm ▸ ih
      | ended => exact (List.append_nil _).symm ▸ ih

/-- Settling moves an identifier from the pending ones to the settled ones. -/
theorem perm_settleOrKeep {s : Session} (distinct : (s.pending.map Pending.id).Nodup) (id : String)
    (outcome : CallOutcome) :
    ((s.settleOrKeep id outcome).pending.map Pending.id ++
        (s.settleOrKeep id outcome).settled.map Prod.fst).Perm
      (s.pending.map Pending.id ++ s.settled.map Prod.fst) := by
  have left : (s.settleOrKeep id outcome).pending.map Pending.id =
      (s.pending.map Pending.id).erase id := by
    rw [pending_settleOrKeep, distinct.erase_eq_filter, List.filter_map]
    rfl
  rw [left, settled_settleOrKeep, List.map_append]
  cases waits : s.isPending id with
  | false =>
      have absent : id ∉ s.pending.map Pending.id := by
        intro member
        obtain ⟨p, there, same⟩ := List.mem_map.mp member
        exact isPending_eq_false_iff.mp waits p there same
      simp [List.erase_of_not_mem absent]
  | true =>
      have present : id ∈ s.pending.map Pending.id := by
        obtain ⟨p, found⟩ := Option.isSome_iff_exists.mp waits
        have same : p.id = id := by simpa using List.find?_some found
        exact List.mem_map.mpr ⟨p, List.mem_of_find?_eq_some found, same⟩
      calc
        ((s.pending.map Pending.id).erase id ++ (s.settled.map Prod.fst ++ [id])).Perm
            (id :: ((s.pending.map Pending.id).erase id ++ s.settled.map Prod.fst)) := by
          rw [← List.append_assoc]
          exact List.perm_append_singleton id _
        List.Perm _ (s.pending.map Pending.id ++ s.settled.map Prod.fst) :=
          (List.perm_cons_erase present).symm.append_right _

/-- Every call issued is pending or settled, once, and nothing else is. -/
theorem perm (recorded : Recorded history s) :
    (s.pending.map Pending.id ++ s.settled.map Prod.fst).Perm
      (history.filterMap CallEvent.issued?) := by
  induction recorded with
  | start noPending noSettled => simp [noPending, noSettled]
  | @event history s s' event recorded possible same ih =>
      have distinct : (s.pending.map Pending.id).Nodup :=
        List.Nodup.of_append_left (ih.nodup_iff.mpr recorded.nodup)
      rw [same.pending, same.settled, issued_concat]
      cases event with
      | issued id command time =>
          have moved : ((s.pending.map Pending.id ++ [id]) ++ s.settled.map Prod.fst).Perm
              ((s.pending.map Pending.id ++ s.settled.map Prod.fst) ++ [id]) := by
            rw [List.append_assoc, List.append_assoc]
            exact List.perm_append_comm.append_left _
          have new : ((s.issue id command time).pending).map Pending.id =
              s.pending.map Pending.id ++ [id] := List.map_append
          exact new ▸ moved.trans (ih.append_right [id])
      | answered id answer =>
          rw [show (CallEvent.answered id answer).issued?.toList = [] from rfl, List.append_nil]
          exact (perm_settleOrKeep distinct id answer.outcome).trans ih
      | overdue id time =>
          obtain ⟨p, -, -, rings⟩ := apply_overdue possible
          rw [rings, show (CallEvent.overdue id time).issued?.toList = [] from rfl, List.append_nil]
          exact (perm_settleOrKeep distinct id _).trans ih
      | ended =>
          have all : s.failPending.1.settled.map Prod.fst =
              s.settled.map Prod.fst ++ s.pending.map Pending.id := by
            simp [failPending]
          rw [show CallEvent.ended.issued?.toList = [] from rfl, List.append_nil]
          show (s.failPending.1.settled.map Prod.fst).Perm _
          rw [all]
          exact List.perm_append_comm.trans ih

/-- A call just issued under a new identifier is pending, and nothing is decided. -/
theorem fate_issue {s : Session} {id : String}
    (new : id ∉ s.pending.map Pending.id ++ s.settled.map Prod.fst) (command : String)
    (time : Nat) : (s.issue id command time).Fate ⟨id, command, time + s.callTimeout⟩ none := by
  obtain ⟨notPending, notSettled⟩ := not_or.mp (mt List.mem_append.mpr new)
  constructor
  · have before : (s.pending.filter fun q => q.id == id) = [] := by
      rw [List.filter_eq_nil_iff]
      intro q member same
      exact notPending (List.mem_map.mpr ⟨q, member, by simpa using same⟩)
    show List.filter _ (s.pending ++ _) = _
    rw [List.filter_append, before]
    simp
  · show List.filter _ s.settled = _
    rw [Option.toList_none, List.map_nil, List.filter_eq_nil_iff]
    intro entry member same
    exact notSettled (List.mem_map.mpr ⟨entry, member, by simpa using same⟩)

/-- A call is pending until the first event that concerns it, and from then on settled with what
that event decided. -/
theorem fate (recorded : Recorded history s) {earlier later : List CallEvent}
    {id command : String} {time : Nat}
    (issued : history = earlier ++ .issued id command time :: later) :
    s.Fate ⟨id, command, time + s.callTimeout⟩
      (later.findSome? (CallEvent.verdict? id command s.callTimeout)) := by
  induction recorded generalizing later with
  | start => simp at issued
  | @event history s s' event recorded possible same ih =>
      have timeout : s'.callTimeout = s.callTimeout :=
        same.callTimeout.trans (event.samePeer_apply s).callTimeout
      rw [timeout]
      refine Fate.sameCalls ?_ same
      rcases later.eq_nil_or_concat with rfl | ⟨before, last, rfl⟩
      · -- The call is issued just now: nothing is known of it yet.
        obtain ⟨rfl, rfl⟩ : history = earlier ∧ event = .issued id command time := by
          simpa using List.append_inj' issued rfl
        exact fate_issue (fun known => possible (recorded.perm.mem_iff.mp known)) command time
      · have split : history = earlier ++ .issued id command time :: before ∧ event = last := by
          rw [List.concat_eq_append, ← List.cons_append, ← List.append_assoc] at issued
          simpa using List.append_inj' issued rfl
        obtain ⟨split, rfl⟩ := split
        rw [List.concat_eq_append, List.findSome?_append, List.findSome?_singleton]
        have known : id ∈ history.filterMap CallEvent.issued? := by
          rw [split, List.filterMap_append]
          exact List.mem_append_right _ (List.mem_cons_self)
        exact (ih split).event known possible

/-- A call that is pending was issued, and nothing has decided it since. -/
theorem issued_of_pending (recorded : Recorded history s) {p : Pending} (member : p ∈ s.pending) :
    ∃ earlier between time, history = earlier ++ .issued p.id p.command time :: between ∧
      p.deadline = time + s.callTimeout ∧
      between.findSome? (CallEvent.verdict? p.id p.command s.callTimeout) = none := by
  have there : p.id ∈ s.pending.map Pending.id ++ s.settled.map Prod.fst :=
    List.mem_append_left _ (List.mem_map_of_mem member)
  obtain ⟨event, happened, issued⟩ := List.mem_filterMap.mp (recorded.perm.mem_iff.mp there)
  obtain ⟨command, time, rfl⟩ := CallEvent.issued?_eq_some issued
  obtain ⟨earlier, between, rfl⟩ := List.append_of_mem happened
  have fate := recorded.fate rfl
  have undecided : between.findSome? (CallEvent.verdict? p.id command s.callTimeout) = none := by
    have waits := fate.isPending_eq
    have pending : s.isPending p.id = true := by
      simpa [isPending, pending?] using ⟨p, member, rfl⟩
    rw [pending] at waits
    exact Option.isNone_iff_eq_none.mp waits.symm
  rw [undecided] at fate
  have only : p ∈ s.pending.filter fun q => q.id == p.id :=
    List.mem_filter.mpr ⟨member, by simp⟩
  rw [fate.pending] at only
  have same := List.mem_singleton.mp only
  have command' : p.command = command := congrArg Pending.command same
  exact ⟨earlier, between, time, by rw [command'], congrArg Pending.deadline same,
    by rw [command']; exact undecided⟩

/-! ### Accounts -/

/-- Every outcome of a call is one of those that a call can end with. -/
theorem ending_isSome (recorded : Recorded history s) :
    ∀ entry ∈ s.settled, (Ending.of? entry.2).isSome = true := by
  induction recorded with
  | start _ noSettled => simp [noSettled]
  | @event history s s' event _ possible same ih =>
      rw [same.settled]
      have settling : ∀ id outcome, (Ending.of? outcome).isSome = true →
          ∀ entry ∈ (s.settleOrKeep id outcome).settled, (Ending.of? entry.2).isSome = true := by
        intro id outcome ends entry member
        rw [settled_settleOrKeep] at member
        rcases List.mem_append.mp member with old | new
        · exact ih entry old
        · split at new
          · rw [List.mem_singleton.mp new]
            exact ends
          · cases new
      cases event with
      | issued id command time => exact ih
      | answered id answer =>
          refine settling id answer.outcome ?_
          cases answer <;> rfl
      | overdue id time =>
          obtain ⟨p, -, -, rings⟩ := apply_overdue possible
          rw [rings]
          exact settling id _ rfl
      | ended =>
          intro entry member
          rcases List.mem_append.mp member with old | new
          · exact ih entry old
          · obtain ⟨p, -, rfl⟩ := List.mem_map.mp new
            rfl

/-- The calls that ended, told by how they did. -/
theorem length_settled (recorded : Recorded history s) :
    s.settled.length = s.endings .resolved + s.endings .rejected + s.endings .overdue +
      s.endings .abandoned := by
  have told : ∀ entries : List (String × CallOutcome),
      (∀ entry ∈ entries, (Ending.of? entry.2).isSome = true) →
      entries.length = entries.countP (fun entry => Ending.of? entry.2 = some .resolved) +
        entries.countP (fun entry => Ending.of? entry.2 = some .rejected) +
        entries.countP (fun entry => Ending.of? entry.2 = some .overdue) +
        entries.countP (fun entry => Ending.of? entry.2 = some .abandoned) := by
    intro entries
    induction entries with
    | nil => simp
    | cons entry rest ih =>
        intro all
        have others := ih fun other member => all other (List.mem_cons_of_mem _ member)
        obtain ⟨ending, ends⟩ := Option.isSome_iff_exists.mp (all entry List.mem_cons_self)
        simp only [List.length_cons, List.countP_cons, ends, others]
        cases ending <;> simp <;> omega
  exact told s.settled recorded.ending_isSome

/-- The calls issued are those pending and those that ended in one of the four ways. -/
theorem accounts (recorded : Recorded history s) :
    (history.filterMap CallEvent.issued?).length = s.pending.length + s.endings .resolved +
      s.endings .rejected + s.endings .overdue + s.endings .abandoned := by
  have same := recorded.perm.length_eq
  simp only [List.length_append, List.length_map, recorded.length_settled] at same
  omega

/-- The calls that were overdue are those whose timer rang. -/
theorem endings_overdue (recorded : Recorded history s) :
    s.endings .overdue = history.countP CallEvent.isOverdue := by
  induction recorded with
  | start _ noSettled => simp [endings, noSettled]
  | @event history s s' event _ possible same ih =>
      rw [List.countP_append, ← ih, endings, same.settled]
      cases event with
      | issued id command time => rfl
      | answered id answer =>
          show List.countP _ (s.settleOrKeep id answer.outcome).settled = _
          rw [settled_settleOrKeep, List.countP_append]
          cases answer <;> split <;> rfl
      | overdue id time =>
          obtain ⟨p, found, -, rings⟩ := apply_overdue possible
          have waits : s.isPending id = true := Option.isSome_iff_exists.mpr ⟨p, found⟩
          rw [rings, settled_settleOrKeep, List.countP_append, if_pos waits]
          rfl
      | ended =>
          show List.countP _ (s.settled ++ _) = _
          have given : (s.pending.map fun q => (q.id, (.error .closed : CallOutcome))).countP
              (fun entry => Ending.of? entry.2 = some .overdue) = 0 := by
            simp [List.countP_map, Ending.of?, Function.comp_def]
          rw [List.countP_append, given]
          rfl

end Recorded

end Session

end StationHub
