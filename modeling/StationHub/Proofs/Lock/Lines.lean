import StationHub.Proofs.Lock.Waits

/-!
The line for a path.

* `line`: those who wait for a path. While those who were woken try again one after the other, who
  has done so in vain stands behind the others in the queue, but before them in the line.
* `line_concat`, `line_withdraw`, `line_release`: what becomes of the line.
* `isNext`: who may try again next; `line_of_asked`, `line_of_retried`: whoever asks comes last, and
  whoever tries again keeps the place in the line or leaves it.
* `SameAt`: what happens to one path leaves the others alone.
-/

namespace StationHub.PathLock

variable {lock next : PathLock} {ticket deadline now : Nat} {path other : String}
  {waiter : Waiter} {tried : PathLock × Option Guard}

/-- Those who wait for a path, in the order of the queue. -/
def waitersOf (lock : PathLock) (path : String) : List Waiter :=
  lock.waiting.filter fun waiter => waiter.path == path

/-- Those who wait for a path and were not woken. -/
def asleep (lock : PathLock) (path : String) : List Nat :=
  ((lock.waitersOf path).filter fun waiter => !waiter.woken).map Waiter.ticket

/-- Those who were woken for a path and have not tried again yet. -/
def woken (lock : PathLock) (path : String) : List Nat :=
  ((lock.waitersOf path).filter Waiter.woken).map Waiter.ticket

/-- The line for a path. Those who have tried again in vain are before those who have not tried. -/
def line (lock : PathLock) (path : String) : List Nat := lock.asleep path ++ lock.woken path

/-- Nobody who waits can go on. -/
def rests (lock : PathLock) (now : Nat) : Bool :=
  lock.waiting.all fun waiter => !waiter.isReady now

/-- The holder of the ticket may try again before all others: it is the first that was woken for its
path, or was not woken at all and has run out of time. -/
def isNext (lock : PathLock) (ticket : Nat) : Bool :=
  (lock.waiter? ticket).all fun waiter =>
    !waiter.woken || (lock.woken waiter.path).head? == some ticket

theorem mem_waitersOf :
    waiter ∈ lock.waitersOf path ↔ waiter ∈ lock.waiting ∧ waiter.path = path := by
  simp [waitersOf]

theorem mem_line :
    ticket ∈ lock.line path ↔ ∃ waiter ∈ lock.waiting, waiter.path = path ∧
      waiter.ticket = ticket := by
  constructor
  · intro member
    rcases List.mem_append.mp member with inside | inside <;>
    · obtain ⟨waiter, there, rfl⟩ := List.mem_map.mp inside
      obtain ⟨waits, is⟩ := mem_waitersOf.mp (List.mem_of_mem_filter there)
      exact ⟨waiter, waits, is, rfl⟩
  · rintro ⟨waiter, waits, is, rfl⟩
    have there := mem_waitersOf.mpr ⟨waits, is⟩
    rw [line, List.mem_append]
    cases awake : waiter.woken with
    | false => exact .inl (List.mem_map_of_mem (List.mem_filter.mpr ⟨there, by simp [awake]⟩))
    | true => exact .inr (List.mem_map_of_mem (List.mem_filter.mpr ⟨there, awake⟩))

/-! ### At rest -/

theorem unready_of_rests (rests : lock.rests now = true) (member : waiter ∈ lock.waiting) :
    waiter.woken = false ∧ now < waiter.deadline := by
  simpa [Waiter.isReady] using List.all_eq_true.mp rests waiter member

theorem woken_of_rests (rests : lock.rests now = true) (path : String) : lock.woken path = [] := by
  have nobody : (lock.waitersOf path).filter Waiter.woken = [] := by
    refine List.filter_eq_nil_iff.mpr fun waiter member => ?_
    simp [(unready_of_rests rests (mem_waitersOf.mp member).1).1]
  rw [woken, nobody, List.map_nil]

/-- At rest the line is the queue. -/
theorem line_of_rests (rests : lock.rests now = true) (path : String) :
    lock.line path = (lock.waitersOf path).map Waiter.ticket := by
  have all : (lock.waitersOf path).filter (fun waiter => !waiter.woken) = lock.waitersOf path := by
    refine List.filter_eq_self.mpr fun waiter member => ?_
    simp [(unready_of_rests rests (mem_waitersOf.mp member).1).1]
  rw [line, woken_of_rests rests, List.append_nil, asleep, all]

/-- Those who sleep wait for paths in use, so nobody sleeps whose path is free. -/
theorem asleep_of_free
    (awake : ∀ waiter ∈ lock.waiting, waiter.woken = false → lock.isHeld waiter.path = true)
    (free : lock.isHeld path = false) : lock.asleep path = [] := by
  have nobody : (lock.waitersOf path).filter (fun waiter => !waiter.woken) = [] := by
    refine List.filter_eq_nil_iff.mpr fun waiter member sleeps => ?_
    obtain ⟨inside, is⟩ := mem_waitersOf.mp member
    have used := awake waiter inside (by simpa using sleeps)
    rw [is, free] at used
    cases used
  rw [asleep, nobody, List.map_nil]

/-! ### The operations -/

theorem line_congr (same : next.waiting = lock.waiting) (path : String) :
    next.line path = lock.line path := by
  unfold line asleep woken waitersOf
  rw [same]

/-- Whoever comes to wait stands behind those who sleep. -/
theorem line_concat
    (more : next.waiting = lock.waiting ++ [⟨ticket, path, deadline, false⟩]) (other : String) :
    next.asleep other = lock.asleep other ++ (if path = other then [ticket] else []) ∧
      next.woken other = lock.woken other := by
  unfold asleep woken waitersOf
  rw [more]
  by_cases same : path = other <;> simp [same]

theorem tickets_withdraw (lock : PathLock) (ticket : Nat) (path : String) (keep : Waiter → Bool) :
    (((lock.withdraw ticket).waitersOf path).filter keep).map Waiter.ticket =
      (((lock.waitersOf path).filter keep).map Waiter.ticket).filter (· != ticket) := by
  unfold waitersOf withdraw
  simp only [List.filter_map, List.filter_filter]
  congr 1
  refine List.filter_congr fun waiter _ => ?_
  rw [Function.comp_apply]
  cases waiter.path == path <;> cases keep waiter <;> simp

/-- Whoever leaves the queue leaves the line. -/
theorem line_withdraw (lock : PathLock) (ticket : Nat) (path : String) :
    (lock.withdraw ticket).asleep path = (lock.asleep path).filter (· != ticket) ∧
      (lock.withdraw ticket).woken path = (lock.woken path).filter (· != ticket) :=
  ⟨lock.tickets_withdraw ticket path _, lock.tickets_withdraw ticket path _⟩

theorem line_withdraw_sublist (lock : PathLock) (ticket : Nat) (path : String) :
    ((lock.withdraw ticket).line path).Sublist (lock.line path) := by
  obtain ⟨asleep, awake⟩ := lock.line_withdraw ticket path
  rw [line, asleep, awake]
  exact List.filter_sublist.append List.filter_sublist

theorem waitersOf_wake (lock : PathLock) (path other : String) :
    (lock.wake path).waitersOf other = (lock.waitersOf other).map fun waiter =>
      if waiter.path = path then { waiter with woken := true } else waiter := by
  unfold waitersOf wake
  rw [List.filter_map]
  congr 1
  refine List.filter_congr fun waiter _ => ?_
  rw [Function.comp_apply]
  split <;> rfl

theorem waitersOf_wake_of_ne (elsewhere : other ≠ path) (lock : PathLock) :
    (lock.wake path).waitersOf other = lock.waitersOf other := by
  rw [waitersOf_wake]
  refine (List.map_congr_left fun waiter member => ?_).trans (List.map_id _)
  exact if_neg fun is => elsewhere ((mem_waitersOf.mp member).2.symm.trans is)

/-- Where nobody was woken, or nobody sleeps, the line is the queue. -/
theorem line_of_uniform (uniform : lock.woken path = [] ∨ lock.asleep path = []) :
    lock.line path = (lock.waitersOf path).map Waiter.ticket := by
  unfold line woken asleep at *
  rcases uniform with nobody | nobody <;>
    rw [nobody] <;>
    rw [List.map_eq_nil_iff, List.filter_eq_nil_iff] at nobody
  · rw [List.append_nil, List.filter_eq_self.mpr fun one member => by simpa using nobody one member]
  · rw [List.nil_append, List.filter_eq_self.mpr fun one member => by simpa using nobody one member]

/-- To be woken changes no places where nobody was woken before, or nobody sleeps. -/
theorem line_wake (uniform : lock.woken path = [] ∨ lock.asleep path = []) (other : String) :
    (lock.wake path).line other = lock.line other := by
  by_cases same : other = path
  · subst same
    have nobody : (lock.wake other).asleep other = [] := by
      rw [asleep, waitersOf_wake, List.map_eq_nil_iff, List.filter_eq_nil_iff]
      intro waiter member
      obtain ⟨before, inside, rfl⟩ := List.mem_map.mp member
      simp [(mem_waitersOf.mp inside).2]
    rw [line_of_uniform uniform, line_of_uniform (.inr nobody), waitersOf_wake, List.map_map]
    refine List.map_congr_left fun waiter _ => ?_
    rw [Function.comp_apply]
    split <;> rfl
  · unfold line asleep woken
    rw [waitersOf_wake_of_ne same]

/-- Nor does it change places that a guard is given up. -/
theorem line_release {guard : Guard}
    (uniform : guard.owned = true → lock.woken guard.path = [] ∨ lock.asleep guard.path = [])
    (other : String) : (lock.release guard).line other = lock.line other := by
  unfold release
  split
  · rfl
  · rename_i token is
    have owned : guard.owned = true := congrArg Option.isSome is
    split
    · exact line_wake (uniform owned) other
    · rfl

/-! ### Other paths -/

/-- Nothing has changed at a path. -/
structure SameAt (path : String) (lock next : PathLock) : Prop where
  held : next.held.get? path = lock.held.get? path
  waitersOf : next.waitersOf path = lock.waitersOf path

theorem SameAt.refl (path : String) (lock : PathLock) : SameAt path lock lock := ⟨rfl, rfl⟩

theorem SameAt.trans {mid : PathLock} (first : SameAt path lock mid)
    (second : SameAt path mid next) : SameAt path lock next :=
  ⟨second.held.trans first.held, second.waitersOf.trans first.waitersOf⟩

theorem SameAt.isHeld (same : SameAt path lock next) : next.isHeld path = lock.isHeld path :=
  congrArg Option.isSome same.held

theorem SameAt.woken (same : SameAt path lock next) : next.woken path = lock.woken path := by
  unfold PathLock.woken
  rw [same.waitersOf]

theorem sameAt_withdraw
    (elsewhere : ∀ waiter ∈ lock.waiting, waiter.ticket = ticket → waiter.path ≠ other) :
    SameAt other lock (lock.withdraw ticket) where
  held := rfl
  waitersOf := by
    unfold waitersOf withdraw
    rw [List.filter_filter]
    refine List.filter_congr fun waiter member => ?_
    by_cases here : waiter.path = other
    · have others : waiter.ticket ≠ ticket := fun is => elsewhere waiter member is here
      simp [here, others]
    · simp [here]

theorem sameAt_release {guard : Guard} (elsewhere : guard.path ≠ other) :
    SameAt other lock (lock.release guard) := by
  unfold release
  split
  · exact .refl other lock
  · split
    · exact ⟨Table.get?_erase_of_ne elsewhere.symm _, waitersOf_wake_of_ne elsewhere.symm _⟩
    · exact .refl other lock

/-! ### Attempts -/

/-- The ticket of who has got a guard that owns `path`. -/
def grantee (ticket : Nat) (path : String) (result : Option Guard) : List Nat :=
  match result with
  | some guard => if guard.owned && guard.path == path then [ticket] else []
  | none => []

theorem grantee_of_unowned {result : Option Guard}
    (unowned : ∀ guard ∈ result, guard.owned = false) : grantee ticket path result = [] := by
  cases result with
  | none => rfl
  | some guard => simp [grantee, unowned guard rfl]

theorem grantee_of_elsewhere {result : Option Guard}
    (elsewhere : ∀ guard ∈ result, guard.path ≠ path) : grantee ticket path result = [] := by
  cases result with
  | none => rfl
  | some guard => simp [grantee, elsewhere guard rfl]

theorem grantee_of_owned {guard : Guard} (is : guard.path = path) (owned : guard.owned = true) :
    grantee ticket other (some guard) = if path = other then [ticket] else [] := by
  simp [grantee, is, owned]

/-- What an attempt for a path does to the lock: it leaves other paths alone and lets none go. -/
structure KeepsTo (path : String) (lock : PathLock) (tried : PathLock × Option Guard) : Prop where
  apart : ∀ other, other ≠ path → SameAt other lock tried.1
  held : lock.isHeld path = true → tried.1.isHeld path = true
  guard : ∀ guard ∈ tried.2, guard.path = path ∧ (guard.owned = true → lock.isHeld path = false)

theorem keepsTo_tryFor (lock : PathLock) (ticket : Nat) (path : String) (deadline now : Nat) :
    KeepsTo path lock (lock.tryFor ticket path deadline now) := by
  unfold tryFor take?
  cases used : lock.isHeld path with
  | false =>
      have put : ∀ other, other ≠ path → (lock.held.put path lock.nextToken).get? other =
        lock.held.get? other := fun other elsewhere => Table.get?_put_of_ne elsewhere _ _
      refine ⟨fun other elsewhere => ⟨put other elsewhere, rfl⟩, fun held => ?_, ?_⟩
      · cases used.symm.trans held
      · rintro _ ⟨⟩
        exact ⟨rfl, fun _ => used⟩
  | true =>
      simp only [if_true]
      split
      · refine ⟨fun other _ => ⟨rfl, rfl⟩, fun _ => used, ?_⟩
        rintro _ ⟨⟩
        exact ⟨rfl, nofun⟩
      · refine ⟨fun other elsewhere => ⟨rfl, ?_⟩, fun _ => used, nofun⟩
        unfold waitersOf
        rw [List.filter_append, List.filter_cons_of_neg (by simpa using elsewhere.symm),
          List.filter_nil, List.append_nil]

/-- Whoever tries again is out of the queue meanwhile. -/
theorem keepsTo_resume (found : lock.waiter? ticket = some waiter)
    (single : ∀ other ∈ lock.waiting, other.ticket = ticket → other = waiter) (now : Nat) :
    KeepsTo waiter.path lock (lock.resume ticket now) := by
  have tried := (lock.withdraw ticket).keepsTo_tryFor ticket waiter.path waiter.deadline now
  unfold resume
  rw [found]
  refine ⟨fun other elsewhere => ?_, tried.held, tried.guard⟩
  refine .trans (sameAt_withdraw fun one member is => ?_) (tried.apart other elsewhere)
  rw [single one member is]
  exact elsewhere.symm

/-- Nor does it that the guard is given up again. -/
theorem KeepsTo.release {guard : Guard} (keeps : KeepsTo path lock tried)
    (got : tried.2 = some guard) : KeepsTo path lock (tried.1.release guard, some guard) := by
  have is := (keeps.guard guard got).1
  refine ⟨fun other elsewhere => ?_, fun used => ?_, ?_⟩
  · exact (keeps.apart other elsewhere).trans (sameAt_release (is ▸ elsewhere.symm))
  · have unowned : guard.token = none := by
      cases token : guard.token with
      | none => rfl
      | some _ =>
          have free := (keeps.guard guard got).2 (congrArg Option.isSome token)
          cases free.symm.trans used
    unfold PathLock.release
    rw [unowned]
    exact keeps.held used
  · rintro _ ⟨⟩
    exact keeps.guard guard got

section

variable
  (awake : ∀ waiter ∈ lock.waiting, waiter.woken = false → lock.isHeld waiter.path = true)
include awake

/-- Nobody sleeps any more whose path has just been obtained. -/
theorem asleep_of_obtained (outcome : Outcome lock ticket path deadline now tried) :
    ∀ guard ∈ tried.2, guard.owned = true → tried.1.asleep guard.path = [] := by
  cases outcome with
  | @obtains next guard free is _ same =>
      rintro _ ⟨⟩ -
      have nobody := asleep_of_free awake free
      rw [is]
      unfold asleep waitersOf at nobody ⊢
      rw [same]
      exact nobody
  | @exhausts next guard _ _ _ unowned =>
      rintro _ ⟨⟩ owned
      cases unowned.symm.trans owned
  | waits => exact fun _ got => nomatch got

/-- Who asks for a path gets it only if nobody waits for it, and comes last otherwise. -/
theorem line_of_asked (rests : lock.rests now = true)
    (outcome : Outcome lock ticket path deadline now tried) (other : String) :
    (grantee ticket other tried.2 ++ tried.1.line other).Sublist
      (lock.line other ++ if path = other then [ticket] else []) := by
  cases outcome with
  | @obtains next guard free is owned same =>
      rw [grantee_of_owned is owned, line_congr same]
      by_cases here : path = other
      · subst here
        rw [if_pos rfl, line, asleep_of_free awake free, woken_of_rests rests]
        exact .refl _
      · rw [if_neg here, List.nil_append, List.append_nil]
  | @exhausts next guard _ _ _ unowned same =>
      rw [grantee_of_unowned (by simpa using unowned), line_congr same]
      exact List.sublist_append_left _ _
  | @waits next _ _ more =>
      obtain ⟨asleep, woken⟩ := line_concat more other
      rw [line, line, asleep, woken, woken_of_rests rests]
      simp [grantee]

/-- Who tries again gets the path only if nobody is before it in the line, and keeps its place if it
has to wait on. -/
theorem line_of_retried (member : waiter ∈ lock.waiting) (ready : waiter.isReady now = true)
    (isNext : waiter.woken = true → (lock.woken waiter.path).head? = some waiter.ticket)
    (outcome : Outcome (lock.withdraw waiter.ticket) waiter.ticket waiter.path waiter.deadline now
      tried) (other : String) :
    (grantee waiter.ticket other tried.2 ++ tried.1.line other).Sublist (lock.line other) := by
  have fewer := lock.line_withdraw_sublist waiter.ticket other
  -- Who is woken and comes next leaves the others behind it.
  have leaves : waiter.woken = true → ∃ behind, lock.woken waiter.path = waiter.ticket :: behind ∧
      ((lock.withdraw waiter.ticket).woken waiter.path).Sublist behind := by
    intro woken
    obtain ⟨behind, first⟩ := List.head?_eq_some_iff.mp (isNext woken)
    refine ⟨behind, first, ?_⟩
    rw [(lock.line_withdraw waiter.ticket waiter.path).2, first, List.filter_cons_of_neg (by simp)]
    exact List.filter_sublist
  cases outcome with
  | @obtains next guard free is owned same =>
      rw [grantee_of_owned is owned, line_congr same]
      by_cases here : waiter.path = other
      · subst here
        have woken : waiter.woken = true := by
          by_contra sleeps
          have used := awake waiter member (by simpa using sleeps)
          cases used.symm.trans free
        obtain ⟨behind, first, left⟩ := leaves woken
        have nobody : lock.asleep waiter.path = [] := asleep_of_free awake free
        rw [if_pos rfl, line, (lock.line_withdraw _ _).1, line, nobody, first]
        exact left.cons_cons _
      · rw [if_neg here]
        exact fewer
  | @exhausts next guard _ _ _ unowned same =>
      rw [grantee_of_unowned (by simpa using unowned), line_congr same]
      exact fewer
  | @waits next _ early more =>
      obtain ⟨asleep, woken⟩ := line_concat more other
      rw [show grantee waiter.ticket other none = [] from rfl, List.nil_append, line, asleep, woken]
      by_cases here : waiter.path = other
      · subst here
        have awoken : waiter.woken = true := by
          simpa [Waiter.isReady, Nat.not_le.mpr early] using ready
        obtain ⟨behind, first, left⟩ := leaves awoken
        rw [if_pos rfl, (lock.line_withdraw _ _).1, line, first, List.append_assoc]
        exact List.filter_sublist.append (left.cons_cons _)
      · rw [if_neg here, List.append_nil]
        exact fewer

end

end StationHub.PathLock
