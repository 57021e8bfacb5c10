import StationHub.Proofs.Slots.Entries

/-!
Who has what of the path lock.

* `Stake`: somebody who waits for a path, or has a guard.
* `Custody`: the lock and the stakes agree. The paths in use are those of the guards that own
  theirs, those who wait are those in the queue, and nobody sleeps whose path is free.
* `Custody.request`, `Custody.resume`, `Custody.withdraw`, `Custody.release`: the operations of the
  lock keep it.
-/

namespace StationHub

namespace Table

variable {κ ν : Type} [DecidableEq κ] {key : κ} {value : ν} {table : Table κ ν}

theorem has_iff : table.has key = true ↔ key ∈ table.map Prod.fst := by
  induction table with
  | nil => simp [has]
  | cons entry rest ih =>
      unfold has at ih ⊢
      unfold get?
      by_cases same : entry.1 = key
      · simp [same]
      · rw [if_neg same, ih, List.map_cons, List.mem_cons]
        exact ⟨.inr, fun member => member.resolve_left fun is => same is.symm⟩

/-- What is put under a new key comes last. -/
theorem put_of_new (new : table.has key = false) :
    table.put key value = table ++ [(key, value)] := by
  induction table with
  | nil => rfl
  | cons entry rest ih =>
      by_cases same : entry.1 = key
      · simp [has, get?, same] at new
      · have later : has key rest = false := by simpa [has, get?, same] using new
        rw [put, if_neg same, ih later]
        rfl

end Table

/-! ### Stakes -/

/-- A stake in the path lock: somebody waits for a path, or has a guard. -/
structure Stake where
  /-- The task whose stake it is. -/
  holder : Nat
  /-- The guard, unless the task waits. -/
  guard? : Option Guard

namespace Stake

/-- The path that the stake keeps in use, with the token under which it does. -/
def entry? (stake : Stake) : Option (String × Nat) :=
  stake.guard?.bind fun guard => guard.token.map fun token => (guard.path, token)

/-- The ticket with which the stake waits. -/
def ticket? (stake : Stake) : Option Nat :=
  if stake.guard?.isNone then some stake.holder else none

end Stake

/-- The path lock and the stakes in it agree. -/
structure Custody (lock : PathLock) (stakes : List Stake) : Prop where
  /-- A path is in use as long as a guard that owns it is there. -/
  held : lock.held.Perm (stakes.filterMap Stake.entry?)
  /-- A path is in use once. -/
  distinct : (lock.held.map Prod.fst).Nodup
  queue : (lock.waiting.map Waiter.ticket).Perm (stakes.filterMap Stake.ticket?)
  /-- Whoever waits and was not woken waits for a path in use. -/
  awake : ∀ waiter ∈ lock.waiting, waiter.woken = false → lock.isHeld waiter.path = true
  /-- Without an exhausted attempt every guard owns its path. -/
  owned : lock.exhausted = 0 → ∀ stake ∈ stakes, ∀ guard, stake.guard? = some guard →
    guard.owned = true

theorem custody_fresh (budget alarmThreshold : Nat) : Custody { budget, alarmThreshold } [] where
  held := .nil
  distinct := List.nodup_nil
  queue := .nil
  awake := fun _ member => nomatch member
  owned := fun _ _ member => nomatch member

namespace Custody

variable {lock next : PathLock} {stakes stakes' : List Stake} {id now : Nat} {path : String}
  {guard : Guard} {result : Option Guard}

/-- The order of the stakes does not matter. -/
theorem perm (custody : Custody lock stakes) (same : stakes.Perm stakes') :
    Custody lock stakes' where
  held := custody.held.trans (same.filterMap _)
  distinct := custody.distinct
  queue := custody.queue.trans (same.filterMap _)
  awake := custody.awake
  owned := fun none stake member => custody.owned none stake (same.mem_iff.mpr member)

/-! ### Asking -/

/-- A path that is free is obtained by the guard that is given out. -/
theorem take (custody : Custody lock stakes) (taken : lock.take? path = some (next, guard)) :
    Custody next (⟨id, some guard⟩ :: stakes) := by
  unfold PathLock.take? at taken
  split at taken
  · cases taken
  · rename_i free
    have new : lock.held.has path = false := by simpa [PathLock.isHeld] using free
    cases taken
    have put : lock.held.put path lock.nextToken = lock.held ++ [(path, lock.nextToken)] :=
      Table.put_of_new new
    refine ⟨?_, ?_, custody.queue, fun waiter member asleep => ?_, fun none stake member => ?_⟩
    · rw [put]
      exact (List.perm_append_singleton _ _).trans (custody.held.cons _)
    · exact Table.nodup_put custody.distinct
    · have before := custody.awake waiter member asleep
      rw [PathLock.isHeld, Table.has_iff] at before ⊢
      rw [put, List.map_append]
      exact List.mem_append_left _ before
    · rcases List.mem_cons.mp member with rfl | old
      · rintro guard ⟨⟩
        rfl
      · exact custody.owned none stake old

/-- Who asks for a path waits for it or has a guard. -/
theorem tryFor (custody : Custody lock stakes) {deadline : Nat}
    (tried : lock.tryFor id path deadline now = (next, result)) :
    Custody next (⟨id, result⟩ :: stakes) := by
  unfold PathLock.tryFor at tried
  split at tried
  · rename_i taken
    cases tried
    exact custody.take taken
  · rename_i busy
    have used : lock.isHeld path = true := by
      unfold PathLock.take? at busy
      split at busy
      · assumption
      · cases busy
    split at tried <;> cases tried
    · exact ⟨custody.held, custody.distinct, custody.queue, custody.awake,
        fun none => absurd none (Nat.succ_ne_zero _)⟩
    · refine ⟨custody.held, custody.distinct, ?_, fun waiter member asleep => ?_,
        fun none stake member => ?_⟩
      · rw [List.map_append]
        exact (List.perm_append_singleton _ _).trans (custody.queue.cons _)
      · rcases List.mem_append.mp member with old | new
        · exact custody.awake waiter old asleep
        · rw [List.mem_singleton.mp new]
          exact used
      · rcases List.mem_cons.mp member with rfl | old
        · rintro guard ⟨⟩
        · exact custody.owned none stake old

theorem request (custody : Custody lock stakes)
    (asked : lock.request id path now = (next, result)) :
    Custody next (⟨id, result⟩ :: stakes) :=
  custody.tryFor asked

/-! ### Leaving the queue -/

/-- Whoever waits no more is not in the queue any more. -/
theorem withdraw (custody : Custody lock (⟨id, none⟩ :: stakes))
    (single : id ∉ stakes.filterMap Stake.ticket?) : Custody (lock.withdraw id) stakes where
  held := custody.held
  distinct := custody.distinct
  queue := by
    have tickets : (lock.withdraw id).waiting.map Waiter.ticket =
        (lock.waiting.map Waiter.ticket).filter fun ticket => ticket != id := by
      rw [List.filter_map]
      rfl
    have others : (stakes.filterMap Stake.ticket?).filter (fun ticket => ticket != id) =
        stakes.filterMap Stake.ticket? := by
      refine List.filter_eq_self.mpr fun ticket member => bne_iff_ne.mpr ?_
      rintro rfl
      exact single member
    have queue := custody.queue.filter fun ticket => ticket != id
    rw [List.filterMap_cons] at queue
    rw [tickets, ← others]
    simpa [Stake.ticket?] using queue
  awake := fun waiter member => custody.awake waiter (List.mem_of_mem_filter member)
  owned := fun none stake member => custody.owned none stake (List.mem_cons_of_mem _ member)

/-- Who does not wait is not in the queue. -/
theorem withdraw_of_absent (custody : Custody lock stakes)
    (absent : id ∉ stakes.filterMap Stake.ticket?) : lock.withdraw id = lock := by
  have others : lock.waiting.filter (fun waiter => waiter.ticket != id) = lock.waiting := by
    refine List.filter_eq_self.mpr fun waiter member => bne_iff_ne.mpr ?_
    rintro rfl
    exact absent (custody.queue.mem_iff.mp (List.mem_map_of_mem member))
  unfold PathLock.withdraw
  rw [others]

theorem waiter?_of_stake (custody : Custody lock stakes) (member : (⟨id, none⟩ : Stake) ∈ stakes) :
    ∃ waiter, lock.waiter? id = some waiter ∧ waiter ∈ lock.waiting ∧ waiter.ticket = id := by
  have inside : id ∈ lock.waiting.map Waiter.ticket :=
    custody.queue.mem_iff.mpr (List.mem_filterMap.mpr ⟨_, member, rfl⟩)
  obtain ⟨waiter, waits, same⟩ := List.mem_map.mp inside
  have found : (lock.waiter? id).isSome = true := by
    rw [PathLock.waiter?, List.find?_isSome]
    exact ⟨waiter, waits, by simp [same]⟩
  obtain ⟨other, found⟩ := Option.isSome_iff_exists.mp found
  exact ⟨other, found, List.mem_of_find?_eq_some found, by simpa using List.find?_some found⟩

/-- Whoever tries again waits on or has a guard. -/
theorem resume (custody : Custody lock (⟨id, none⟩ :: stakes))
    (single : id ∉ stakes.filterMap Stake.ticket?)
    (tried : lock.resume id now = (next, result)) : Custody next (⟨id, result⟩ :: stakes) := by
  obtain ⟨waiter, found, -, -⟩ := custody.waiter?_of_stake List.mem_cons_self
  rw [PathLock.resume, found] at tried
  exact (custody.withdraw single).tryFor tried

/-! ### Giving up a guard -/

theorem isHeld_wake (lock : PathLock) (path other : String) :
    (lock.wake path).isHeld other = lock.isHeld other := rfl

/-- A guard that is given up lets its path go if it owns it, and wakes all who wait for it. -/
theorem release (custody : Custody lock (⟨id, some guard⟩ :: stakes)) :
    Custody (lock.release guard) stakes := by
  obtain ⟨path, token⟩ := guard
  cases token with
  | none =>
      have held := custody.held
      have queue := custody.queue
      exact ⟨held, custody.distinct, queue, custody.awake, fun none stake member =>
        custody.owned none stake (List.mem_cons_of_mem _ member)⟩
  | some token =>
      have held : lock.held.Perm ((path, token) :: stakes.filterMap Stake.entry?) := custody.held
      have found : lock.held.get? path = some token :=
        Table.get?_of_mem custody.distinct (held.mem_iff.mpr List.mem_cons_self)
      have released : lock.release ⟨path, some token⟩ =
          { lock with held := lock.held.erase path }.wake path := if_pos found
      have rest : (lock.held.erase path).Perm (stakes.filterMap Stake.entry?) := by
        have new := (List.nodup_cons.mp ((held.map Prod.fst).nodup_iff.mp custody.distinct)).1
        have others : (stakes.filterMap Stake.entry?).filter (fun entry => entry.1 ≠ path) =
            stakes.filterMap Stake.entry? := by
          refine List.filter_eq_self.mpr fun entry member => decide_eq_true ?_
          rintro rfl
          exact new (List.mem_map.mpr ⟨entry, member, rfl⟩)
        have erased := held.filter fun entry => decide (entry.1 ≠ path)
        rw [List.filter_cons_of_neg (by simp), others] at erased
        exact erased
      rw [released]
      refine ⟨rest, Table.nodup_erase custody.distinct path, ?_, fun waiter member asleep => ?_,
        fun none stake member => custody.owned none stake (List.mem_cons_of_mem _ member)⟩
      · have tickets : ({ lock with held := lock.held.erase path }.wake path).waiting.map
            Waiter.ticket = lock.waiting.map Waiter.ticket := by
          rw [PathLock.wake, List.map_map]
          refine List.map_congr_left fun waiter _ => ?_
          rw [Function.comp_apply]
          split <;> rfl
        rw [tickets]
        exact custody.queue
      · obtain ⟨old, before, rfl⟩ := List.mem_map.mp member
        split at asleep <;> rename_i same
        · cases asleep
        · have used := custody.awake old before asleep
          rw [if_neg same, isHeld_wake]
          rw [PathLock.isHeld, Table.has] at used ⊢
          rw [Table.get?_erase_of_ne same]
          exact used

end Custody

end StationHub
