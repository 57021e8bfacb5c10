import StationHub.Proofs.Lock.Patience
import StationHub.Proofs.Slots.Threshold

/-!
What the path lock counts, and when it raises an alarm.

* `Account`: what the lock keeps account of; `Account.after`: the account after one more guard was
  given out.
* `account_of_step?`: guards that are given out are all that counts; `account_of_run?`: the account
  of a run is that of its guards, in the order in which they were given out.
* `alarms_of_run?`: every guard that does not own its path is counted, and an alarm is raised for
  those of them that come after enough others in a row.
-/

namespace StationHub

namespace PathLock

/-- What a lock keeps account of. -/
structure Account where
  /-- From which exhausted attempt in a row on an alarm is raised. -/
  threshold : Nat
  /-- Exhausted attempts since a path was last obtained, counted in 32 bits. -/
  streak : Nat := 0
  exhausted : Nat := 0
  alarms : Nat := 0
  deriving DecidableEq, Repr

/-- The account of a lock. -/
def account (lock : PathLock) : Account :=
  ⟨lock.alarmThreshold, lock.streak, lock.exhausted, lock.alarms⟩

/-- The account after a guard was given out that owns its path or does not. -/
def Account.after (account : Account) (owned : Bool) : Account :=
  if owned then { account with streak := 0 }
  else
    let streak := (account.streak + 1) % Nat.pow 2 32
    { account with
      streak
      exhausted := account.exhausted + 1
      alarms := if account.threshold ≤ streak then account.alarms + 1 else account.alarms }

/-! ### The operations -/

variable {lock : PathLock} {ticket deadline now : Nat} {path : String}

/-- An attempt counts when it ends with a guard. -/
theorem account_tryFor (lock : PathLock) (ticket : Nat) (path : String) (deadline now : Nat) :
    (lock.tryFor ticket path deadline now).1.account =
      (lock.tryFor ticket path deadline now).2.elim lock.account fun guard =>
        lock.account.after guard.owned := by
  unfold tryFor take?
  cases lock.isHeld path with
  | false => rfl
  | true =>
      simp only [if_true]
      split <;> rfl

theorem account_resume (lock : PathLock) (ticket now : Nat) :
    (lock.resume ticket now).1.account =
      (lock.resume ticket now).2.elim lock.account fun guard => lock.account.after guard.owned := by
  unfold resume
  split
  · rfl
  · exact account_tryFor (lock.withdraw ticket) ticket _ _ now

@[simp] theorem account_withdraw (lock : PathLock) (ticket : Nat) :
    (lock.withdraw ticket).account = lock.account := rfl

/-- A guard that is given up does not count, whether it owns its path or not. -/
@[simp] theorem account_release (lock : PathLock) (guard : Guard) :
    (lock.release guard).account = lock.account := by
  unfold release
  split
  · rfl
  · split <;> rfl

/-! ### Guards in a row -/

/-- The account after some guards were given out. -/
def Account.afterAll (account : Account) (owned : List Bool) : Account :=
  owned.foldl Account.after account

theorem Account.afterAll_concat (account : Account) (earlier : List Bool) (owned : Bool) :
    account.afterAll (earlier ++ [owned]) = (account.afterAll earlier).after owned := by
  simp [afterAll]

@[simp] theorem Account.threshold_after (account : Account) (owned : Bool) :
    (account.after owned).threshold = account.threshold := by
  cases owned <;> rfl

@[simp] theorem Account.threshold_afterAll (account : Account) (owned : List Bool) :
    (account.afterAll owned).threshold = account.threshold := by
  induction owned using List.reverseRecOn with
  | nil => rfl
  | append_singleton earlier last ih => rw [afterAll_concat, threshold_after, ih]

/-- Every guard that does not own its path is an exhausted attempt. -/
theorem Account.exhausted_afterAll (account : Account) (owned : List Bool) :
    (account.afterAll owned).exhausted = account.exhausted + owned.count false := by
  induction owned using List.reverseRecOn with
  | nil => rfl
  | append_singleton earlier last ih =>
      rw [afterAll_concat, List.count_append, List.count_singleton]
      cases last with
      | true => simpa [after] using ih
      | false => simp [after, ih, Nat.add_assoc]

/-- There are fewer exhausted attempts in a row than can be counted. -/
def Countable (owned : List Bool) : Prop :=
  ∀ earlier row later, owned = earlier ++ row ++ later → (∀ one ∈ row, one = false) →
    row.length < Nat.pow 2 32

theorem Countable.init {earlier later : List Bool} (countable : Countable (earlier ++ later)) :
    Countable earlier := by
  rintro first row rest rfl unowned
  exact countable first row (rest ++ later) (by simp) unowned

theorem Countable.failuresInARow_lt {owned : List Bool} (countable : Countable owned) :
    failuresInARow owned < Nat.pow 2 32 := by
  obtain ⟨earlier, row, split, unowned, many⟩ := le_failuresInARow_iff.mp (Nat.le_refl _)
  exact Nat.lt_of_le_of_lt many (countable earlier row [] (by simpa using split) unowned)

/-- The streak is the number of exhausted attempts in a row. -/
theorem Account.streak_afterAll {threshold : Nat} {owned : List Bool}
    (countable : Countable owned) :
    (Account.afterAll { threshold } owned).streak = failuresInARow owned := by
  induction owned using List.reverseRecOn with
  | nil => rfl
  | append_singleton earlier last ih =>
      have streak := ih countable.init
      have few := countable.failuresInARow_lt
      rw [failuresInARow_concat] at few ⊢
      rw [afterAll_concat]
      cases last with
      | true => rfl
      | false =>
          show ((Account.afterAll { threshold } earlier).streak + 1) % Nat.pow 2 32 = _
          rw [streak]
          exact Nat.mod_eq_of_lt few

/-- With one more guard an alarm is raised exactly if it is one more exhausted attempt in a row, and
as many as the threshold tells have come by then. -/
theorem Account.alarms_after {threshold : Nat} {before : List Bool} {owned : Bool}
    (countable : Countable (before ++ [owned])) :
    ((Account.afterAll { threshold } before).after owned).alarms =
      (Account.afterAll { threshold } before).alarms +
        if owned = false ∧ threshold ≤ failuresInARow before + 1 then 1 else 0 := by
  cases owned with
  | true => rfl
  | false =>
      have counted : (Account.afterAll { threshold } (before ++ [false])).streak = _ :=
        streak_afterAll countable
      rw [afterAll_concat, failuresInARow_concat] at counted
      have streak : ((Account.afterAll { threshold } before).streak + 1) % Nat.pow 2 32 =
          failuresInARow before + 1 := counted
      simp only [after, Bool.false_eq_true, if_false, threshold_afterAll, streak, true_and]
      split <;> rfl

end PathLock

namespace Hub

open PathLock (Account Countable)

variable {settings : Settings} {mark : Mark} {moves : List Move} {h next : Hub} {move : Move}

/-! ### Moves and runs -/

theorem account_of_attempt? {id : Nat} {lock : PathLock} {result : Option Guard}
    (attempts : h.attempt? move = some (id, lock, result)) :
    lock.account = result.elim h.lock.account fun guard => h.lock.account.after guard.owned := by
  unfold attempt? at attempts
  split at attempts
  · rename_i id path _
    obtain ⟨rfl, asked⟩ := Prod.mk.inj (Option.some.inj attempts)
    have counted := h.lock.account_tryFor id path (h.now + h.lock.budget) h.now
    have tried : h.lock.tryFor id path (h.now + h.lock.budget) h.now = (lock, result) := asked
    rw [tried] at counted
    exact counted
  · obtain ⟨id, -, tried⟩ := Option.map_eq_some_iff.mp attempts
    obtain ⟨rfl, again⟩ := Prod.mk.inj tried
    have counted := h.lock.account_resume id h.now
    rw [again] at counted
    exact counted

/-- Whether the guard that is given out with the move owns its path. -/
def givesOut? (h : Hub) (move : Move) : Option Bool :=
  (h.obtains? move).map fun got => got.2.owned

theorem givesOut?_of_attempt? {id : Nat} {lock : PathLock} {result : Option Guard}
    (attempts : h.attempt? move = some (id, lock, result)) :
    h.givesOut? move = result.map Guard.owned := by
  unfold givesOut? obtains?
  rw [attempts]
  cases result <;> rfl

theorem givesOut?_of_nobody (nobody : h.attempt? move = none) : h.givesOut? move = none := by
  unfold givesOut? obtains?
  rw [nobody]
  rfl

/-- A move counts if a guard is given out with it, and only then. -/
theorem account_of_step? (numbered : h.Numbered) (custody : Custody h.lock h.stakes)
    (moved : h.step? move = some next) :
    next.lock.account = (h.givesOut? move).elim h.lock.account h.lock.account.after := by
  have attempted : ∀ {id : Nat} {lock : PathLock} {result : Option Guard},
      h.attempt? move = some (id, lock, result) →
        lock.account = (h.givesOut? move).elim h.lock.account h.lock.account.after := by
    intro id lock result attempts
    rw [account_of_attempt? attempts, givesOut?_of_attempt? attempts]
    cases result <;> rfl
  cases (handover_of_step? numbered custody moved).1 with
  | idle nobody same =>
      rw [same, givesOut?_of_nobody nobody]
      rfl
  | keeps id lock result attempts same =>
      rw [same]
      exact attempted attempts
  | passes id lock guard attempts same =>
      rw [same, PathLock.account_release]
      exact attempted attempts
  | drops id guard nobody _ same =>
      rw [same, PathLock.account_release, givesOut?_of_nobody nobody]
      rfl
  | leaves id _ nobody _ same =>
      rw [same, PathLock.account_withdraw, givesOut?_of_nobody nobody]
      rfl

/-- The account of a run is that of the guards given out in it. -/
theorem account_of_run? (run : (fresh settings mark).run? moves = some h) :
    h.lock.account = Account.afterAll { threshold := settings.alarmThreshold }
      ((fresh settings mark).observed givesOut? moves) := by
  induction moves using List.reverseRecOn generalizing h with
  | nil =>
      cases run
      rfl
  | append_singleton moves move ih =>
      obtain ⟨mid, run, moved⟩ := run?_concat.mp run
      rw [account_of_step? (numbered_of_run? run) (custody_of_run? run) moved, ih run,
        observed_concat run]
      cases mid.givesOut? move with
      | none => simp
      | some owned => exact (Account.afterAll_concat _ _ owned).symm

/-- An alarm is due with a move: a guard is given out that does not own its path, and those given
out before end with others like it, so many that with this one there are as many as the threshold
tells. -/
def AlarmDue (threshold : Nat) (before : List Bool) (given : Option Bool) : Prop :=
  given = some false ∧ ∃ earlier row, before = earlier ++ row ∧ (∀ one ∈ row, one = false) ∧
    threshold ≤ row.length + 1

theorem alarmDue_iff {threshold : Nat} {before : List Bool} {given : Option Bool} :
    AlarmDue threshold before given ↔
      given = some false ∧ threshold ≤ failuresInARow before + 1 := by
  refine and_congr_right fun _ => ?_
  have reached : threshold - 1 ≤ failuresInARow before ↔ _ := le_failuresInARow_iff
  simpa only [Nat.sub_le_iff_le_add] using reached.symm

/-- The account of the path lock after the moves of a run. -/
structure Alarmed (start : Hub) (moves : List Move) (threshold : Nat) (h : Hub) : Prop where
  /-- As many attempts are exhausted as guards were given out that do not own their paths. -/
  exhausted : h.tally.lockExhausted = (start.observed givesOut? moves).count false
  /-- With every move of the run an alarm is raised exactly if one is due. -/
  alarms : ∀ earlier move later mid next, moves = earlier ++ move :: later →
    start.run? earlier = some mid → mid.step? move = some next →
      (AlarmDue threshold (start.observed givesOut? earlier) (mid.givesOut? move) →
        next.lock.alarms = mid.lock.alarms + 1) ∧
      (¬AlarmDue threshold (start.observed givesOut? earlier) (mid.givesOut? move) →
        next.lock.alarms = mid.lock.alarms)
  /-- Nothing else counts: -/
  inert : ∀ move next, h.step? move = some next → h.givesOut? move = none →
    next.lock.account = h.lock.account
  /-- not that somebody is given up, while it waits or has a guard, -/
  cancelled : ∀ task, h.givesOut? (.cancel task) = none
  /-- nor that a guard is let go, whether it owns its path or not. -/
  released : ∀ guard, (h.release guard).lock.account = h.lock.account

/-- **Exhausted attempts and alarms.** -/
theorem alarms_of_run? (run : (fresh settings mark).run? moves = some h)
    (countable : Countable ((fresh settings mark).observed givesOut? moves)) :
    Alarmed (fresh settings mark) moves settings.alarmThreshold h := by
  refine ⟨?_, ?_, ?_, fun _ => givesOut?_of_nobody rfl, fun guard => h.lock.account_release guard⟩
  · have exhausted := congrArg Account.exhausted (account_of_run? run)
    rw [Account.exhausted_afterAll, Nat.zero_add] at exhausted
    exact exhausted
  · rintro earlier move later mid next rfl before moved
    rw [observed_append before, observed, moved] at countable
    have alarms := congrArg Account.alarms (account_of_run? before)
    have counted := account_of_step? (numbered_of_run? before) (custody_of_run? before) moved
    rw [account_of_run? before] at counted
    rw [alarmDue_iff]
    cases given : mid.givesOut? move with
    | none =>
        rw [given] at counted
        exact ⟨by rintro ⟨⟨⟩, -⟩, fun _ => (congrArg Account.alarms counted).trans alarms.symm⟩
    | some owned =>
        rw [given] at counted countable
        have withThis :
            Countable ((fresh settings mark).observed givesOut? earlier ++ [owned]) :=
          Countable.init (by simpa using countable)
        have raised : next.lock.alarms = mid.lock.alarms +
            if owned = false ∧ settings.alarmThreshold ≤
              failuresInARow ((fresh settings mark).observed givesOut? earlier) + 1
            then 1 else 0 := by
          rw [show mid.lock.alarms = _ from alarms]
          exact (congrArg Account.alarms counted).trans (Account.alarms_after withThis)
        refine ⟨fun due => ?_, fun notDue => ?_⟩
        · rw [raised, if_pos ⟨Option.some.inj due.1, due.2⟩]
        · rw [raised, if_neg fun due => notDue ⟨congrArg some due.1, due.2⟩, Nat.add_zero]
  · intro move next moved nobody
    rw [account_of_step? (numbered_of_run? run) (custody_of_run? run) moved, nobody]
    rfl

/-- A run without patience and with a threshold of two: of the three attempts that are exhausted the
first two come in a row, and the third after the path was let go and obtained again. -/
def alarmedRun : List Move :=
  [.guarding "/p", .guarding "/p", .guarding "/p", .cancel 1, .cancel 0, .guarding "/p",
    .guarding "/p"]

theorem alarms_of_run?_alarmedRun :
    ∃ h, (fresh { lockRetries := 0, alarmThreshold := 2 } "hub").run? alarmedRun = some h ∧
      (fresh { lockRetries := 0, alarmThreshold := 2 } "hub").observed givesOut? alarmedRun =
        [true, false, false, true, false] ∧
      h.lock.alarms = 1 ∧
      Alarmed (fresh { lockRetries := 0, alarmThreshold := 2 } "hub") alarmedRun 2 h := by
  have given : (fresh { lockRetries := 0, alarmThreshold := 2 } "hub").observed givesOut?
      alarmedRun = [true, false, false, true, false] := by decide
  refine ⟨((fresh { lockRetries := 0, alarmThreshold := 2 } "hub").run? alarmedRun).get
    (by decide), rfl, given, by decide, alarms_of_run? rfl ?_⟩
  intro earlier row later split _
  have few := congrArg List.length (given.symm.trans split)
  simp only [List.length_append, List.length_cons, List.length_nil] at few
  have short : row.length ≤ 5 := by omega
  exact Nat.lt_of_le_of_lt short (by decide)

end Hub

end StationHub
