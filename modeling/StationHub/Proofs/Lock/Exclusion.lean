import StationHub.Proofs.Lock.Askings

/-!
The exclusive use of paths.

* `guards`: the guards that tasks have.
* `firstCalls_of_run?`: only the first call of a session that is looked at asks for its path.
* `paths_exclusive`: a path is in use exactly while one guard that owns it is there, which is that
  of an opening or of the first call of a session that asked for it; and as long as no attempt was
  exhausted, the directory is asked for one path by one opening at a time.
-/

namespace StationHub

/-- The call of session number `i` for which the path is asked for. -/
def Asking.callOf? (i : Nat) (asking : Asking) : Option Request :=
  match asking.errand with
  | .call session request => if session = i then some request else none
  | _ => none

namespace Hub

/-- The guards that are there, each with the task that has it. -/
def guards (h : Hub) : List (Nat × Guard) :=
  h.tasks.filterMap fun task => (Activity.guard? task.activity).map fun guard => (task.id, guard)

/-- The guards that own their paths. -/
def owners (h : Hub) : List (Nat × Guard) := h.guards.filter fun entry => entry.2.owned

/-- The call that session number `i` looks at with the move. -/
def callSeen? (i : Nat) (h : Hub) (move : Move) : Option Request :=
  (h.received? move).bind fun receipt => if receipt.session = i then receipt.request? else none

/-! ### Guards and stakes -/

theorem guard?_stake? (task : Task) : (task.stake?.bind Stake.guard?) =
    Activity.guard? task.activity := by
  obtain ⟨id, activity⟩ := task
  cases activity with
  | executing session context request guard => cases guard <;> rfl
  | _ => rfl

theorem mem_guards {h : Hub} {id : Nat} {guard : Guard} : (id, guard) ∈ h.guards ↔
    ∃ task ∈ h.tasks, task.id = id ∧ Activity.guard? task.activity = some guard := by
  unfold guards
  rw [List.mem_filterMap]
  refine exists_congr fun task => and_congr_right fun _ => ?_
  rw [Option.map_eq_some_iff]
  constructor
  · rintro ⟨_, has, same⟩
    obtain ⟨rfl, rfl⟩ := Prod.mk.inj same
    exact ⟨rfl, has⟩
  · rintro ⟨rfl, has⟩
    exact ⟨guard, has, rfl⟩

/-- The paths in use with their tokens are those of the guards that own theirs. -/
theorem entries_eq (h : Hub) : h.stakes.filterMap Stake.entry? =
    h.guards.filterMap fun entry => entry.2.token.map fun token => (entry.2.path, token) := by
  unfold stakes guards
  rw [List.filterMap_filterMap, List.filterMap_filterMap]
  refine List.filterMap_congr fun task _ => ?_
  rw [← guard?_stake?]
  cases task.stake? with
  | none => rfl
  | some stake => cases known : stake.guard? <;> simp [Stake.entry?, known]

theorem mem_stakes {h : Hub} {id : Nat} {guard : Guard} (member : (id, guard) ∈ h.guards) :
    (⟨id, some guard⟩ : Stake) ∈ h.stakes := by
  obtain ⟨task, inside, rfl, has⟩ := mem_guards.mp member
  rw [← guard?_stake?] at has
  obtain ⟨⟨holder, guard?⟩, is, rfl⟩ := Option.bind_eq_some_iff.mp has
  cases Task.holder_stake? is
  exact List.mem_filterMap.mpr ⟨task, inside, is⟩

section

variable {h : Hub} (custody : Custody h.lock h.stakes)
include custody

/-- The paths in use are those of the guards that own theirs. -/
theorem held_perm_owners :
    (h.lock.held.map Prod.fst).Perm (h.owners.map fun entry => entry.2.path) := by
  have paths : (h.stakes.filterMap Stake.entry?).map Prod.fst =
      h.owners.map fun entry => entry.2.path := by
    rw [entries_eq, owners]
    induction h.guards with
    | nil => rfl
    | cons entry rest ih =>
        obtain ⟨id, path, token⟩ := entry
        cases token with
        | none => exact ih
        | some token => exact congrArg (path :: ·) ih
  rw [← paths]
  exact custody.held.map Prod.fst

theorem isHeld_iff_owner (path : String) :
    h.lock.isHeld path = true ↔ ∃ entry ∈ h.owners, entry.2.path = path := by
  rw [PathLock.isHeld, Table.has_iff, (held_perm_owners custody).mem_iff, List.mem_map]

end

/-! ### First calls -/

theorem isFirst_of_request? {h : Hub} {receipt : Receipt} {request : Request}
    (is : receipt.request? = some request) : h.isFirst receipt = !h.hasCalled receipt.session := by
  obtain ⟨task, session, path, message⟩ := receipt
  cases message with
  | call => rfl
  | result | error => cases is

theorem isFirst_of_not_request? {h : Hub} {receipt : Receipt}
    (other : receipt.request? = none) : h.isFirst receipt = false := by
  obtain ⟨task, session, path, message⟩ := receipt
  cases message with
  | call => cases other
  | result | error => rfl

/-- What a session that looks at a message asks for. -/
theorem asking?_of_received? {h : Hub} {move : Move} {receipt : Receipt}
    (looks : h.received? move = some receipt) :
    h.asking? move = if h.hasCalled receipt.session then none else
      receipt.request?.map fun request =>
        ⟨receipt.task, receipt.path, .call receipt.session request, h.now⟩ := by
  have errand : h.errand move = receipt.request?.elim .keeping (.call receipt.session) := by
    cases move with
    | opening => cases looks
    | _ => simp [Hub.errand, looks]
  unfold asking?
  rw [asks?_of_received? looks, errand]
  cases is : receipt.request? with
  | none =>
      rw [isFirst_of_not_request? is]
      cases h.hasCalled receipt.session <;> rfl
  | some request =>
      rw [isFirst_of_request? is]
      cases h.hasCalled receipt.session <;> rfl

/-- A path is asked for a call if the call is the first that its session looks at. -/
theorem callOf?_asking? (h : Hub) (move : Move) (i : Nat) :
    (h.asking? move).bind (Asking.callOf? i) =
      if h.hasCalled i then none else h.callSeen? i move := by
  cases looks : h.received? move with
  | some receipt =>
      have seen : h.callSeen? i move = if receipt.session = i then receipt.request? else none := by
        rw [callSeen?, looks, Option.bind_some]
      rw [asking?_of_received? looks, seen]
      by_cases same : receipt.session = i
      · subst same
        rw [if_pos rfl]
        cases h.hasCalled receipt.session <;> cases receipt.request? <;>
          simp [Asking.callOf?]
      · rw [if_neg same]
        cases h.hasCalled receipt.session <;> cases receipt.request? <;>
          simp [Asking.callOf?, same]
  | none =>
      have unseen : h.callSeen? i move = none := by rw [callSeen?, looks, Option.bind_none]
      rw [unseen, ite_self]
      cases move with
      | opening | guarding => rfl
      | handling | resume => simp [asking?, asks?, looks]
      | _ => rfl

/-- A session has been called once it has looked at a call. -/
theorem hasCalled_iff_seen {settings : Settings} {mark : Mark} {moves : List Move} {h : Hub}
    (run : (fresh settings mark).run? moves = some h) (i : Nat) :
    h.hasCalled i = !((fresh settings mark).observed (callSeen? i) moves).isEmpty := by
  induction moves using List.reverseRecOn generalizing h with
  | nil =>
      cases run
      rfl
  | append_singleton moves move ih =>
      obtain ⟨mid, run, moved⟩ := run?_concat.mp run
      have seen :
          ((mid.received? move).any fun receipt =>
            receipt.message.kind == .call && receipt.session == i) =
              (mid.callSeen? i move).isSome := by
        unfold callSeen?
        cases mid.received? move with
        | none => rfl
        | some receipt =>
            obtain ⟨task, session, path, message⟩ := receipt
            by_cases same : session = i <;> cases message <;>
              simp [same, Message.kind, Receipt.request?]
      rw [observed_concat run, step?_hasCalled moved, ih run, seen]
      cases mid.callSeen? i move <;> simp

/-- Only the first call of a session that is looked at asks for its path. -/
theorem firstCalls_of_run? {settings : Settings} {mark : Mark} {moves : List Move} {h : Hub}
    (run : (fresh settings mark).run? moves = some h) (i : Nat) :
    ((fresh settings mark).observed asking? moves).filterMap (Asking.callOf? i) =
      ((fresh settings mark).observed (callSeen? i) moves).take 1 := by
  induction moves using List.reverseRecOn generalizing h with
  | nil => rfl
  | append_singleton moves move ih =>
      obtain ⟨mid, run, moved⟩ := run?_concat.mp run
      have asked : (mid.asking? move).toList.filterMap (Asking.callOf? i) =
          ((mid.asking? move).bind (Asking.callOf? i)).toList := by
        cases mid.asking? move with
        | none => rfl
        | some asking =>
            rw [Option.toList_some, Option.bind_some, List.filterMap_cons]
            cases asking.callOf? i <;> rfl
      rw [observed_concat run, observed_concat run, List.filterMap_append, ih run, asked,
        callOf?_asking?, hasCalled_iff_seen run]
      cases (fresh settings mark).observed (callSeen? i) moves with
      | nil => cases mid.callSeen? i move <;> rfl
      | cons first rest => simp

/-! ### Exclusion -/

/-- An opening asks for the path of its target. -/
theorem path_of_opening {h : Hub} {move : Move} {asking : Asking}
    (asks : h.asking? move = some asking) {link : Nat} {target : Target}
    (opens : asking.errand = .opening link target) : asking.path = target.path := by
  obtain ⟨known, errand, -⟩ := asking?_eq_some.mp asks
  rw [opens] at errand
  have other : ∀ receipt : Receipt,
      receipt.request?.elim .keeping (.call receipt.session) ≠ Errand.opening link target := by
    intro receipt
    cases receipt.request? <;> nofun
  cases move with
  | opening link' target' =>
      have path := (Prod.mk.inj (Option.some.inj known)).2
      cases errand
      exact path.symm
  | _ =>
      simp only [Hub.errand] at errand
      split at errand
      · exact absurd errand.symm (other _)
      · cases errand

/-- The paths are used exclusively after the moves of a run. -/
structure Exclusive (start : Hub) (moves : List Move) (h : Hub) : Prop where
  /-- No two guards own one path. -/
  single : (h.owners.map fun entry => entry.2.path).Nodup
  /-- A path is in use exactly while a guard that owns it is there. -/
  held : ∀ path, h.lock.isHeld path = true ↔ ∃ entry ∈ h.owners, entry.2.path = path
  /-- As many paths are in use as there are guards that own theirs. -/
  count : h.lock.held.length = h.owners.length
  /-- Nothing is in use once nobody has a guard any more. -/
  ended : h.guards = [] → h.lock.held = []
  /-- A guard that does not own its path is given up without a trace. -/
  unowned : ∀ guard : Guard, (∀ token ∈ guard.token, h.lock.held.get? guard.path ≠ some token) →
    h.release guard = h
  /-- Who has a guard has asked for its path to do what it is at. -/
  asked : ∀ task ∈ h.tasks, ∀ guard, Activity.guard? task.activity = some guard →
    ∃ asking ∈ start.observed asking? moves, asking.task = task.id ∧ asking.path = guard.path ∧
      asking.errand.Fits task.activity
  /-- An opening has asked for the path of its target. -/
  own : ∀ asking ∈ start.observed asking? moves, ∀ link target,
    asking.errand = .opening link target → asking.path = target.path
  /-- A session asks for a path for the first call that it looks at, and for no other. -/
  calls : ∀ i, (start.observed asking? moves).filterMap (Asking.callOf? i) =
    (start.observed (callSeen? i) moves).take 1
  /-- Without an exhausted attempt no two tasks have guards for one path. -/
  apart : h.lock.exhausted = 0 → ∀ first ∈ h.guards, ∀ second ∈ h.guards,
    first.2.path = second.2.path → first = second
  /-- Without an exhausted attempt the directory is asked for one path once at a time. -/
  directory : h.lock.exhausted = 0 → ∀ first ∈ h.tasks, ∀ second ∈ h.tasks,
    ∀ link link' target target' guard guard',
      first.activity = .openResolving link target guard →
      second.activity = .openResolving link' target' guard' →
      target.path = target'.path → first = second

section

variable {settings : Settings} {mark : Mark} {moves : List Move} {h : Hub}
  (run : (fresh settings mark).run? moves = some h)
include run

/-- An opening has asked for the path of its target. -/
theorem path_of_asked {asking : Asking}
    (member : asking ∈ (fresh settings mark).observed asking? moves) {link : Nat}
    {target : Target} (opens : asking.errand = .opening link target) :
    asking.path = target.path := by
  obtain ⟨earlier, move, later, mid, -, -, asks⟩ := (mem_observed run).mp member
  exact path_of_opening asks opens

/-- Who has a guard has asked for its path to do what it is at. -/
theorem asked_of_guard {task : Task} (member : task ∈ h.tasks) {guard : Guard}
    (has : Activity.guard? task.activity = some guard) :
    ∃ asking ∈ (fresh settings mark).observed asking? moves, asking.task = task.id ∧
      asking.path = guard.path ∧ asking.errand.Fits task.activity := by
  have traced := traced_of_run? run
  have stake := mem_stakes (mem_guards.mpr ⟨task, member, rfl, has⟩)
  obtain ⟨asking, inside, is, path⟩ := traced.guards _ stake guard rfl
  have known : task.stake?.isSome = true := by
    rw [← guard?_stake?] at has
    obtain ⟨stake, known, -⟩ := Option.bind_eq_some_iff.mp has
    rw [known]
    rfl
  obtain ⟨asking', inside', is', fits⟩ := traced.fits task member known
  have same : asking' = asking :=
    List.inj_on_of_nodup_map traced.distinct inside' inside (is'.trans is.symm)
  exact ⟨asking, inside, is, path, same ▸ fits⟩

/-- Without an exhausted attempt no two tasks have guards for one path. -/
theorem guard_unique (unexhausted : h.lock.exhausted = 0) {first second : Nat × Guard}
    (member : first ∈ h.guards) (member' : second ∈ h.guards)
    (same : first.2.path = second.2.path) : first = second := by
  have custody := custody_of_run? run
  have single : (h.owners.map fun entry => entry.2.path).Nodup :=
    (held_perm_owners custody).nodup_iff.mp custody.distinct
  have owner : ∀ entry ∈ h.guards, entry ∈ h.owners := fun entry member =>
    List.mem_filter.mpr ⟨member, custody.owned unexhausted _ (mem_stakes member) _ rfl⟩
  exact List.inj_on_of_nodup_map single (owner first member) (owner second member') same

/-- An opening that waits for the directory has a guard for the path of its target. -/
theorem guard_of_resolving {task : Task} (member : task ∈ h.tasks) {link : Nat} {target : Target}
    {guard : Guard} (resolves : task.activity = .openResolving link target guard) :
    (task.id, guard) ∈ h.guards ∧ guard.path = target.path := by
  have has : Activity.guard? task.activity = some guard := by
    rw [resolves]
    rfl
  obtain ⟨asking, inside, -, path, fits⟩ := asked_of_guard run member has
  rw [resolves] at fits
  exact ⟨mem_guards.mpr ⟨task, member, rfl, has⟩,
    path.symm.trans (path_of_asked run inside fits.opening)⟩

end

/-- **The exclusive use of paths.** -/
theorem paths_exclusive {settings : Settings} {mark : Mark} {moves : List Move} {h : Hub}
    (run : (fresh settings mark).run? moves = some h) :
    Exclusive (fresh settings mark) moves h := by
  have numbered := numbered_of_run? run
  have custody := custody_of_run? run
  have count : h.lock.held.length = h.owners.length := by
    simpa using (held_perm_owners custody).length_eq
  refine ⟨(held_perm_owners custody).nodup_iff.mp custody.distinct, isHeld_iff_owner custody, count,
    ?_, ?_, fun _ member _ has => asked_of_guard run member has,
    fun _ member _ _ opens => path_of_asked run member opens, firstCalls_of_run? run,
    fun unexhausted _ member _ member' same => guard_unique run unexhausted member member' same, ?_⟩
  · intro nobody
    rw [owners, nobody] at count
    exact List.eq_nil_of_length_eq_zero count
  · intro guard other
    obtain ⟨path, token⟩ := guard
    cases token with
    | none => rfl
    | some token =>
        have foreign : ¬h.lock.held.get? path = some token := other token rfl
        simp only [release, PathLock.release, if_neg foreign]
  · intro unexhausted first member second member' link link' target target' guard guard' is is' same
    obtain ⟨has, path⟩ := guard_of_resolving run member is
    obtain ⟨has', path'⟩ := guard_of_resolving run member' is'
    have entries := guard_unique run unexhausted has has' (path.trans (same.trans path'.symm))
    exact numbered.eq_of_task? (numbered.task?_of_mem member') member (Prod.mk.inj entries).1

/-- A run in which the first call of a session is executed while another connection of the peer
waits for the same path. -/
def contestedRun : List Move :=
  let target : Target := ⟨.device, "/OCPP16/T/K/D1", "T", "K", "D1", "ocpp1.6"⟩
  let identity : Identity := ⟨⟨"T", "T"⟩, ⟨"D1", none, none, none⟩⟩
  [.accept .device, .opening 0 target, .directoryAnswers 0 (.ok identity),
    .handling 0 "/OCPP16/T/K/D1" (.ok (.call "1" "Boot" .null)),
    .accept .device, .opening 1 target]

theorem paths_exclusive_contestedRun : ∃ h, (fresh {} "hub").run? contestedRun = some h ∧
    h.tasks.length = 2 ∧ h.owners = [(1, ⟨"/OCPP16/T/K/D1", some 2⟩)] ∧
    Exclusive (fresh {} "hub") contestedRun h := by
  refine ⟨((fresh {} "hub").run? contestedRun).get (by decide), rfl, ?_, ?_, ?_⟩
  · decide
  · decide
  · exact paths_exclusive rfl

end Hub

end StationHub
