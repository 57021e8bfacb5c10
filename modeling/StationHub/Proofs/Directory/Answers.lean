import Mathlib.Data.List.Induction
import StationHub.Directory

/-!
What a directory answers after any history of additions and removals.

* `Change`, `after`: what is done to a directory, and the directory that an empty one becomes.
* `Last`: a change is the last one about something; `last_concat`: what one more change makes of
  that, and `last_filter`: leaving out other changes makes no difference.
* `Renewed`, `Standing`: what the history says of a tenant and of a device. `get?_tenants` and
  `get?_devices`: the two tables say the same.
* `resolve_cases`: the four ways an answer comes about.
* `Faithful`, `faithful_after`: every answer follows the history.
-/

namespace StationHub

namespace Directory

/-- What is done to a directory. -/
inductive Change where
  | addTenant (tenant : Tenant)
  | addDevice (tenant token : String) (device : Device)
  | removeDevice (key : Key)
  deriving DecidableEq, Repr

namespace Change

/-- The tenant that is added. -/
def tenant? : Change → Option String
  | .addTenant tenant => some tenant.id
  | _ => none

/-- The key under which a device is added or removed. -/
def key? : Change → Option Key
  | .addTenant _ => none
  | .addDevice tenant _ device => some ⟨tenant, device.id⟩
  | .removeDevice key => some key

/-- The directory with the change made. -/
def apply (change : Change) (d : Directory) : Directory :=
  match change with
  | .addTenant tenant => d.addTenant tenant
  | .addDevice tenant token device => d.addDevice tenant token device
  | .removeDevice key => (d.removeDevice key).1

/-- The change adds this tenant, or it adds or removes the device under this key. -/
def concerns (key : Key) (change : Change) : Bool :=
  change.tenant? = some key.tenant ∨ change.key? = some key

end Change

variable {changes others : List Change} {change latest : Change}

/-- What an empty directory becomes by these changes, the earliest first. -/
def after (changes : List Change) : Directory :=
  changes.foldl (fun d change => change.apply d) {}

@[simp] theorem after_nil : after [] = {} := rfl

@[simp] theorem after_concat (changes : List Change) (change : Change) :
    after (changes ++ [change]) = change.apply (after changes) := by
  simp [after]

/-! ### The last change about something -/

/-- `latest` is about something, and no change after it is. -/
def Last (about : Change → Prop) (changes : List Change) (latest : Change) : Prop :=
  ∃ earlier later, changes = earlier ++ latest :: later ∧ about latest ∧
    ∀ other ∈ later, ¬about other

section Last

variable {about : Change → Prop}

theorem last_nil : ¬Last about [] latest := by
  rintro ⟨earlier, later, split, -, -⟩
  simp at split

theorem last_concat_of_about (concerned : about change) :
    Last about (changes ++ [change]) latest ↔ latest = change := by
  constructor
  · rintro ⟨earlier, later, split, -, none⟩
    rcases later.eq_nil_or_concat with rfl | ⟨between, final, rfl⟩
    · simpa using (List.append_inj_right' split rfl).symm
    · have ends : change = final := by
        have : changes ++ [change] = (earlier ++ latest :: between) ++ [final] := by simpa using split
        simpa using List.append_inj_right' this rfl
      exact absurd (ends ▸ concerned) (none final (by simp))
  · rintro rfl
    exact ⟨changes, [], rfl, concerned, by simp⟩

theorem last_concat_of_not_about (unconcerned : ¬about change) :
    Last about (changes ++ [change]) latest ↔ Last about changes latest := by
  constructor
  · rintro ⟨earlier, later, split, concerned, none⟩
    rcases later.eq_nil_or_concat with rfl | ⟨between, final, rfl⟩
    · have ends : change = latest := by simpa using List.append_inj_right' split rfl
      exact absurd (ends ▸ concerned) unconcerned
    · have : changes ++ [change] = (earlier ++ latest :: between) ++ [final] := by simpa using split
      exact ⟨earlier, between, List.append_inj_left' this rfl, concerned,
        fun other h => none other (by simp [h])⟩
  · rintro ⟨earlier, later, rfl, concerned, none⟩
    refine ⟨earlier, later ++ [change], by simp, concerned, fun other h => ?_⟩
    rcases List.mem_append.mp h with h | h
    · exact none other h
    · exact List.mem_singleton.mp h ▸ unconcerned

theorem exists_last : (∃ latest, Last about changes latest) ↔ ∃ change ∈ changes, about change := by
  induction changes using List.reverseRecOn with
  | nil => simp [last_nil]
  | append_singleton changes change ih =>
    by_cases concerned : about change
    · simp [last_concat_of_about concerned, concerned]
    · simp [last_concat_of_not_about concerned, ih, or_and_right, exists_or, concerned]

/-- Changes that are not about something may be left out. -/
theorem last_filter {keep : Change → Bool} (kept : ∀ {change}, about change → keep change = true) :
    Last about (changes.filter keep) latest ↔ Last about changes latest := by
  induction changes using List.reverseRecOn with
  | nil => rfl
  | append_singleton changes change ih =>
    by_cases concerned : about change
    · simp [List.filter_append, kept concerned, last_concat_of_about concerned]
    · rw [last_concat_of_not_about concerned, List.filter_append]
      cases keeps : keep change
      · simpa [keeps] using ih
      · simpa [keeps, last_concat_of_not_about concerned] using ih

end Last

/-! ### What the history says -/

/-- The last addition of the tenant `name` was of this record. -/
def Renewed (changes : List Change) (name : String) (record : Tenant) : Prop :=
  Last (·.tenant? = some name) changes (.addTenant record)

/-- The device was last added with this token and record and not removed since. -/
def Standing (changes : List Change) (key : Key) (token : String) (record : Device) : Prop :=
  Last (·.key? = some key) changes (.addDevice key.tenant token record)

/-- The tenant was added at some time. -/
def Named (changes : List Change) (name : String) : Prop :=
  ∃ record, Change.addTenant record ∈ changes ∧ record.id = name

theorem exists_renewed {name : String} :
    (∃ record, Renewed changes name record) ↔ Named changes name := by
  have any : (∃ latest, Last (·.tenant? = some name) changes latest) ↔
      ∃ change ∈ changes, change.tenant? = some name := exists_last
  constructor
  · rintro ⟨record, renewed⟩
    obtain ⟨_, _, rfl, named, -⟩ := renewed
    exact ⟨record, by simp, by simpa [Change.tenant?] using named⟩
  · rintro ⟨record, added, rfl⟩
    obtain ⟨latest, last⟩ := any.mpr ⟨_, added, rfl⟩
    cases latest with
    | addTenant latest => exact ⟨latest, last⟩
    | addDevice _ _ _ | removeDevice _ =>
      obtain ⟨_, _, _, named, -⟩ := last
      cases named

/-- A directory has the record of a tenant that was added last. -/
theorem get?_tenants {name : String} {record : Tenant} :
    (after changes).tenants.get? name = some record ↔ Renewed changes name record := by
  unfold Renewed
  induction changes using List.reverseRecOn with
  | nil => simp [last_nil]
  | append_singleton changes change ih =>
    by_cases named : change.tenant? = some name
    · rw [last_concat_of_about named]
      cases change with
      | addTenant tenant =>
        obtain rfl : tenant.id = name := by simpa [Change.tenant?] using named
        simp [Change.apply, addTenant, eq_comm]
      | addDevice _ _ _ | removeDevice _ => cases named
    · rw [last_concat_of_not_about named, ← ih, after_concat]
      cases change with
      | addTenant tenant =>
        have other : name ≠ tenant.id := by simpa [Change.tenant?, eq_comm] using named
        simp [Change.apply, addTenant, Table.get?_put_of_ne other]
      | addDevice _ _ _ | removeDevice _ => rfl

/-- A directory has the token and the record with which a device was last added, unless it was
removed since. -/
theorem get?_devices {key : Key} {token : String} {record : Device} :
    (after changes).devices.get? key = some (token, record) ↔
      Standing changes key token record := by
  unfold Standing
  induction changes using List.reverseRecOn with
  | nil => simp [last_nil]
  | append_singleton changes change ih =>
    by_cases keyed : change.key? = some key
    · rw [last_concat_of_about keyed, after_concat]
      cases change with
      | addTenant _ => cases keyed
      | addDevice tenant given device =>
        obtain rfl : (⟨tenant, device.id⟩ : Key) = key := by simpa [Change.key?] using keyed
        simp [Change.apply, addDevice, eq_comm]
      | removeDevice removed =>
        obtain rfl : removed = key := by simpa [Change.key?] using keyed
        simp [Change.apply, removeDevice]
    · rw [last_concat_of_not_about keyed, ← ih, after_concat]
      cases change with
      | addTenant _ => rfl
      | addDevice tenant given device =>
        have other : key ≠ ⟨tenant, device.id⟩ := by simpa [Change.key?, eq_comm] using keyed
        simp [Change.apply, addDevice, Table.get?_put_of_ne other]
      | removeDevice removed =>
        have other : key ≠ removed := by simpa [Change.key?, eq_comm] using keyed
        simp [Change.apply, removeDevice, Table.get?_erase_of_ne other]

/-- The record that stands under a key is of the device with that name. -/
theorem Standing.id_eq {key : Key} {token : String} {record : Device}
    (standing : Standing changes key token record) : record.id = key.device := by
  obtain ⟨_, _, _, keyed, -⟩ := standing
  have : (⟨key.tenant, record.id⟩ : Key) = key := by simpa [Change.key?] using keyed
  exact congrArg Key.device this

theorem Renewed.id_eq {name : String} {record : Tenant} (renewed : Renewed changes name record) :
    record.id = name := by
  obtain ⟨_, _, _, named, -⟩ := renewed
  simpa [Change.tenant?] using named

/-! ### Answers -/

section Resolve

variable {d e : Directory} {tenant token device : String}

/-- The answer rests on the tenant and on what stands under the key. -/
theorem resolve_congr (tenants : d.tenants.get? tenant = e.tenants.get? tenant)
    (devices : d.devices.get? ⟨tenant, device⟩ = e.devices.get? ⟨tenant, device⟩) :
    d.resolve tenant token device = e.resolve tenant token device := by
  unfold resolve
  rw [tenants, devices]

/-- The four ways an answer comes about. -/
theorem resolve_cases (d : Directory) (tenant token device : String) :
    (d.tenants.get? tenant = none ∧
      d.resolve tenant token device = .error (.unknownTenant tenant)) ∨
    ∃ found, d.tenants.get? tenant = some found ∧
      ((d.devices.get? ⟨tenant, device⟩ = none ∧
        d.resolve tenant token device = .error (.unknownDevice tenant device)) ∨
      ∃ expected record, d.devices.get? ⟨tenant, device⟩ = some (expected, record) ∧
        ((expected = token ∧ d.resolve tenant token device = .ok ⟨found, record⟩) ∨
        (expected ≠ token ∧
          d.resolve tenant token device = .error (.invalidToken tenant device)))) := by
  cases tenants : d.tenants.get? tenant with
  | none => exact .inl ⟨rfl, by simp [resolve, tenants]⟩
  | some found =>
    refine .inr ⟨found, rfl, ?_⟩
    cases devices : d.devices.get? ⟨tenant, device⟩ with
    | none => exact .inl ⟨rfl, by simp [resolve, tenants, devices]⟩
    | some entry =>
      refine .inr ⟨entry.1, entry.2, rfl, ?_⟩
      by_cases right : entry.1 = token
      · exact .inl ⟨right, by simp [resolve, tenants, devices, right]⟩
      · exact .inr ⟨right, by simp [resolve, tenants, devices, right]⟩

theorem resolve_eq_ok {identity : Identity} :
    d.resolve tenant token device = .ok identity ↔
      d.tenants.get? tenant = some identity.tenant ∧
        d.devices.get? ⟨tenant, device⟩ = some (token, identity.device) := by
  obtain ⟨record, unit⟩ := identity
  obtain ⟨_, _⟩ | ⟨_, _, ⟨_, _⟩ | ⟨_, _, _, ⟨_, _⟩ | ⟨_, _⟩⟩⟩ :=
    resolve_cases d tenant token device <;> simp [*]

theorem resolve_eq_unknownTenant :
    d.resolve tenant token device = .error (.unknownTenant tenant) ↔
      d.tenants.get? tenant = none := by
  obtain ⟨_, _⟩ | ⟨_, _, ⟨_, _⟩ | ⟨_, _, _, ⟨_, _⟩ | ⟨_, _⟩⟩⟩ :=
    resolve_cases d tenant token device <;> simp [*]

theorem resolve_eq_unknownDevice :
    d.resolve tenant token device = .error (.unknownDevice tenant device) ↔
      (d.tenants.get? tenant).isSome ∧ d.devices.get? ⟨tenant, device⟩ = none := by
  obtain ⟨_, _⟩ | ⟨_, _, ⟨_, _⟩ | ⟨_, _, _, ⟨_, _⟩ | ⟨_, _⟩⟩⟩ :=
    resolve_cases d tenant token device <;> simp [*]

theorem resolve_eq_invalidToken :
    d.resolve tenant token device = .error (.invalidToken tenant device) ↔
      (d.tenants.get? tenant).isSome ∧
        ∃ expected record, d.devices.get? ⟨tenant, device⟩ = some (expected, record) ∧
          expected ≠ token := by
  obtain ⟨_, _⟩ | ⟨_, _, ⟨_, _⟩ | ⟨_, _, _, ⟨_, _⟩ | ⟨_, _⟩⟩⟩ :=
    resolve_cases d tenant token device <;> simp [*]

/-- What a directory says when it has no identity to give. -/
theorem eq_of_resolve_eq_error {failure : Failure}
    (refused : d.resolve tenant token device = .error failure) :
    failure = .unknownTenant tenant ∨ failure = .unknownDevice tenant device ∨
      failure = .invalidToken tenant device := by
  obtain ⟨_, answer⟩ | ⟨_, _, ⟨_, answer⟩ | ⟨_, _, _, ⟨_, answer⟩ | ⟨_, answer⟩⟩⟩ :=
    resolve_cases d tenant token device <;> rw [answer] at refused <;> cases refused <;> simp

end Resolve

/-- A directory that has come about by `changes` answers about `tenant`, `token` and `device` as
that history says. -/
structure Faithful (changes : List Change) (tenant token device : String) : Prop where
  /-- It succeeds if the tenant was added at some time and the device stands with this token. -/
  succeeds_iff : (∃ identity, (after changes).resolve tenant token device = .ok identity) ↔
    Named changes tenant ∧ ∃ record, Standing changes ⟨tenant, device⟩ token record
  /-- The identity has the two records that were added last. -/
  ok_iff : ∀ {identity}, (after changes).resolve tenant token device = .ok identity ↔
    Renewed changes tenant identity.tenant ∧
      Standing changes ⟨tenant, device⟩ token identity.device
  key : ∀ {identity}, (after changes).resolve tenant token device = .ok identity →
    identity.key = ⟨tenant, device⟩
  unknownTenant_iff :
    (after changes).resolve tenant token device = .error (.unknownTenant tenant) ↔
      ¬Named changes tenant
  unknownDevice_iff :
    (after changes).resolve tenant token device = .error (.unknownDevice tenant device) ↔
      Named changes tenant ∧ ¬∃ expected record, Standing changes ⟨tenant, device⟩ expected record
  invalidToken_iff :
    (after changes).resolve tenant token device = .error (.invalidToken tenant device) ↔
      Named changes tenant ∧
        ∃ expected record, Standing changes ⟨tenant, device⟩ expected record ∧ expected ≠ token
  /-- It says nothing else, and what it says is a failure to identify. -/
  failure : ∀ {failure}, (after changes).resolve tenant token device = .error failure →
    failure.isResolution = true ∧
      (failure = .unknownTenant tenant ∨ failure = .unknownDevice tenant device ∨
        failure = .invalidToken tenant device)
  /-- Whatever else happens to other tenants and other keys, and whenever, the answer is this one. -/
  apart : ∀ {others}, others.filter (·.concerns ⟨tenant, device⟩) =
      changes.filter (·.concerns ⟨tenant, device⟩) →
    (after others).resolve tenant token device = (after changes).resolve tenant token device
  /-- A removal tells whether the device stood. -/
  removed_iff : ((after changes).removeDevice ⟨tenant, device⟩).2 = true ↔
    ∃ expected record, Standing changes ⟨tenant, device⟩ expected record

theorem isSome_tenants {name : String} :
    ((after changes).tenants.get? name).isSome ↔ Named changes name := by
  rw [Option.isSome_iff_exists, ← exists_renewed]
  simp only [get?_tenants]

theorem isSome_devices {key : Key} :
    ((after changes).devices.get? key).isSome ↔
      ∃ expected record, Standing changes key expected record := by
  rw [Option.isSome_iff_exists]
  simp only [Prod.exists, get?_devices]

/-- Leaving out what concerns other tenants and other keys does not change an answer. -/
theorem resolve_filter (changes : List Change) (tenant token device : String) :
    (after (changes.filter (·.concerns ⟨tenant, device⟩))).resolve tenant token device =
      (after changes).resolve tenant token device := by
  apply resolve_congr
  · refine Option.ext fun record => ?_
    rw [get?_tenants, get?_tenants]
    exact last_filter fun named => by simp [Change.concerns, named]
  · refine Option.ext fun ⟨expected, record⟩ => ?_
    rw [get?_devices, get?_devices]
    exact last_filter fun keyed => by simp [Change.concerns, keyed]

/-- Every answer follows the history. -/
theorem faithful_after (changes : List Change) (tenant token device : String) :
    Faithful changes tenant token device where
  succeeds_iff := by
    simp only [resolve_eq_ok, get?_tenants, get?_devices, ← exists_renewed]
    constructor
    · rintro ⟨identity, renewed, standing⟩
      exact ⟨⟨_, renewed⟩, _, standing⟩
    · rintro ⟨⟨record, renewed⟩, unit, standing⟩
      exact ⟨⟨record, unit⟩, renewed, standing⟩
  ok_iff := by simp only [resolve_eq_ok, get?_tenants, get?_devices, implies_true]
  key := by
    intro identity resolved
    rw [resolve_eq_ok, get?_tenants, get?_devices] at resolved
    rw [Identity.key, resolved.1.id_eq, resolved.2.id_eq]
  unknownTenant_iff := by
    rw [resolve_eq_unknownTenant, ← isSome_tenants, Option.not_isSome_iff_eq_none]
  unknownDevice_iff := by
    rw [resolve_eq_unknownDevice, ← isSome_tenants, ← isSome_devices, Option.not_isSome_iff_eq_none]
  invalidToken_iff := by
    simp only [resolve_eq_invalidToken, isSome_tenants, get?_devices]
  failure refused := ⟨isResolution_of_resolve refused, eq_of_resolve_eq_error refused⟩
  apart same := by rw [← resolve_filter, same, resolve_filter]
  removed_iff := isSome_devices

/-- Two keys with one text do not share a device, and the device of a tenant that is added later
waits for it. -/
example :
    let changes : List Change :=
      [.addDevice "a" "secret" ⟨"b/c", none, none, none⟩, .removeDevice ⟨"a/b", "c"⟩,
        .addTenant ⟨"a", "A"⟩, .addTenant ⟨"a/b", "B"⟩]
    (after changes).resolve "a" "secret" "b/c" =
        .ok ⟨⟨"a", "A"⟩, ⟨"b/c", none, none, none⟩⟩ ∧
      (after changes).resolve "a/b" "secret" "c" = .error (.unknownDevice "a/b" "c") :=
  ⟨rfl, rfl⟩

end Directory

end StationHub
