import StationHub.Proofs.Upgrade.RoundTrip

/-!
The grammar of upgrade requests: which are accepted as whom, and why the others are refused.

* `Belongs`: the variant that a path belongs to, and what follows the prefix.
* `Names`: what follows the prefix names a tenant, a token and a device.
* `Offers`: a header lists a sub-protocol.
* `target_grammar`: every request is judged by these, in that order, and nothing else.
-/

namespace StationHub.Upgrade

open Text (IsTrimmed IsPad)

/-- `path` is `start` and then `rest`, which is nothing or starts with a slash. -/
def Follows (start path : String) (rest : List Char) : Prop :=
  path.toList = start.toList ++ rest ∧ (rest = [] ∨ ∃ more, rest = '/' :: more)

/-- The variant whose prefix `path` has, and what follows the prefix. Devices come first. -/
inductive Belongs (settings : Settings) (path : String) : Variant → List Char → Prop
  | device {rest} : Follows settings.devicePrefix path rest → Belongs settings path .device rest
  | management {rest} : (∀ other, ¬Follows settings.devicePrefix path other) →
      Follows settings.managementPrefix path rest → Belongs settings path .management rest

/-- `written` is a segment of a path that stands for `text`. -/
structure IsSegment (written : List Char) (text : String) : Prop where
  filled : written ≠ []
  within : '/' ∉ written
  decoded : Text.percentDecode? (String.ofList written) = some text

/-- `rest` is three segments, each behind a slash, that stand for the given names. -/
inductive Names : List Char → String → String → String → Prop
  | mk {first second third tenant token device} : IsSegment first tenant →
      IsSegment second token → IsSegment third device →
      Names ('/' :: (first ++ '/' :: (second ++ '/' :: third))) tenant token device

/-- `header` is a list of items between commas, and one of them, without the white space around
it, is `protocol`. -/
def Offers (header protocol : String) : Prop :=
  IsTrimmed protocol.toList ∧
    ∃ items, header = listing items ∧ (∀ item ∈ items, ',' ∉ item) ∧ Lists items protocol

/-- The kinds of refusals. -/
inductive Refusal.Kind where
  | unknownPath
  | badPath
  | protocolMismatch
  deriving DecidableEq

/-- The kind of a refusal. -/
def Refusal.kind : Refusal → Refusal.Kind
  | unknownPath _ => .unknownPath
  | protocolMismatch .. => .protocolMismatch
  | _ => .badPath

/-! ### Prefixes -/

theorem variant?_eq_some_iff {settings : Settings} {path : String} {variant : Variant}
    {rest : List Char} :
    variant? settings path = some (variant, rest) ↔ Belongs settings path variant rest := by
  constructor
  · intro found
    unfold variant? at found
    split at found
    · next left =>
      cases found
      exact .device (remainder?_eq_some_iff.mp left)
    · next none =>
      obtain ⟨_, left, same⟩ := Option.map_eq_some_iff.mp found
      cases same
      refine .management (fun other follows => ?_) (remainder?_eq_some_iff.mp left)
      rw [remainder?_eq_some_iff.mpr follows] at none
      cases none
  · intro belongs
    cases belongs with
    | device follows => exact variant?_device (remainder?_eq_some_iff.mpr follows)
    | management apart follows =>
        refine variant?_management (fun covered => ?_) (remainder?_eq_some_iff.mpr follows)
        obtain ⟨other, left⟩ := Option.isSome_iff_exists.mp (remainder?_isSome_iff.mpr covered)
        exact apart other (remainder?_eq_some_iff.mp left)

/-- What follows a prefix is nothing or starts with a slash. -/
theorem Belongs.slash {settings : Settings} {path : String} {variant : Variant} {rest : List Char}
    (belongs : Belongs settings path variant rest) : rest = [] ∨ ∃ more, rest = '/' :: more := by
  cases belongs with
  | device follows => exact follows.2
  | management _ follows => exact follows.2

/-! ### Segments -/

theorem IsSegment.ne_empty {written : List Char} {text : String} (is : IsSegment written text) :
    text ≠ "" := by
  refine Text.ne_empty_of_percentDecode? (fun empty => is.filled ?_) is.decoded
  simpa using empty

theorem Names.ne_empty {rest : List Char} {tenant token device : String}
    (names : Names rest tenant token device) : tenant ≠ "" ∧ token ≠ "" ∧ device ≠ "" := by
  obtain ⟨first, second, third⟩ := names
  exact ⟨first.ne_empty, second.ne_empty, third.ne_empty⟩

theorem decodeSegment_of_isSegment {written : List Char} {text : String} (name : String)
    (is : IsSegment written text) : decodeSegment name written = .ok text := by
  have filled : written.isEmpty = false := List.isEmpty_eq_false_iff.mpr is.filled
  simp [decodeSegment, filled, is.decoded, is.ne_empty]

/-- A segment makes its path bad, or is read as what it stands for. -/
theorem decodeSegment_cases {written : List Char} (name : String) (within : '/' ∉ written) :
    (∃ refusal, refusal.kind = .badPath ∧ decodeSegment name written = .error refusal) ∨
      ∃ text, IsSegment written text ∧ decodeSegment name written = .ok text := by
  by_cases filled : written = []
  · subst filled
    exact .inl ⟨.emptySegment name, rfl, rfl⟩
  have some : written.isEmpty = false := List.isEmpty_eq_false_iff.mpr filled
  cases decoded : Text.percentDecode? (String.ofList written) with
  | none => exact .inl ⟨.notText name, rfl, by simp [decodeSegment, some, decoded]⟩
  | some text =>
      have is : IsSegment written text := ⟨filled, within, decoded⟩
      exact .inr ⟨text, is, decodeSegment_of_isSegment name is⟩

/-- The segments of what follows a prefix are those between its slashes. -/
theorem segments_eq_three_iff {rest first second third : List Char}
    (slash : rest = [] ∨ ∃ more, rest = '/' :: more) :
    segments rest = [first, second, third] ↔
      rest = '/' :: (first ++ '/' :: (second ++ '/' :: third)) ∧
        '/' ∉ first ∧ '/' ∉ second ∧ '/' ∉ third := by
  constructor
  · intro parts
    rcases slash with rfl | ⟨more, rfl⟩
    · cases parts
    · change Text.split '/' more = _ at parts
      have whole : ['/'].intercalate (Text.split '/' more) = more := Text.intercalate_split more
      have within {part : List Char} : part ∈ Text.split '/' more → '/' ∉ part :=
        Text.notMem_of_mem_split
      rw [parts] at whole within
      refine ⟨?_, within (by simp), within (by simp), within (by simp)⟩
      rw [← whole]
      simp [List.intercalate]
  · rintro ⟨rfl, first, second, third⟩
    exact segments_three first second third

/-! ### Sub-protocols -/

theorem offers_iff {header protocol : String} :
    offers header protocol = true ↔ Offers header protocol := by
  constructor
  · intro found
    refine ⟨(isToken_of_offers found).2, Text.split ',' header.toList, ?_, fun item mem =>
      Text.notMem_of_mem_split mem, ?_⟩
    · rw [listing, Text.intercalate_split, String.ofList_toList]
    · obtain ⟨item, mem, same⟩ := List.any_eq_true.mp found
      obtain ⟨left, right, blankLeft, blankRight, whole⟩ := Text.exists_pads item
      rw [beq_iff_eq.mp same] at whole
      exact ⟨left, right, blankLeft, blankRight, whole ▸ mem⟩
  · rintro ⟨trimmed, items, rfl, plain, listed⟩
    obtain ⟨left, right, -, -, mem⟩ := id listed
    refine (offers_listing_iff listed).mpr ⟨fun comma => plain _ mem ?_, trimmed⟩
    simp [comma]

/-! ### Requests -/

section Requests

variable {settings : Settings} {path : String} {offered : Option String} {variant : Variant}
  {rest : List Char}

theorem target_of_unknown (unknown : ∀ variant rest,
    ¬Belongs settings (withoutQuery path) variant rest) :
    target settings path offered = .error (.unknownPath (withoutQuery path)) := by
  have none : variant? settings (withoutQuery path) = none :=
    Option.eq_none_iff_forall_ne_some.mpr fun ⟨variant, rest⟩ found =>
      unknown variant rest (variant?_eq_some_iff.mp found)
  simp only [target, none]

/-- A request whose path belongs to a variant goes by its segments, then by its sub-protocols. -/
theorem target_of_names (belongs : Belongs settings (withoutQuery path) variant rest)
    {tenant token device : String} (names : Names rest tenant token device) :
    target settings path offered =
      if offers (offered.getD "") (settings.protocolOf variant) then
        .ok { variant, path := withoutQuery path, tenant, token, device,
              protocol := settings.protocolOf variant }
      else .error (.protocolMismatch (settings.protocolOf variant) (offered.getD "")) := by
  obtain ⟨first, second, third⟩ := names
  simp only [target, variant?_eq_some_iff.mpr belongs,
    segments_three first.within second.within third.within, decodeSegment_of_isSegment _ first,
    decodeSegment_of_isSegment _ second, decodeSegment_of_isSegment _ third, bind, Except.bind]

theorem target_of_noNames (belongs : Belongs settings (withoutQuery path) variant rest)
    (noNames : ∀ tenant token device, ¬Names rest tenant token device) :
    ∃ refusal, refusal.kind = .badPath ∧ target settings path offered = .error refusal := by
  simp only [target, variant?_eq_some_iff.mpr belongs]
  split
  · next first second third parts =>
    obtain ⟨rfl, within⟩ := (segments_eq_three_iff belongs.slash).mp parts
    rcases decodeSegment_cases "tenant" within.1 with
      ⟨refusal, bad, read⟩ | ⟨tenant, isTenant, read⟩
    · exact ⟨refusal, bad, by simp only [read, bind, Except.bind]⟩
    rcases decodeSegment_cases "token" within.2.1 with ⟨refusal, bad, next⟩ | ⟨token, isToken, next⟩
    · exact ⟨refusal, bad, by simp only [read, next, bind, Except.bind]⟩
    rcases decodeSegment_cases "device" within.2.2 with ⟨refusal, bad, last⟩ | ⟨device, isDevice, -⟩
    · exact ⟨refusal, bad, by simp only [read, next, last, bind, Except.bind]⟩
    exact absurd (.mk isTenant isToken isDevice) (noNames tenant token device)
  · exact ⟨_, rfl, rfl⟩

/-- The verdict on a request: whom it is accepted as, or of what kind its refusal is. -/
def verdict (settings : Settings) (path : String) (offered : Option String) :
    Except Refusal.Kind Target := (target settings path offered).mapError Refusal.kind

/-- The four ways in which a request is judged. -/
inductive Judged (settings : Settings) (path : String) (offered : Option String) :
    Except Refusal.Kind Target → Prop
  | unknown : (∀ variant rest, ¬Belongs settings (withoutQuery path) variant rest) →
      Judged settings path offered (.error .unknownPath)
  | bad {variant : Variant} {rest : List Char} : Belongs settings (withoutQuery path) variant rest →
      (∀ tenant token device, ¬Names rest tenant token device) →
      Judged settings path offered (.error .badPath)
  | mismatch {variant : Variant} {rest : List Char} {tenant token device : String} :
      Belongs settings (withoutQuery path) variant rest → Names rest tenant token device →
      ¬Offers (offered.getD "") (settings.protocolOf variant) →
      Judged settings path offered (.error .protocolMismatch)
  | accepted {variant : Variant} {rest : List Char} {tenant token device : String} :
      Belongs settings (withoutQuery path) variant rest → Names rest tenant token device →
      Offers (offered.getD "") (settings.protocolOf variant) →
      Judged settings path offered (.ok
        { variant, path := withoutQuery path, tenant, token, device,
          protocol := settings.protocolOf variant })

/-- However a request is judged, that is its verdict. -/
theorem verdict_of_judged {outcome : Except Refusal.Kind Target}
    (judged : Judged settings path offered outcome) : verdict settings path offered = outcome := by
  cases judged with
  | unknown unknown => rw [verdict, target_of_unknown unknown]; rfl
  | bad belongs noNames =>
      have refuses : ∃ refusal, refusal.kind = .badPath ∧
          target settings path offered = .error refusal := target_of_noNames belongs noNames
      obtain ⟨refusal, bad, refused⟩ := refuses
      rw [verdict, refused, Except.mapError, bad]
  | mismatch belongs names missing =>
      rw [verdict, target_of_names belongs names, if_neg (mt offers_iff.mp missing)]
      rfl
  | accepted belongs names listed =>
      rw [verdict, target_of_names belongs names, if_pos (offers_iff.mpr listed)]
      rfl

theorem judged_verdict (settings : Settings) (path : String) (offered : Option String) :
    Judged settings path offered (verdict settings path offered) := by
  suffices ∃ outcome, Judged settings path offered outcome by
    obtain ⟨outcome, judged⟩ := this
    exact (verdict_of_judged judged).symm ▸ judged
  by_cases unknown : ∀ variant rest, ¬Belongs settings (withoutQuery path) variant rest
  · exact ⟨_, .unknown unknown⟩
  obtain ⟨variant, unknown⟩ := not_forall.mp unknown
  obtain ⟨rest, belongs⟩ := not_forall_not.mp unknown
  by_cases noNames : ∀ names : String × String × String, ¬Names rest names.1 names.2.1 names.2.2
  · exact ⟨_, .bad belongs fun tenant token device => noNames (tenant, token, device)⟩
  obtain ⟨⟨tenant, token, device⟩, names⟩ := not_forall_not.mp noNames
  by_cases listed : Offers (offered.getD "") (settings.protocolOf variant)
  · exact ⟨_, .accepted belongs names listed⟩
  · exact ⟨_, .mismatch belongs names listed⟩

/-- **A request has exactly the verdict that it is judged by.** -/
theorem verdict_eq_iff {outcome : Except Refusal.Kind Target} :
    verdict settings path offered = outcome ↔ Judged settings path offered outcome :=
  ⟨fun same => same ▸ judged_verdict settings path offered, verdict_of_judged⟩

theorem verdict_eq_unknownPath_iff :
    verdict settings path offered = .error .unknownPath ↔
      ∀ variant rest, ¬Belongs settings (withoutQuery path) variant rest := by
  rw [verdict_eq_iff]
  refine ⟨fun judged => ?_, .unknown⟩
  cases judged with
  | unknown unknown => exact unknown

theorem verdict_eq_badPath_iff :
    verdict settings path offered = .error .badPath ↔
      ∃ variant rest, Belongs settings (withoutQuery path) variant rest ∧
        ∀ tenant token device, ¬Names rest tenant token device := by
  rw [verdict_eq_iff]
  refine ⟨fun judged => ?_, fun ⟨_, _, belongs, noNames⟩ => .bad belongs noNames⟩
  cases judged with
  | bad belongs noNames => exact ⟨_, _, belongs, noNames⟩

theorem verdict_eq_protocolMismatch_iff :
    verdict settings path offered = .error .protocolMismatch ↔
      ∃ variant rest tenant token device, Belongs settings (withoutQuery path) variant rest ∧
        Names rest tenant token device ∧
        ¬Offers (offered.getD "") (settings.protocolOf variant) := by
  rw [verdict_eq_iff]
  refine ⟨fun judged => ?_, fun ⟨_, _, _, _, _, belongs, names, missing⟩ =>
    .mismatch belongs names missing⟩
  cases judged with
  | mismatch belongs names missing => exact ⟨_, _, _, _, _, belongs, names, missing⟩

/-- Whom a request is accepted as. -/
theorem verdict_eq_ok_iff {t : Target} :
    verdict settings path offered = .ok t ↔
      ∃ rest, Belongs settings (withoutQuery path) t.variant rest ∧
        Names rest t.tenant t.token t.device ∧
        Offers (offered.getD "") (settings.protocolOf t.variant) ∧
        t.path = withoutQuery path ∧ t.protocol = settings.protocolOf t.variant ∧
        t.tenant ≠ "" ∧ t.token ≠ "" ∧ t.device ≠ "" := by
  rw [verdict_eq_iff]
  constructor
  · intro judged
    cases judged with
    | accepted belongs names listed =>
        exact ⟨_, belongs, names, listed, rfl, rfl, names.ne_empty⟩
  · obtain ⟨variant, raw, tenant, token, device, protocol⟩ := t
    rintro ⟨rest, belongs, names, listed, same, expected, -⟩
    dsimp only at *
    subst same expected
    exact .accepted belongs names listed

end Requests

theorem exists_query (path : String) : ∃ query, path = withQuery (withoutQuery path) query := by
  have whole := List.takeWhile_append_dropWhile (p := (· != '?')) (l := path.toList)
  cases left : path.toList.dropWhile (· != '?') with
  | nil =>
      refine ⟨none, String.toList_inj.mp ?_⟩
      rw [left, List.append_nil] at whole
      rw [withQuery, withoutQuery, String.toList_ofList, whole]
  | cons c query =>
      have mark := List.head?_dropWhile_not (· != '?') path.toList
      rw [left] at mark whole
      obtain rfl : c = '?' := by simpa using mark
      refine ⟨some (String.ofList query), String.toList_inj.mp ?_⟩
      simp only [withQuery, withoutQuery, String.toList_ofList, whole]

/-- Queries do not matter. -/
theorem target_withQuery (settings : Settings) (path : String) (offered query : Option String) :
    target settings (withQuery (withoutQuery path) query) offered =
      target settings path offered := by
  simp only [target, withoutQuery_withQuery (query_notMem_withoutQuery path)]

/-- **An upgrade request is decided by its grammar**: its path before the query belongs to no
variant, or does not name a tenant, a token and a device, or its sub-protocols lack that of the
variant, in this order, or else it is accepted as whom it names. Queries do not matter. -/
theorem target_grammar (settings : Settings) (path : String) (offered : Option String) :
    let raw := withoutQuery path
    let header := offered.getD ""
    ('?' ∉ raw.toList ∧ ∃ query, path = withQuery raw query) ∧
    (verdict settings path offered = .error .unknownPath ↔
      ∀ variant rest, ¬Belongs settings raw variant rest) ∧
    (verdict settings path offered = .error .badPath ↔
      ∃ variant rest, Belongs settings raw variant rest ∧
        ∀ tenant token device, ¬Names rest tenant token device) ∧
    (verdict settings path offered = .error .protocolMismatch ↔
      ∃ variant rest tenant token device, Belongs settings raw variant rest ∧
        Names rest tenant token device ∧ ¬Offers header (settings.protocolOf variant)) ∧
    (∀ t, verdict settings path offered = .ok t ↔
      ∃ rest, Belongs settings raw t.variant rest ∧ Names rest t.tenant t.token t.device ∧
        Offers header (settings.protocolOf t.variant) ∧
        t.path = raw ∧ t.protocol = settings.protocolOf t.variant ∧
        t.tenant ≠ "" ∧ t.token ≠ "" ∧ t.device ≠ "") ∧
    (∀ refusal : Refusal, refusal.status = if refusal.kind = .unknownPath then 404 else 400) ∧
    ∀ query, target settings (withQuery raw query) offered = target settings path offered := by
  intro raw header
  refine ⟨⟨query_notMem_withoutQuery path, exists_query path⟩, verdict_eq_unknownPath_iff,
    verdict_eq_badPath_iff, verdict_eq_protocolMismatch_iff, fun _ => verdict_eq_ok_iff,
    fun refusal => ?_, target_withQuery settings path offered⟩
  cases refusal <;> rfl

end StationHub.Upgrade
