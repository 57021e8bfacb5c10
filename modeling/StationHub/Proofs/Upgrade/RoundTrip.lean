import StationHub.Upgrade
import StationHub.Proofs.Text.Escapes
import StationHub.Proofs.Text.Parts

/-!
Upgrade requests put together from whom a peer claims to be, and what is read from them.

* `target_eq_ok_iff`: what an accepted request has.
* `offers_listing_iff`: a listed sub-protocol is found exactly if it is a word of its own.
* `target_request_iff`: which settings let a request be read as it was meant, for either variant,
  all names and all their percent-encodings.
* `target_request_of_names`: prefixes that are one name and sub-protocols that are words do.
* `misread_nestedPrefixes`: other valid settings need not.
-/

namespace StationHub.Upgrade

open Text (Escapes IsTrimmed IsPad)

/-! ### Requests -/

/-- The path of a peer: a prefix and three written segments, each behind a slash. -/
def pathOf (start : String) (tenant token device : List Char) : String :=
  String.ofList (start.toList ++ '/' :: (tenant ++ '/' :: (token ++ '/' :: device)))

/-- A path with the query that may follow it. -/
def withQuery (path : String) : Option String → String
  | none => path
  | some query => String.ofList (path.toList ++ '?' :: query.toList)

/-- The header that lists `items`. -/
def listing (items : List (List Char)) : String := String.ofList ([','].intercalate items)

/-- One of `items` is `protocol`, perhaps with white space around it. -/
def Lists (items : List (List Char)) (protocol : String) : Prop :=
  ∃ left right, IsPad left ∧ IsPad right ∧ left ++ (protocol.toList ++ right) ∈ items

/-- A sub-protocol that can be told from the others of a list. -/
def IsToken (protocol : String) : Prop := ',' ∉ protocol.toList ∧ IsTrimmed protocol.toList

/-- `path` is `start`, or goes on with a slash behind it. -/
def Covers (start path : String) : Prop := start.toList ++ ['/'] <+: path.toList ++ ['/']

instance (protocol : String) : Decidable (IsToken protocol) := inferInstanceAs (Decidable (_ ∧ _))

instance (start path : String) : Decidable (Covers start path) :=
  inferInstanceAs (Decidable (_ <+: _))

/-! ### Queries -/

theorem query_notMem_withoutQuery (path : String) : '?' ∉ (withoutQuery path).toList := by
  intro mem
  rw [withoutQuery, String.toList_ofList] at mem
  simpa using List.mem_takeWhile_imp mem

theorem withoutQuery_withQuery {path : String} (none : '?' ∉ path.toList) (query : Option String) :
    withoutQuery (withQuery path query) = path := by
  have all : ∀ c ∈ path.toList, (c != '?') = true := by
    intro c mem
    exact bne_iff_ne.mpr fun same => none (same ▸ mem)
  cases query with
  | none => rw [withQuery, withoutQuery, List.takeWhile_eq_self_iff.mpr all, String.ofList_toList]
  | some query =>
      rw [withQuery, withoutQuery, String.toList_ofList, List.takeWhile_append_of_pos all]
      simp

/-! ### Prefixes -/

theorem remainder?_eq_some_iff {start path : String} {rest : List Char} :
    remainder? start path = some rest ↔
      path.toList = start.toList ++ rest ∧ (rest = [] ∨ ∃ more, rest = '/' :: more) := by
  unfold remainder?
  split
  · next same =>
    rw [Text.dropStart?_eq_some_iff, List.append_nil] at same
    constructor
    · rintro ⟨⟩
      exact ⟨by simpa using same, .inl rfl⟩
    · rintro ⟨whole, -⟩
      rw [same] at whole
      simpa using whole
  · next same =>
    rw [Text.dropStart?_eq_some_iff] at same
    constructor
    · rintro ⟨⟩
      exact ⟨same, .inr ⟨_, rfl⟩⟩
    · rintro ⟨whole, -⟩
      rw [same, List.append_cancel_left_eq] at whole
      rw [whole]
  · next neither others =>
    refine iff_of_false nofun ?_
    rintro ⟨whole, rfl | ⟨more, rfl⟩⟩
    · exact neither (Text.dropStart?_eq_some_iff.mpr whole)
    · exact others more (Text.dropStart?_eq_some_iff.mpr whole)

/-- A prefix leaves something of a path exactly if it covers it. -/
theorem remainder?_isSome_iff {start path : String} :
    (remainder? start path).isSome ↔ Covers start path := by
  rw [Option.isSome_iff_exists, Covers]
  constructor
  · rintro ⟨rest, found⟩
    obtain ⟨whole, rfl | ⟨more, rfl⟩⟩ := remainder?_eq_some_iff.mp found
    · simp [whole]
    · rw [whole]
      exact ⟨more ++ ['/'], by simp⟩
  · rintro ⟨more, whole⟩
    rcases List.eq_nil_or_concat more with rfl | ⟨init, last, rfl⟩
    · have same : path.toList = start.toList := by simpa using whole.symm
      exact ⟨[], remainder?_eq_some_iff.mpr ⟨by simpa using same, .inl rfl⟩⟩
    · have same : path.toList = start.toList ++ '/' :: init := by
        rw [List.concat_eq_append, ← List.append_assoc] at whole
        simpa using (List.append_inj_left' whole rfl).symm
      exact ⟨'/' :: init, remainder?_eq_some_iff.mpr ⟨same, .inr ⟨init, rfl⟩⟩⟩

/-- What is left of a path behind its own prefix. -/
theorem remainder?_pathOf (start : String) (tenant token device : List Char) :
    remainder? start (pathOf start tenant token device) =
      some ('/' :: (tenant ++ '/' :: (token ++ '/' :: device))) :=
  remainder?_eq_some_iff.mpr ⟨by rw [pathOf, String.toList_ofList], .inr ⟨_, rfl⟩⟩

theorem variant?_device {settings : Settings} {path : String} {rest : List Char}
    (found : remainder? settings.devicePrefix path = some rest) :
    variant? settings path = some (.device, rest) := by
  rw [variant?, found]

theorem variant?_management {settings : Settings} {path : String} {rest : List Char}
    (uncovered : ¬ Covers settings.devicePrefix path)
    (found : remainder? settings.managementPrefix path = some rest) :
    variant? settings path = some (.management, rest) := by
  rw [← remainder?_isSome_iff, Option.not_isSome_iff_eq_none] at uncovered
  rw [variant?, uncovered, found]
  rfl

/-- Devices come first: a path that their prefix covers is theirs. -/
theorem variant?_covered {settings : Settings} {path : String} {rest : List Char}
    {variant : Variant} (covered : Covers settings.devicePrefix path)
    (found : variant? settings path = some (variant, rest)) : variant = .device := by
  obtain ⟨other, left⟩ := Option.isSome_iff_exists.mp (remainder?_isSome_iff.mpr covered)
  rw [variant?_device left] at found
  cases found
  rfl

/-! ### Segments -/

theorem segments_three {tenant token device : List Char} (first : '/' ∉ tenant)
    (second : '/' ∉ token) (third : '/' ∉ device) :
    segments ('/' :: (tenant ++ '/' :: (token ++ '/' :: device))) = [tenant, token, device] := by
  rw [segments, Text.split_append, Text.split_append, Text.split_of_notMem first,
    Text.split_of_notMem second, Text.split_of_notMem third]
  rfl

theorem decodeSegment_escapes {text : String} {written : List Char} (name : String)
    (escapes : Escapes (Text.toUtf8 text) written) (some : text ≠ "") :
    decodeSegment name written = .ok text := by
  have filled : written.isEmpty = false := List.isEmpty_eq_false_iff.mpr (escapes.ne_nil some)
  rw [decodeSegment, filled, escapes.decoded]
  simp [some]

/-! ### Sub-protocols -/

/-- What is found in a header is a word of its own. -/
theorem isToken_of_offers {header protocol : String} (found : offers header protocol = true) :
    IsToken protocol := by
  obtain ⟨part, mem, same⟩ := List.any_eq_true.mp found
  rw [beq_iff_eq] at same
  rw [IsToken, ← same]
  exact ⟨fun comma => Text.notMem_of_mem_split mem (Text.trimmed_subset _ comma),
    Text.isTrimmed_trimmed _⟩

/-- **A sub-protocol that is listed is found exactly if it is a word of its own**, with no comma
in it and no white space at its ends. -/
theorem offers_listing_iff {items : List (List Char)} {protocol : String}
    (listed : Lists items protocol) : offers (listing items) protocol = true ↔ IsToken protocol := by
  refine ⟨isToken_of_offers, fun token => ?_⟩
  obtain ⟨left, right, blankLeft, blankRight, mem⟩ := listed
  have comma {pad : List Char} (blank : IsPad pad) : ',' ∉ pad := fun mem => by
    cases blank ',' mem
  have whole : ',' ∉ left ++ (protocol.toList ++ right) := by
    simp [comma blankLeft, comma blankRight, token.1]
  have some : items ≠ [] := List.ne_nil_of_mem mem
  rw [offers, listing, String.toList_ofList, Text.split_join some, List.any_eq_true]
  refine ⟨left ++ (protocol.toList ++ right), List.mem_flatMap.mpr ⟨_, mem, ?_⟩, ?_⟩
  · rw [Text.split_of_notMem whole]
    exact List.mem_singleton_self _
  · exact beq_iff_eq.mpr (Text.trimmed_padded blankLeft token.2 blankRight)

/-! ### Accepted requests -/

theorem bind_eq_ok {ε α β : Type} {step : Except ε α} {next : α → Except ε β} {b : β} :
    (step >>= next) = .ok b ↔ ∃ a, step = .ok a ∧ next a = .ok b := by
  cases step with
  | error => exact iff_of_false nofun nofun
  | ok a => exact ⟨fun same => ⟨a, rfl, same⟩, fun ⟨_, same, rest⟩ => by cases same; exact rest⟩

/-- What an accepted request has. -/
theorem target_eq_ok_iff {settings : Settings} {path : String} {offered : Option String}
    {t : Target} :
    target settings path offered = .ok t ↔
      ∃ rest tenant token device, t.path = withoutQuery path ∧
        variant? settings t.path = some (t.variant, rest) ∧
        segments rest = [tenant, token, device] ∧
        decodeSegment "tenant" tenant = .ok t.tenant ∧ decodeSegment "token" token = .ok t.token ∧
        decodeSegment "device" device = .ok t.device ∧
        t.protocol = settings.protocolOf t.variant ∧
        offers (offered.getD "") t.protocol = true := by
  rw [target]
  constructor
  · intro accepted
    split at accepted
    · cases accepted
    · next variant rest found =>
      split at accepted
      · next tenant token device parts =>
        obtain ⟨_, readTenant, accepted⟩ := bind_eq_ok.mp accepted
        obtain ⟨_, readToken, accepted⟩ := bind_eq_ok.mp accepted
        obtain ⟨_, readDevice, accepted⟩ := bind_eq_ok.mp accepted
        dsimp only at accepted
        split at accepted
        · next listed =>
          cases accepted
          exact ⟨rest, tenant, token, device, rfl, found, parts, readTenant, readToken,
            readDevice, rfl, listed⟩
        · cases accepted
      · cases accepted
  · obtain ⟨variant, raw, _, _, _, protocol⟩ := t
    rintro ⟨rest, tenant, token, device, path, found, parts, readTenant, readToken, readDevice,
      expected, listed⟩
    dsimp only at *
    subst path expected
    simp only [found, parts, readTenant, readToken, readDevice, bind, Except.bind, listed, if_true]

/-! ### Round trips -/

section RoundTrip

variable {settings : Settings} {variant : Variant} {tenant token device : String}
  {writtenTenant writtenToken writtenDevice : List Char} {items : List (List Char)}

/-- **A request is read as it was meant exactly if the settings can tell it apart**: the prefix
of its variant has no question mark, its sub-protocol is a word of its own, and, if it is for a
management client, the prefix of devices does not cover its path. -/
theorem target_request_iff (query : Option String)
    (named : tenant ≠ "" ∧ token ≠ "" ∧ device ≠ "")
    (first : Escapes (Text.toUtf8 tenant) writtenTenant)
    (second : Escapes (Text.toUtf8 token) writtenToken)
    (third : Escapes (Text.toUtf8 device) writtenDevice)
    (listed : Lists items (settings.protocolOf variant)) :
    let path := pathOf (settings.prefixOf variant) writtenTenant writtenToken writtenDevice
    target settings (withQuery path query) (some (listing items)) =
        .ok { variant, path, tenant, token, device, protocol := settings.protocolOf variant } ↔
      '?' ∉ (settings.prefixOf variant).toList ∧ IsToken (settings.protocolOf variant) ∧
        (variant = .management → ¬ Covers settings.devicePrefix path) := by
  intro path
  have query_notMem_iff : '?' ∉ path.toList ↔ '?' ∉ (settings.prefixOf variant).toList := by
    simp [path, pathOf, first.notMem.2, second.notMem.2, third.notMem.2]
  rw [target_eq_ok_iff]
  constructor
  · rintro ⟨rest, _, _, _, raw, found, -, -, -, -, -, offered⟩
    dsimp only at raw found offered
    refine ⟨query_notMem_iff.mp (raw ▸ query_notMem_withoutQuery _), isToken_of_offers offered, ?_⟩
    rintro rfl covered
    cases variant?_covered covered found
  · rintro ⟨plain, isToken, apart⟩
    refine ⟨_, writtenTenant, writtenToken, writtenDevice,
      (withoutQuery_withQuery (query_notMem_iff.mpr plain) query).symm, ?_,
      segments_three first.notMem.1 second.notMem.1 third.notMem.1,
      decodeSegment_escapes _ first named.1, decodeSegment_escapes _ second named.2.1,
      decodeSegment_escapes _ third named.2.2, rfl, (offers_listing_iff listed).mpr isToken⟩
    cases variant with
    | device => exact variant?_device (remainder?_pathOf _ _ _ _)
    | management => exact variant?_management (apart rfl) (remainder?_pathOf _ _ _ _)

/-- A management client of the default settings, whose token holds a slash, is read back. -/
theorem target_request_iff_default :
    target {} (withQuery (pathOf "/REST" (Text.percentEncode "T1") (Text.percentEncode "a/b")
        (Text.percentEncode "CS 001")) (some "x=1")) (some (listing ["ocpp".toList, " rest".toList])) =
      .ok { variant := .management, path := "/REST/T1/a%2Fb/CS%20001", tenant := "T1",
            token := "a/b", device := "CS 001", protocol := "rest" } := by
  have listed : Lists ["ocpp".toList, " rest".toList] (({} : Settings).protocolOf .management) :=
    ⟨[' '], [], by simp [IsPad]; decide, by simp [IsPad], by decide⟩
  have round := (target_request_iff (some "x=1")
    ⟨by decide, by decide, by decide⟩ (Text.escapes_percentEncode "T1")
    (Text.escapes_percentEncode "a/b") (Text.escapes_percentEncode "CS 001") listed).mpr
    ⟨by decide, by decide, fun _ => by decide +kernel⟩
  exact round

/-- A prefix of one segment. -/
def IsName (start : String) : Prop := '/' ∉ start.toList.tail ∧ '?' ∉ start.toList

/-- A prefix of one segment covers the paths of no other. -/
theorem not_covers_of_isName {start other : String} (one : Settings.isPrefix start = true)
    (two : Settings.isPrefix other = true) (oneName : IsName start) (twoName : IsName other)
    (differ : start ≠ other) (tenant token device : List Char) :
    ¬ Covers start (pathOf other tenant token device) := by
  have slash {text : String} (prefixed : Settings.isPrefix text = true) :
      text.toList = '/' :: text.toList.tail := by
    unfold Settings.isPrefix at prefixed
    split at prefixed
    · next same => rw [same, List.tail_cons]
    · cases prefixed
  rintro ⟨more, whole⟩
  rw [pathOf, String.toList_ofList, slash one, slash two] at whole
  simp only [List.append_assoc, List.cons_append, List.nil_append, List.cons.injEq,
    true_and] at whole
  have parts := congrArg (Text.split '/') whole
  rw [Text.split_append, Text.split_append, Text.split_of_notMem oneName.1,
    Text.split_of_notMem twoName.1] at parts
  have tails := (List.cons.inj parts).1
  exact differ (String.toList_inj.mp (by rw [slash one, slash two, tails]))

/-- Valid settings whose prefixes are names and whose sub-protocols are words read every request
as it was meant. -/
theorem target_request_of_names (valid : settings.Valid)
    (names : ∀ variant, IsName (settings.prefixOf variant))
    (tokens : ∀ variant, IsToken (settings.protocolOf variant)) (query : Option String)
    (named : tenant ≠ "" ∧ token ≠ "" ∧ device ≠ "")
    (first : Escapes (Text.toUtf8 tenant) writtenTenant)
    (second : Escapes (Text.toUtf8 token) writtenToken)
    (third : Escapes (Text.toUtf8 device) writtenDevice)
    (listed : Lists items (settings.protocolOf variant)) :
    let path := pathOf (settings.prefixOf variant) writtenTenant writtenToken writtenDevice
    target settings (withQuery path query) (some (listing items)) =
      .ok { variant, path, tenant, token, device, protocol := settings.protocolOf variant } := by
  refine (target_request_iff query named first second third listed).mpr
    ⟨(names variant).2, tokens variant, ?_⟩
  rintro rfl
  simp only [Settings.valid_iff, Settings.demands, List.forall_mem_cons, bne_iff_ne] at valid
  obtain ⟨one, two, differ, -⟩ := valid
  exact not_covers_of_isName one two (names .device) (names .management) differ _ _ _

end RoundTrip

/-! ### Settings that cannot tell -/

/-- Settings whose prefix of devices covers the paths of management clients. -/
def nestedPrefixes : Settings := { devicePrefix := "/A", managementPrefix := "/A/B" }

/-- **Valid settings can misread a request**: with nested prefixes a management client is taken for
a device with too many segments. -/
theorem misread_nestedPrefixes :
    nestedPrefixes.Valid ∧ Lists ["rest".toList] (nestedPrefixes.protocolOf .management) ∧
      target nestedPrefixes
          (pathOf (nestedPrefixes.prefixOf .management) (Text.percentEncode "T1")
            (Text.percentEncode "TOK") (Text.percentEncode "D1"))
          (some (listing ["rest".toList])) = .error (.segmentCount 4) := by
  refine ⟨by decide +kernel, ⟨[], [], by simp [IsPad], by simp [IsPad], by decide⟩, ?_⟩
  rfl

end StationHub.Upgrade
