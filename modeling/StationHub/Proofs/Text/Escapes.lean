import StationHub.Text.Percent

/-!
Percent-encoding, the other way round: which texts of a path segment stand for given bytes.

* `Escapes`: what may be written for bytes in a segment. Any byte may be escaped with digits of
  either case, and a character may stand for itself unless it is a percent sign or would end the
  segment.
* `Escapes.decoded`: whatever is written so is decoded to what it stands for.
* `escapes_percentEncode`: the encoding that leaves the unreserved characters alone is one.
-/

namespace StationHub.Text

/-! ### UTF-8, character by character -/

theorem toUtf8_ofList (chars : List Char) :
    toUtf8 (String.ofList chars) = chars.flatMap String.utf8EncodeChar := by
  simp [toUtf8, String.ofList, List.utf8Encode]

theorem toUtf8_ofList_cons (c : Char) (chars : List Char) :
    toUtf8 (String.ofList (c :: chars)) =
      String.utf8EncodeChar c ++ toUtf8 (String.ofList chars) := by
  rw [toUtf8_ofList, toUtf8_ofList, List.flatMap_cons]

theorem toUtf8_eq_nil_iff {text : String} : toUtf8 text = [] ↔ text = "" := by
  constructor
  · intro none
    have read := ofUtf8?_toUtf8 text
    rw [none] at read
    exact (Option.some.inj read).symm
  · rintro rfl
    rfl

theorem utf8EncodeChar_ascii {c : Char} (ascii : c.toNat ≤ 0x7f) :
    String.utf8EncodeChar c = [UInt8.ofNat c.toNat] := by
  rw [String.utf8EncodeChar]
  exact if_pos ascii

/-- No byte of a character but the percent sign is a percent sign: the bytes of longer forms all
have their highest bit set. -/
theorem percent_notMem_utf8EncodeChar {c : Char} (other : c ≠ '%') :
    (0x25 : UInt8) ∉ String.utf8EncodeChar c := by
  intro mem
  have number : c.val.toNat ≠ 0x25 := fun same => other (Char.ext (UInt32.toNat_inj.mp same))
  have value {n : Nat} (same : 0x25 = UInt8.ofNat n) : n % 256 = 0x25 := by
    simpa using (congrArg UInt8.toNat same).symm
  rw [String.utf8EncodeChar] at mem
  split at mem
  · have := value (List.mem_singleton.mp mem)
    omega
  · split at mem
    · simp only [List.mem_cons, List.not_mem_nil, or_false] at mem
      rcases mem with same | same <;> have := value same <;> omega
    · split at mem <;> simp only [List.mem_cons, List.not_mem_nil, or_false] at mem
      · rcases mem with same | same | same <;> have := value same <;> omega
      · rcases mem with same | same | same | same <;> have := value same <;> omega

/-! ### Decoding in parts -/

theorem percentDecode_cons {byte : UInt8} (other : byte ≠ 0x25) (rest : List UInt8) :
    percentDecode (byte :: rest) = byte :: percentDecode rest := by
  rw [percentDecode]
  rintro _ _ _ rfl
  exact absurd rfl other

theorem percentDecode_append {bytes : List UInt8} (plain : 0x25 ∉ bytes) (rest : List UInt8) :
    percentDecode (bytes ++ rest) = bytes ++ percentDecode rest := by
  induction bytes with
  | nil => rfl
  | cons byte bytes ih =>
      have first : byte ≠ 0x25 := fun same => plain (same ▸ List.mem_cons_self)
      have others : 0x25 ∉ bytes := fun mem => plain (List.mem_cons_of_mem _ mem)
      rw [List.cons_append, percentDecode_cons first, ih others, List.cons_append]

/-- Decoding leaves nothing only of nothing. -/
theorem percentDecode_eq_nil_iff {bytes : List UInt8} : percentDecode bytes = [] ↔ bytes = [] := by
  constructor
  · intro nothing
    unfold percentDecode at nothing
    split at nothing
    · split at nothing <;> cases nothing
    · cases nothing
    · rfl
  · rintro rfl
    rfl

/-- A segment that is not empty stands for a text that is not. -/
theorem ne_empty_of_percentDecode? {segment text : String} (filled : segment ≠ "")
    (decoded : percentDecode? segment = some text) : text ≠ "" := by
  rintro rfl
  have nothing : percentDecode (toUtf8 segment) = [] := ofUtf8?_eq_some_iff.mp decoded
  exact filled (toUtf8_eq_nil_iff.mp (percentDecode_eq_nil_iff.mp nothing))

/-- Hexadecimal digits are ASCII. -/
theorem hexValue?_ascii {digit : Char} {value : Nat} (read : hexValue? digit = some value) :
    digit.toNat ≤ 0x7f := by
  unfold hexValue? at read
  have below {last : Char} (le : digit ≤ last) (ascii : last.toNat ≤ 0x7f) : digit.toNat ≤ 0x7f :=
    Nat.le_trans le ascii
  split at read
  · next range => exact below range.2 (by decide)
  · split at read
    · next range => exact below range.2 (by decide)
    · split at read
      · next range => exact below range.2 (by decide)
      · cases read

theorem hexByte?_ofNat {digit : Char} {value : Nat} (read : hexValue? digit = some value) :
    hexByte? (UInt8.ofNat digit.toNat) = some value := by
  have small := hexValue?_ascii read
  rw [hexByte?, UInt8.toNat_ofNat', Nat.mod_eq_of_lt (by omega), Char.ofNat_toNat, read]

/-! ### What may be written for bytes -/

/-- `c` may stand for itself in a segment of a path. -/
def IsPlain (c : Char) : Prop := c ≠ '%' ∧ c ≠ '/' ∧ c ≠ '?'

/-- `written` is a percent-encoding of `bytes` for a segment of a path. -/
inductive Escapes : List UInt8 → List Char → Prop where
  | nil : Escapes [] []
  /-- A character stands for itself. -/
  | plain {c : Char} {bytes : List UInt8} {written : List Char} :
      IsPlain c → Escapes bytes written → Escapes (String.utf8EncodeChar c ++ bytes) (c :: written)
  /-- A byte is escaped. -/
  | escape {high low : Char} {h l : Nat} {bytes : List UInt8} {written : List Char} :
      hexValue? high = some h → hexValue? low = some l → Escapes bytes written →
        Escapes (UInt8.ofNat (16 * h + l) :: bytes) ('%' :: high :: low :: written)

namespace Escapes

variable {bytes : List UInt8} {written : List Char} {text : String}

theorem percentDecode (escapes : Escapes bytes written) :
    percentDecode (toUtf8 (String.ofList written)) = bytes := by
  induction escapes with
  | nil => rfl
  | plain isPlain _ ih =>
      rw [toUtf8_ofList_cons, percentDecode_append (percent_notMem_utf8EncodeChar isPlain.1), ih]
  | escape highRead lowRead _ ih =>
      simp only [toUtf8_ofList_cons, utf8EncodeChar_ascii (hexValue?_ascii highRead),
        utf8EncodeChar_ascii (hexValue?_ascii lowRead)]
      have sign : String.utf8EncodeChar '%' = [0x25] := by decide
      simp only [sign, List.cons_append, List.nil_append]
      rw [Text.percentDecode]
      simp only [hexByte?_ofNat highRead, hexByte?_ofNat lowRead, ih]

/-- **What is written for a text is decoded to that text.** -/
theorem decoded (escapes : Escapes (toUtf8 text) written) :
    percentDecode? (String.ofList written) = some text := by
  rw [percentDecode?, escapes.percentDecode, ofUtf8?_toUtf8]

theorem ne_nil (escapes : Escapes (toUtf8 text) written) (some : text ≠ "") : written ≠ [] := by
  rintro rfl
  exact some (toUtf8_eq_nil_iff.mp (escapes.percentDecode.symm.trans rfl))

/-- What is written stays within its segment. -/
theorem notMem (escapes : Escapes bytes written) : '/' ∉ written ∧ '?' ∉ written := by
  have digit {c : Char} {value : Nat} (read : hexValue? c = some value) : c ≠ '/' ∧ c ≠ '?' := by
    constructor <;> rintro rfl <;> simp [hexValue?] at read
  induction escapes with
  | nil => simp
  | plain isPlain _ ih =>
      simp [ih, isPlain.2.1.symm, isPlain.2.2.symm]
  | escape highRead lowRead _ ih =>
      simp [ih, (digit highRead).1.symm, (digit highRead).2.symm, (digit lowRead).1.symm,
        (digit lowRead).2.symm]

end Escapes

/-! ### One encoding -/

/-- The byte is an unreserved character of a path, which every encoder leaves alone. -/
def isUnreserved (byte : UInt8) : Bool :=
  let c := Char.ofNat byte.toNat
  c.isAlphanum || c == '-' || c == '.' || c == '_' || c == '~'

/-- What is written for one byte. -/
def escaped (byte : UInt8) : List Char :=
  if isUnreserved byte then [Char.ofNat byte.toNat]
  else ['%', (hexDigit (byte.toNat / 16)).toUpper, (hexDigit byte.toNat).toUpper]

/-- The percent-encoding of a text that leaves only the unreserved characters alone. -/
def percentEncode (text : String) : List Char := (toUtf8 text).flatMap escaped

theorem hexValue?_toUpper_hexDigit : ∀ n < 16, hexValue? (hexDigit n).toUpper = some n := by
  decide

theorem isUnreserved_ascii : ∀ n < 256, isUnreserved (UInt8.ofNat n) = true →
    n ≤ 0x7f ∧ (Char.ofNat n).toNat = n ∧ IsPlain (Char.ofNat n) := by
  unfold IsPlain
  decide +kernel

theorem escapes_flatMap_escaped (bytes : List UInt8) : Escapes bytes (bytes.flatMap escaped) := by
  induction bytes with
  | nil => exact .nil
  | cons byte bytes ih =>
      have bound : byte.toNat < 256 := byte.toNat_lt
      rw [List.flatMap_cons, escaped]
      split
      · next unreserved =>
        obtain ⟨ascii, number, plain⟩ :=
          isUnreserved_ascii byte.toNat bound (by simpa using unreserved)
        have one := utf8EncodeChar_ascii (c := Char.ofNat byte.toNat) (by omega)
        rw [number, UInt8.ofNat_toNat] at one
        simpa [one] using Escapes.plain plain ih
      · have high := hexValue?_toUpper_hexDigit (byte.toNat / 16) (by omega)
        have low := hexValue?_toUpper_hexDigit (byte.toNat % 16) (Nat.mod_lt _ (by decide))
        rw [hexDigit, Nat.mod_mod, ← hexDigit] at low
        have whole : 16 * (byte.toNat / 16) + byte.toNat % 16 = byte.toNat := by omega
        have first := Escapes.escape high low ih
        rw [whole, UInt8.ofNat_toNat] at first
        exact first

theorem escapes_percentEncode (text : String) : Escapes (toUtf8 text) (percentEncode text) :=
  escapes_flatMap_escaped _

example : percentEncode "CS 001/é" = "CS%20001%2F%C3%A9".toList := by cbv

end StationHub.Text
