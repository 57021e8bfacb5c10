/-!
Percent-encoding of path segments. A `%` followed by two hexadecimal digits stands for the byte
they name; every other byte, a stray `%` included, stands for itself.
-/

namespace StationHub.Text

/-- The value of a hexadecimal digit of either case. -/
def hexValue? (c : Char) : Option Nat :=
  if '0' ≤ c ∧ c ≤ '9' then some (c.toNat - '0'.toNat)
  else if 'a' ≤ c ∧ c ≤ 'f' then some (c.toNat - 'a'.toNat + 10)
  else if 'A' ≤ c ∧ c ≤ 'F' then some (c.toNat - 'A'.toNat + 10)
  else none

/-- The value of the hexadecimal digit that the byte `b` is in ASCII. -/
def hexByte? (b : UInt8) : Option Nat := hexValue? (Char.ofNat b.toNat)

/-- The bytes that percent-encoded bytes stand for. -/
def percentDecode : List UInt8 → List UInt8
  | 0x25 :: a :: b :: rest =>
      match hexByte? a, hexByte? b with
      | some high, some low => UInt8.ofNat (16 * high + low) :: percentDecode rest
      | _, _ => 0x25 :: percentDecode (a :: b :: rest)
  | byte :: rest => byte :: percentDecode rest
  | [] => []

/-- The bytes named by pairs of hexadecimal digits, or nothing if `chars` is not a sequence of
such pairs. -/
def bytesOfHex? : List Char → Option (List UInt8)
  | [] => some []
  | a :: b :: rest => do
      let high ← hexValue? a
      let low ← hexValue? b
      let bytes ← bytesOfHex? rest
      return UInt8.ofNat (16 * high + low) :: bytes
  | [_] => none

/-- A digit of base sixteen in lower case. -/
def hexDigit (n : Nat) : Char := Nat.digitChar (n % 16)

/-- Two lower-case hexadecimal digits for each byte. -/
def hexOfBytes (bytes : List UInt8) : List Char :=
  bytes.flatMap fun byte => [hexDigit (byte.toNat / 16), hexDigit byte.toNat]

/-- The text that `bytes` are the UTF-8 form of, if they are one. -/
def ofUtf8? (bytes : List UInt8) : Option String := String.fromUTF8? (ByteArray.mk bytes.toArray)

/-- The UTF-8 form of `text`. -/
def toUtf8 (text : String) : List UInt8 := text.toUTF8.data.toList

/-- The text that the percent-encoded `segment` stands for, if its bytes are UTF-8. -/
def percentDecode? (segment : String) : Option String := ofUtf8? (percentDecode (toUtf8 segment))

theorem ofUtf8?_toUtf8 (text : String) : ofUtf8? (toUtf8 text) = some text := by
  have same : ByteArray.mk (toUtf8 text).toArray = text.toByteArray := rfl
  rw [ofUtf8?, same, String.fromUTF8?, dif_pos text.isValidUTF8]
  rfl

theorem ofUtf8?_eq_some_iff {bytes : List UInt8} {text : String} :
    ofUtf8? bytes = some text ↔ bytes = toUtf8 text := by
  refine ⟨fun h => ?_, fun h => h ▸ ofUtf8?_toUtf8 text⟩
  rw [ofUtf8?, String.fromUTF8?] at h
  split at h
  · cases h; simp [toUtf8, String.fromUTF8]
  · cases h

/-! ### Samples -/

example : percentDecode? "CS%20001" = some "CS 001" := by cbv
example : percentDecode? "a%2Fb" = some "a/b" := by cbv
example : percentDecode? "100%" = some "100%" := by cbv
example : percentDecode? "%ff" = none := by cbv

end StationHub.Text
