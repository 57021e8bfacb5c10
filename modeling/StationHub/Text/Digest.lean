/-!
A number that hangs on every character of a text. Two texts that somebody would write have different
ones, although there are more texts than numbers.
-/

namespace StationHub.Text

/-- The modulus of digests, a prime. -/
def digestModulus : Nat := Nat.pow 2 127 - 1

/-- The digest of a text: its characters as the coefficients of a polynomial, at a fixed point. -/
def digest (text : String) : Nat :=
  text.toList.foldl (fun n c => (n * 0x5bd1e995b7e151628aed2a6abf715881 + c.toNat + 1)
    % digestModulus) 0

/-- The digest of a text in hexadecimal digits. -/
def digestHex (text : String) : String := String.ofList (Nat.toDigits 16 (digest text))

theorem digest_lt (text : String) : digest text < digestModulus := by
  have h : ∀ (chars : List Char) (n : Nat), n < digestModulus →
      chars.foldl (fun n c => (n * 0x5bd1e995b7e151628aed2a6abf715881 + c.toNat + 1)
        % digestModulus) n < digestModulus := by
    intro chars
    induction chars with
    | nil => intro n hn; exact hn
    | cons c rest ih => intro n _; exact ih _ (Nat.mod_lt _ (by decide))
  exact h _ _ (by decide)

end StationHub.Text
