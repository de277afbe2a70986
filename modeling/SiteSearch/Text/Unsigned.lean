/-!
# Whole numbers as text

Ids and timestamps are words of 64 bits. They are written in decimal without leading zeros, and
read with any number of leading zeros and one optional plus sign; a number past the last word is
refused.
-/
namespace SiteSearch.Text

/-- The decimal digits of a number, at least one. -/
def decimal (n : Nat) : List Char :=
  Nat.toDigits 10 n

/-- The number that a non-empty run of decimal digits writes. -/
def digitsValue? (digits : List Char) : Option Nat :=
  if !digits.isEmpty && digits.all Char.isDigit then some (Nat.ofDigitChars 10 digits 0) else none

/-- The word that a run of decimal digits writes, unless it is too large. -/
def digitsWord? (digits : List Char) : Option UInt64 :=
  match digitsValue? digits with
  | none => none
  | some n => if n < UInt64.size then some (UInt64.ofNat n) else none

/-- The word that a text writes: decimal digits after an optional plus sign. -/
def readWord? : List Char → Option UInt64
  | '+' :: digits => digitsWord? digits
  | digits => digitsWord? digits

/-- A word in decimal. -/
def writeWord (w : UInt64) : String :=
  String.ofList (decimal w.toNat)

theorem digitsValue?_decimal (n : Nat) : digitsValue? (decimal n) = some n := by
  have hne : (Nat.toDigits 10 n).isEmpty = false := by
    rcases Nat.lt_or_ge n 10 with h | h
    · rw [Nat.toDigits_of_lt_base h]; rfl
    · rw [Nat.toDigits_of_base_le (by omega) h]; simp
  have hall : (Nat.toDigits 10 n).all Char.isDigit = true :=
    List.all_eq_true.2 fun c hc => Nat.isDigit_of_mem_toDigits (by omega) (by omega) hc
  simp [digitsValue?, decimal, hne, hall, Nat.ofDigitChars_toDigits]

/-- A word reads back from its decimal form. -/
theorem digitsWord?_decimal (w : UInt64) : digitsWord? (decimal w.toNat) = some w := by
  simp [digitsWord?, digitsValue?_decimal, w.toNat_lt]

end SiteSearch.Text
