/-!
# Bytes as text

Bytes are written as pairs of hexadecimal digits, in lowercase for digests and in uppercase for
escapes; a digit of either case is read. In base 64 they are written in letters, digits, plus and
slash: four characters for three bytes, with equals signs where the last group is short.
-/
namespace SiteSearch.Text

/-- A list of bytes. -/
abbrev Bytes := List UInt8

/-! ## Hexadecimal digits -/

/-- The lowercase digit of a number below sixteen. -/
def hexDigit (n : Nat) : Char :=
  Char.ofNat (if n < 10 then 0x30 + n else 0x57 + n)

/-- The uppercase digit of a number below sixteen. -/
def hexDigitUpper (n : Nat) : Char :=
  Char.ofNat (if n < 10 then 0x30 + n else 0x37 + n)

/-- The number of a digit of either case. -/
def hexValue? (c : Char) : Option Nat :=
  let n := c.toNat
  if 0x30 ≤ n && n ≤ 0x39 then some (n - 0x30)
  else if 0x41 ≤ n && n ≤ 0x46 then some (n - 0x37)
  else if 0x61 ≤ n && n ≤ 0x66 then some (n - 0x57)
  else none

/-- Bytes in lowercase, two digits each. -/
def hex (bytes : Bytes) : List Char :=
  bytes.flatMap fun b => [hexDigit (b.toNat / 16), hexDigit (b.toNat % 16)]

/-- A digit below sixteen reads back. -/
theorem hexValue?_hexDigitUpper {n : Nat} (h : n < 16) : hexValue? (hexDigitUpper n) = some n := by
  have hall : ∀ m ∈ List.range 16, hexValue? (hexDigitUpper m) = some m := by decide
  exact hall n (List.mem_range.mpr h)

/-- Every byte takes two digits. -/
theorem length_hex (bytes : Bytes) : (hex bytes).length = 2 * bytes.length := by
  induction bytes with
  | nil => rfl
  | cons b rest ih => simp_all [hex]; omega

/-! ## Base 64 -/

/-- The character of a number below sixty-four. -/
def base64Digit (n : Nat) : Char :=
  if n < 26 then Char.ofNat (0x41 + n)
  else if n < 52 then Char.ofNat (0x61 + (n - 26))
  else if n < 62 then Char.ofNat (0x30 + (n - 52))
  else if n = 62 then '+'
  else '/'

/-- The four digits of a number of twenty-four bits. -/
def base64Group (n : Nat) : List Char :=
  [n / 262144, n / 4096 % 64, n / 64 % 64, n % 64].map base64Digit

/-- Bytes in base 64. -/
def base64 : Bytes → List Char
  | [] => []
  | [a] => (base64Group (a.toNat * 65536)).take 2 ++ ['=', '=']
  | [a, b] => (base64Group (a.toNat * 65536 + b.toNat * 256)).take 3 ++ ['=']
  | a :: b :: c :: rest =>
    base64Group (a.toNat * 65536 + b.toNat * 256 + c.toNat) ++ base64 rest

end SiteSearch.Text
