import SiteSearch.Binary64.Shortest
import SiteSearch.Text.Unsigned

/-!
# Floating-point numbers as text

`positional` writes a number with the fewest digits that read back, without an exponent and
without a point where there is nothing after it. `read?` reads the decimal forms that a boost can
be given in: digits with an optional point, an optional exponent, an optional sign, and the words
for infinity and for what is not a number.
-/
namespace SiteSearch.Binary64

/-! ## Writing -/

/-- A decimal written out without an exponent. -/
def Decimal.positional (d : Decimal) : List Char :=
  let digits := Text.decimal d.digits
  if 0 ≤ d.exponent then digits ++ List.replicate d.exponent.toNat '0'
  else
    let places := (-d.exponent).toNat
    let padded := List.replicate (places + 1 - digits.length) '0' ++ digits
    let whole := padded.length - places
    padded.take whole ++ '.' :: padded.drop whole

/-- A number in full: the fewest digits that read back, a number exactly between two going up. -/
def positional (x : Binary64) : String :=
  if x.isNaN then "NaN"
  else
    let sign := if x.negative then ['-'] else []
    if x.isInfinite then String.ofList (sign ++ "inf".toList)
    else String.ofList (sign ++ (shortest .up x).positional)

/-! ## Reading -/

/-- A decimal digit run and what follows it. -/
def spanDigits (text : List Char) : List Char × List Char :=
  (text.takeWhile Char.isDigit, text.dropWhile Char.isDigit)

/-- The digits of an exponent with its sign. -/
def readExponent? (text : List Char) : Option Int :=
  let (negative, digits) := match text with
    | '-' :: rest => (true, rest)
    | '+' :: rest => (false, rest)
    | rest => (false, rest)
  (Text.digitsValue? digits).map fun n => if negative then -(n : Int) else n

/-- The number nearest to a decimal, found without large powers where the exponent alone decides. -/
def nearest (negative : Bool) (digits : List Char) (exponent : Int) : Binary64 :=
  let value := Nat.ofDigitChars 10 digits 0
  let place := (digitCount value : Int) + exponent
  if value = 0 then zeroOf negative
  else if 310 < place then infinityOf negative
  else if place < -330 then zeroOf negative
  else ofDecimal negative value exponent

/-- A decimal without a sign. -/
def readDecimal? (negative : Bool) (text : List Char) : Option Binary64 :=
  let (whole, rest) := spanDigits text
  let (part, rest) := match rest with
    | '.' :: rest => spanDigits rest
    | rest => ([], rest)
  if whole.isEmpty && part.isEmpty then none
  else
    let exponent? : Option Int := match rest with
      | [] => some 0
      | 'e' :: rest | 'E' :: rest => readExponent? rest
      | _ => none
    exponent?.map fun exponent => nearest negative (whole ++ part) (exponent - part.length)

/-- A number without a sign: a decimal or one of the words, in any case. -/
def readUnsigned? (negative : Bool) (text : List Char) : Option Binary64 :=
  let small := String.ofList (text.map Char.toLower)
  if small = "inf" || small = "infinity" then some (infinityOf negative)
  else if small = "nan" then some (if negative then nan.neg else nan)
  else readDecimal? negative text

/-- The number that a text writes. -/
def read? : List Char → Option Binary64
  | '-' :: text => readUnsigned? true text
  | '+' :: text => readUnsigned? false text
  | text => readUnsigned? false text

end SiteSearch.Binary64
