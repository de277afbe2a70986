/-!
# Floating-point numbers of 64 bits

A score, a boost and a rate are numbers of the binary interchange format with 64 bits, held as
their bits: a sign, an exponent field of eleven bits and a fraction of 52. `magnitude` and
`scale` decode a finite number into `magnitude · 2 ^ scale`, and `ofRatio` is the number nearest
to a quotient of natural numbers, a tie going to the even neighbour. Every other operation is the
exact result followed by `ofRatio`.

`key` orders the numbers: `lt` compares keys, so the two zeros are equal, and a number that is not
a number compares with nothing.
-/
namespace SiteSearch

/-- A floating-point number by its bits. -/
structure Binary64 where
  bits : UInt64
  deriving DecidableEq, Repr

namespace Binary64

/-! ## The fields -/

/-- Values of the fraction field. -/
def fractionCount : Nat := Nat.pow 2 52

/-- The bits below the sign. -/
def unsignedBits (x : Binary64) : Nat :=
  x.bits.toNat % Nat.pow 2 63

/-- Whether the sign bit is set. -/
def negative (x : Binary64) : Bool :=
  Nat.pow 2 63 ≤ x.bits.toNat

/-- The exponent field. -/
def exponentField (x : Binary64) : Nat :=
  x.unsignedBits / fractionCount

/-- The fraction field. -/
def fraction (x : Binary64) : Nat :=
  x.unsignedBits % fractionCount

/-- The bits below the sign of an infinity. -/
def infinityBits : Nat := 0x7FF * fractionCount

/-- Neither an infinity nor a number. -/
def isNaN (x : Binary64) : Bool :=
  infinityBits < x.unsignedBits

/-- One of the two infinities. -/
def isInfinite (x : Binary64) : Bool :=
  x.unsignedBits = infinityBits

/-- A finite number. -/
def isFinite (x : Binary64) : Bool :=
  x.unsignedBits < infinityBits

/-- The number with a sign and the bits below it. -/
def ofFields (negative : Bool) (unsignedBits : Nat) : Binary64 :=
  ⟨UInt64.ofNat ((if negative then Nat.pow 2 63 else 0) + unsignedBits)⟩

/-- Zero with a sign. -/
def zeroOf (negative : Bool) : Binary64 :=
  ofFields negative 0

/-- Zero. -/
def zero : Binary64 := zeroOf false

/-- Infinity with a sign. -/
def infinityOf (negative : Bool) : Binary64 :=
  ofFields negative infinityBits

/-- The result of an operation without one. -/
def nan : Binary64 :=
  ofFields false (infinityBits + Nat.pow 2 51)

instance : Inhabited Binary64 := ⟨zero⟩

/-- A finite number is `magnitude · 2 ^ scale`, up to its sign. -/
def magnitude (x : Binary64) : Nat :=
  if x.exponentField = 0 then x.fraction else fractionCount + x.fraction

/-- The exponent of `magnitude`. -/
def scale (x : Binary64) : Int :=
  if x.exponentField = 0 then -1074 else (x.exponentField : Int) - 1075

/-- The numbers are counted up from the negative infinity to the positive one; both zeros are 0. -/
def key (x : Binary64) : Int :=
  if x.negative then -(x.unsignedBits : Int) else x.unsignedBits

/-- Less than; false when one of the two is not a number. -/
def lt (x y : Binary64) : Bool :=
  !x.isNaN && !y.isNaN && x.key < y.key

/-- The same number with the other sign. -/
def neg (x : Binary64) : Binary64 :=
  ofFields (!x.negative) x.unsignedBits

/-! ## Rounding -/

/-- The quotient rounded to the nearest natural number, a half going to the even neighbour. -/
def divideToEven (num den : Nat) : Nat :=
  let quotient := num / den
  let rest := num % den
  if 2 * rest < den then quotient
  else if den < 2 * rest then quotient + 1
  else if quotient % 2 = 0 then quotient else quotient + 1

/-- A power of two on the side of a fraction where its exponent is not negative. -/
def scaledRatio (num den : Nat) (exponent : Int) : Nat × Nat :=
  if exponent < 0 then (num * Nat.pow 2 (-exponent).toNat, den)
  else (num, den * Nat.pow 2 exponent.toNat)

/-- The exponent of the last binary place that a number near `num / den` has. -/
def lastPlace (num den : Nat) : Int :=
  let guess : Int := (num.log2 : Int) - (den.log2 : Int)
  let (n, d) := scaledRatio num den guess
  max (-1074) (if n < d then guess - 53 else guess - 52)

/-- The number nearest to `num / den`, with a sign; past the largest one it is infinite. -/
def ofRatio (negative : Bool) (num den : Nat) : Binary64 :=
  if num = 0 then zeroOf negative
  else
    let place := lastPlace num den
    let (n, d) := scaledRatio num den place
    let unsignedBits := (place + 1074).toNat * fractionCount + divideToEven n d
    ofFields negative (min unsignedBits infinityBits)

/-- The number nearest to a natural number. -/
def ofNat (n : Nat) : Binary64 :=
  ofRatio false n 1

/-- The number nearest to a decimal `digits · 10 ^ exponent`, with a sign. -/
def ofDecimal (negative : Bool) (digits : Nat) (exponent : Int) : Binary64 :=
  if exponent < 0 then ofRatio negative digits (Nat.pow 10 (-exponent).toNat)
  else ofRatio negative (digits * Nat.pow 10 exponent.toNat) 1

/-- The number nearest to `n · 2 ^ exponent`; the exact zero takes the given sign. -/
def ofScaled (zeroNegative : Bool) (n : Int) (exponent : Int) : Binary64 :=
  if n = 0 then zeroOf zeroNegative
  else
    let (num, den) := scaledRatio n.natAbs 1 (-exponent)
    ofRatio (n < 0) num den

/-! ## Arithmetic -/

/-- The magnitude with the sign of the number. -/
def signedMagnitude (x : Binary64) : Int :=
  if x.negative then -(x.magnitude : Int) else x.magnitude

/-- The sum. -/
def add (x y : Binary64) : Binary64 :=
  if x.isNaN || y.isNaN then nan
  else if x.isInfinite then
    if y.isInfinite && x.negative != y.negative then nan else x
  else if y.isInfinite then y
  else
    let scale := min x.scale y.scale
    let aligned (z : Binary64) : Int := z.signedMagnitude * Nat.pow 2 (z.scale - scale).toNat
    ofScaled (x.negative && y.negative) (aligned x + aligned y) scale

/-- The product. -/
def mul (x y : Binary64) : Binary64 :=
  let negative := x.negative != y.negative
  if x.isNaN || y.isNaN then nan
  else if x.isInfinite || y.isInfinite then
    if x.unsignedBits = 0 || y.unsignedBits = 0 then nan else infinityOf negative
  else ofScaled negative (x.signedMagnitude * y.signedMagnitude) (x.scale + y.scale)

/-- The quotient. -/
def div (x y : Binary64) : Binary64 :=
  let negative := x.negative != y.negative
  if x.isNaN || y.isNaN then nan
  else if x.isInfinite then if y.isInfinite then nan else infinityOf negative
  else if y.isInfinite then zeroOf negative
  else if y.unsignedBits = 0 then
    if x.unsignedBits = 0 then nan else infinityOf negative
  else
    let (num, den) := scaledRatio x.magnitude y.magnitude (y.scale - x.scale)
    ofRatio negative num den

/-- The larger of two; a number wins over what is not a number. -/
def max (x y : Binary64) : Binary64 :=
  if x.isNaN then y
  else if y.isNaN then x
  else if x.lt y then y else x

end Binary64

end SiteSearch
