import SiteSearch.Binary64.Basic

/-!
# The shortest decimal of a floating-point number

A finite number other than zero is printed with the fewest digits that read back to it, and of
the decimals with that many digits the nearest. The reals that round to a number form an interval
around it, whose ends belong to it when its magnitude is even. `shortest` looks at the two
neighbours of the number on the grid of decimals with one digit, then two digits, up to seventeen,
and takes the first grid with a neighbour in the interval.
-/
namespace SiteSearch.Binary64

/-- A decimal `digits · 10 ^ exponent`. -/
structure Decimal where
  digits : Nat
  exponent : Int
  deriving DecidableEq, Repr

/-- Which neighbour a number exactly between two decimals goes to. -/
inductive Tie where
  | toEven
  | up
  deriving DecidableEq, Repr

/-- Compares `a · 10 ^ p` with `b · 2 ^ q`. -/
def compareDecimal (a : Nat) (p : Int) (b : Nat) (q : Int) : Ordering :=
  compare (a * Nat.pow 10 p.toNat * Nat.pow 2 (-q).toNat)
    (b * Nat.pow 2 q.toNat * Nat.pow 10 (-p).toNat)

/-- Whether a decimal lies in the interval of the reals that round to a number. In quarters of the
last place, the interval reaches two up and two down, but one down from the least magnitude of an
exponent. -/
def roundsTo (x : Binary64) (d : Decimal) : Bool :=
  let below := if x.magnitude = fractionCount && 1 < x.exponentField then 1 else 2
  let ends := x.magnitude % 2 = 0
  let low := compareDecimal d.digits d.exponent (4 * x.magnitude - below) (x.scale - 2)
  let high := compareDecimal d.digits d.exponent (4 * x.magnitude + 2) (x.scale - 2)
  (low = .gt || (ends && low = .eq)) && (high = .lt || (ends && high = .eq))

/-- The number of decimal digits of a natural number. -/
def digitCount (n : Nat) : Nat :=
  (Nat.toDigits 10 n).length

/-- The place of the first digit: a number in `[10 ^ (k - 1), 10 ^ k)` has place `k`. -/
def leadingPlace (x : Binary64) : Int :=
  if x.scale < 0 then
    -- the least number has fewer than 400 zeros behind the point, so scaled up it has a whole part
    let scaled := x.magnitude * Nat.pow 10 400 / Nat.pow 2 (-x.scale).toNat
    (digitCount scaled : Int) - 400
  else digitCount (x.magnitude * Nat.pow 2 x.scale.toNat)

/-- The nearest decimal on the grid `10 ^ exponent` that reads back as the number, if one of its
two neighbours there does. -/
def onGrid? (tie : Tie) (x : Binary64) (exponent : Int) : Option Decimal :=
  let num := x.magnitude * Nat.pow 2 x.scale.toNat * Nat.pow 10 (-exponent).toNat
  let den := Nat.pow 2 (-x.scale).toNat * Nat.pow 10 exponent.toNat
  let quotient := num / den
  let rest := num % den
  let down : Decimal := ⟨quotient, exponent⟩
  let up : Decimal := ⟨quotient + 1, exponent⟩
  match roundsTo x down && quotient != 0, roundsTo x up with
  | true, true =>
    if 2 * rest < den then some down
    else if den < 2 * rest then some up
    else match tie with
      | .up => some up
      | .toEven => some (if quotient % 2 = 0 then down else up)
  | true, false => some down
  | false, true => some up
  | false, false => none

/-- The first grid with a decimal that reads back, from `digits` digits on. -/
def firstGrid (tie : Tie) (x : Binary64) (place : Int) (digits : Nat) : Nat → Decimal
  | 0 => ⟨x.magnitude, 0⟩
  | more + 1 =>
    match onGrid? tie x (place - digits) with
    | some d => d
    | none => firstGrid tie x place (digits + 1) more

/-- A decimal without zeros at its end. -/
def dropZeros (d : Decimal) : Nat → Decimal
  | 0 => d
  | fuel + 1 =>
    if d.digits ≠ 0 && d.digits % 10 = 0 then dropZeros ⟨d.digits / 10, d.exponent + 1⟩ fuel else d

/-- The shortest decimal that reads back as a finite number, up to its sign; seventeen digits are
always enough. -/
def shortest (tie : Tie) (x : Binary64) : Decimal :=
  if x.magnitude = 0 then ⟨0, 0⟩
  else dropZeros (firstGrid tie x x.leadingPlace 1 17) 17

end SiteSearch.Binary64
