import Mathlib.Order.Monotone.Basic
import SiteSearch.Binary64.Basic

/-!
# The order of numbers

Numbers are compared by their bits. A finite number is a multiple of the smallest one above zero, which is
two to the power of -1074, and `units` is how many times it has to be taken. So finite numbers are compared
by what they are (`lt_iff_units`): of two bit patterns the one that counts as less is the lesser number,
and only the two zeros count as equal.
-/

namespace SiteSearch.Binary64

variable {x y : Binary64}

/-- How many times the smallest number above zero makes a finite number. -/
def units (x : Binary64) : Int :=
  x.signedMagnitude * (Nat.pow 2 (x.scale + 1074).toNat : Nat)

/-- The units of a number without its sign, by the bits below the sign. -/
def unitsOfBits (bits : Nat) : Nat :=
  if bits / fractionCount = 0 then bits % fractionCount
  else (fractionCount + bits % fractionCount) * Nat.pow 2 (bits / fractionCount - 1)

theorem units_eq (x : Binary64) :
    x.units = if x.negative then -(unitsOfBits x.unsignedBits : Int) else unitsOfBits x.unsignedBits := by
  have hmagnitude : x.magnitude * Nat.pow 2 (x.scale + 1074).toNat = unitsOfBits x.unsignedBits := by
    rw [magnitude, scale, unitsOfBits, ← exponentField, ← fraction]
    split
    · exact Nat.mul_one _
    · rename_i hfield
      have hexponent : ((x.exponentField : Int) - 1075 + 1074).toNat = x.exponentField - 1 := by omega
      rw [hexponent]
  rw [units, signedMagnitude, ← hmagnitude]
  split
  · rw [Int.neg_mul, Int.natCast_mul]
  · rw [Int.natCast_mul]

theorem unitsOfBits_eq {field fraction : Nat} (h : fraction < fractionCount) :
    unitsOfBits (fractionCount * field + fraction) =
      if field = 0 then fraction else (fractionCount + fraction) * Nat.pow 2 (field - 1) := by
  rw [unitsOfBits, Nat.mul_add_div (by decide), Nat.mul_add_mod, Nat.div_eq_of_lt h, Nat.mod_eq_of_lt h,
    Nat.add_zero]

/-- The next bit pattern is more: inside of one exponent by one unit of it, and at its end because the
next exponent has units of twice the size. -/
theorem unitsOfBits_lt_succ (bits : Nat) : unitsOfBits bits < unitsOfBits (bits + 1) := by
  have hfraction : bits % fractionCount < fractionCount := Nat.mod_lt _ (by decide)
  rw [← Nat.div_add_mod bits fractionCount, Nat.add_assoc, unitsOfBits_eq hfraction]
  generalize bits / fractionCount = field at *
  generalize bits % fractionCount = fraction at *
  by_cases hlast : fraction + 1 < fractionCount
  · rw [unitsOfBits_eq hlast]
    split
    · exact Nat.lt_succ_self _
    · exact Nat.mul_lt_mul_of_pos_right (by omega) (Nat.two_pow_pos _)
  · have hnext : fractionCount * field + (fraction + 1) = fractionCount * (field + 1) + 0 := by
      rw [Nat.mul_succ]
      omega
    rw [hnext, unitsOfBits_eq (by decide), if_neg (Nat.succ_ne_zero _)]
    cases field with
    | zero => simpa using hfraction
    | succ field =>
      rw [if_neg (Nat.succ_ne_zero _), Nat.add_sub_cancel, Nat.add_sub_cancel]
      calc (fractionCount + fraction) * Nat.pow 2 field
          < (fractionCount + fractionCount) * Nat.pow 2 field :=
            Nat.mul_lt_mul_of_pos_right (by omega) (Nat.two_pow_pos _)
        _ = (fractionCount + 0) * (Nat.pow 2 field * 2) := by
            rw [Nat.add_zero, ← Nat.two_mul]
            ac_rfl
        _ = (fractionCount + 0) * Nat.pow 2 (field + 1) := rfl

theorem strictMono_unitsOfBits : StrictMono unitsOfBits :=
  strictMono_nat_of_lt_succ unitsOfBits_lt_succ

/-- Bit patterns are in the order of the numbers. -/
theorem key_lt_iff : x.key < y.key ↔ x.units < y.units := by
  have hless : ∀ a b : Nat, unitsOfBits a < unitsOfBits b ↔ a < b := fun a b =>
    strictMono_unitsOfBits.lt_iff_lt
  have hzero : unitsOfBits 0 = 0 := rfl
  have h := hless x.unsignedBits y.unsignedBits
  have h' := hless y.unsignedBits x.unsignedBits
  have hx := hless 0 x.unsignedBits
  have hy := hless 0 y.unsignedBits
  rw [units_eq, units_eq, key, key]
  split <;> split <;> omega

theorem isNaN_of_isFinite (h : x.isFinite = true) : x.isNaN = false :=
  decide_eq_false (Nat.not_lt.2 (Nat.le_of_lt (of_decide_eq_true h)))

/-- Finite numbers are compared by what they are. -/
theorem lt_iff_units (hx : x.isFinite = true) (hy : y.isFinite = true) :
    x.lt y = true ↔ x.units < y.units := by
  rw [lt, isNaN_of_isFinite hx, isNaN_of_isFinite hy, ← key_lt_iff]
  simp

end SiteSearch.Binary64
