import Mathlib.Algebra.Order.Field.Power
import Mathlib.Data.Rat.Cast.Order
import Mathlib.Tactic.FieldSimp
import Mathlib.Tactic.Linarith
import Mathlib.Tactic.NormNum
import Mathlib.Tactic.Positivity
import Mathlib.Tactic.Ring
import SiteSearch.Binary64.Shortest

/-!
# Rounding to the nearest number

The rationals that are nearest to a number form an interval around it (`Binary64.Rounds`). In quarters of
the last place it reaches two up and two down, but only one down from the least magnitude of an exponent,
where the numbers below are twice as close; its ends belong to it if the magnitude is even.

`Binary64.ofRatio_of_rounds` says that `ofRatio` gives the number in whose interval the quotient is. The
last place that it rounds to is that of the number (`lastPlace_eq`), but for quotients just below a power
of two: there it is the place of the numbers below, and rounding up leads to the power of two.
-/

namespace SiteSearch.Binary64

variable {x : Binary64} {r : ℚ} {num den : Nat}

/-! ## The fields of a number -/

theorem fractionCount_eq : fractionCount = 2 ^ 52 := rfl

theorem fraction_lt (x : Binary64) : x.fraction < 2 ^ 52 :=
  Nat.mod_lt _ (by decide)

theorem magnitude_lt (x : Binary64) : x.magnitude < 2 ^ 53 := by
  have h := x.fraction_lt
  rw [magnitude, fractionCount_eq]
  split <;> omega

theorem scale_ge (x : Binary64) : -1074 ≤ x.scale := by
  rw [scale]
  split <;> omega

/-- Only the numbers of the least exponent have smaller magnitudes. -/
theorem le_magnitude (h : x.scale ≠ -1074) : 2 ^ 52 ≤ x.magnitude := by
  have hfield : x.exponentField ≠ 0 := by
    intro hzero
    rw [scale, if_pos hzero] at h
    exact h rfl
  rw [magnitude, if_neg hfield, fractionCount_eq]
  omega

theorem unsignedBits_eq (x : Binary64) :
    x.unsignedBits = (x.scale + 1074).toNat * 2 ^ 52 + x.magnitude := by
  have hsplit : 2 ^ 52 * x.exponentField + x.fraction = x.unsignedBits := Nat.div_add_mod _ _
  rw [← hsplit, scale, magnitude, fractionCount_eq]
  split
  · rename_i hfield
    simp [hfield]
  · rename_i hfield
    have hplace : ((x.exponentField : Int) - 1075 + 1074).toNat = x.exponentField - 1 := by omega
    rw [hplace]
    omega

theorem ofFields_unsignedBits (x : Binary64) : ofFields x.negative x.unsignedBits = x := by
  have hbits : (if x.negative then Nat.pow 2 63 else 0) + x.unsignedBits = x.bits.toNat := by
    have hlt := x.bits.toNat_lt
    have hpow : Nat.pow 2 63 = 2 ^ 63 := rfl
    rw [negative, unsignedBits, hpow]
    split
    · rename_i hnegative
      have hge := of_decide_eq_true hnegative
      omega
    · rename_i hnegative
      have hge := of_decide_eq_false (Bool.eq_false_iff.2 hnegative)
      omega
  rw [ofFields, hbits, UInt64.ofNat_toNat]

theorem scale_le (h : x.isFinite = true) : x.scale ≤ 971 := by
  have hbits : x.unsignedBits < 0x7FF * 2 ^ 52 := of_decide_eq_true h
  rw [unsignedBits_eq] at hbits
  by_cases hleast : x.scale = -1074
  · omega
  · have hmagnitude := le_magnitude hleast
    have hplace : (x.scale + 1074).toNat < 0x7FF - 1 := by omega
    omega

/-! ## Intervals -/

/-- How far down the interval reaches, in quarters of the last place. -/
def reachDown (x : Binary64) : Nat :=
  if x.magnitude = fractionCount && 1 < x.exponentField then 1 else 2

/-- The lower end of the interval. -/
def lowerEnd (x : Binary64) : ℚ :=
  (4 * x.magnitude - x.reachDown) * 2 ^ (x.scale - 2)

/-- The upper end of the interval. -/
def upperEnd (x : Binary64) : ℚ :=
  (4 * x.magnitude + 2) * 2 ^ (x.scale - 2)

/-- The number is the nearest one to a rational, up to its sign; half-way between two it is the one with
the even magnitude. -/
structure Rounds (x : Binary64) (r : ℚ) : Prop where
  low : x.lowerEnd ≤ r
  high : r ≤ x.upperEnd
  inside : x.magnitude % 2 = 1 → x.lowerEnd < r ∧ r < x.upperEnd

theorem reachDown_bounds (x : Binary64) : 1 ≤ x.reachDown ∧ x.reachDown ≤ 2 := by
  rw [reachDown]
  split <;> omega

/-- The interval is shorter below where the next number below is closer. -/
theorem reachDown_eq_one (h : x.magnitude = 2 ^ 52) (hscale : x.scale ≠ -1074) : x.reachDown = 1 := by
  have hfield : 1 < x.exponentField := by
    rw [scale] at hscale
    split at hscale
    · exact absurd rfl hscale
    · omega
  rw [reachDown, fractionCount_eq, h]
  simp [hfield]

/-! ## Quotients -/

/-- Rounding a quotient gives the number that it is at most half away from, or the even one of two. -/
theorem divideToEven_eq {k : Nat} (hlow : 2 * k * den ≤ 2 * num + den)
    (hhigh : 2 * num ≤ (2 * k + 1) * den)
    (hinside : k % 2 = 1 → 2 * k * den < 2 * num + den ∧ 2 * num < (2 * k + 1) * den) (hden : 0 < den) :
    divideToEven num den = k := by
  have hsplit : den * (num / den) + num % den = num := Nat.div_add_mod num den
  have hrest : num % den < den := Nat.mod_lt _ hden
  rw [divideToEven]
  generalize num / den = quotient at *
  generalize num % den = rest at *
  -- the two numbers that it is between are the only ones that it can be half away from
  have hge : quotient ≤ k := by
    by_contra hlt
    have : (k + 1) * den ≤ quotient * den := Nat.mul_le_mul_right _ (by omega)
    grind
  have hle : k ≤ quotient + 1 := by
    by_contra hlt
    have : (quotient + 2) * den ≤ k * den := Nat.mul_le_mul_right _ (by omega)
    grind
  obtain rfl | rfl : k = quotient ∨ k = quotient + 1 := by omega
  · grind
  · grind

/-- The same of the value of the quotient. -/
theorem divideToEven_of_between {k : Nat} (hlow : (k - 1 / 2 : ℚ) ≤ num / den)
    (hhigh : (num : ℚ) / den ≤ k + 1 / 2)
    (hinside : k % 2 = 1 → (k - 1 / 2 : ℚ) < num / den ∧ (num : ℚ) / den < k + 1 / 2) (hden : 0 < den) :
    divideToEven num den = k := by
  have hpos : (0 : ℚ) < den := by exact_mod_cast hden
  rw [le_div_iff₀ hpos] at hlow
  rw [div_le_iff₀ hpos] at hhigh
  rw [lt_div_iff₀ hpos, div_lt_iff₀ hpos] at hinside
  refine divideToEven_eq ?_ ?_ (fun hodd => ?_) hden
  · have : (2 * k * den : ℚ) ≤ 2 * num + den := by linarith
    exact_mod_cast this
  · have : (2 * num : ℚ) ≤ (2 * k + 1) * den := by linarith
    exact_mod_cast this
  · obtain ⟨hlow', hhigh'⟩ := hinside hodd
    have h₁ : (2 * k * den : ℚ) < 2 * num + den := by linarith
    have h₂ : (2 * num : ℚ) < (2 * k + 1) * den := by linarith
    exact ⟨by exact_mod_cast h₁, by exact_mod_cast h₂⟩

theorem scaledRatio_eq (num : Nat) (hden : 0 < den) (exponent : Int) :
    0 < (scaledRatio num den exponent).2 ∧
      ((scaledRatio num den exponent).1 : ℚ) / (scaledRatio num den exponent).2 =
        (num : ℚ) / den / 2 ^ exponent := by
  have hcast : ∀ n : Nat, ((Nat.pow 2 n : Nat) : ℚ) = 2 ^ n := fun n => by norm_cast
  rw [scaledRatio]
  split
  · rename_i hnegative
    obtain ⟨n, rfl⟩ : ∃ n : Nat, exponent = -n := ⟨(-exponent).toNat, by omega⟩
    refine ⟨hden, ?_⟩
    have hshift : (- -(n : Int)).toNat = n := by omega
    simp only [hshift, Nat.cast_mul, hcast, zpow_neg, zpow_natCast]
    field_simp
  · rename_i hnonneg
    obtain ⟨n, rfl⟩ : ∃ n : Nat, exponent = n := ⟨exponent.toNat, by omega⟩
    refine ⟨Nat.mul_pos hden (Nat.pow_pos (by decide)), ?_⟩
    simp only [Int.toNat_natCast, Nat.cast_mul, hcast, zpow_natCast]
    field_simp

/-- The logarithms of its two numbers tell the size of a quotient up to a factor of two. -/
theorem lt_zpow_log2 (hnum : 0 < num) (hden : 0 < den) :
    (2 : ℚ) ^ ((num.log2 : Int) - den.log2 - 1) < num / den ∧
      (num : ℚ) / den < 2 ^ ((num.log2 : Int) - den.log2 + 1) := by
  have hdenPos : (0 : ℚ) < den := by exact_mod_cast hden
  have hnumLow : (2 : ℚ) ^ num.log2 ≤ num := by exact_mod_cast Nat.log2_self_le (by omega)
  have hnumHigh : (num : ℚ) < 2 ^ (num.log2 + 1) := by exact_mod_cast Nat.lt_log2_self
  have hdenLow : (2 : ℚ) ^ den.log2 ≤ den := by exact_mod_cast Nat.log2_self_le (by omega)
  have hdenHigh : (den : ℚ) < 2 ^ (den.log2 + 1) := by exact_mod_cast Nat.lt_log2_self
  constructor
  · have hpow : (2 : ℚ) ^ ((num.log2 : Int) - den.log2 - 1) * 2 ^ (den.log2 + 1) = 2 ^ num.log2 := by
      rw [← zpow_natCast, ← zpow_natCast, ← zpow_add₀ two_ne_zero]
      congr 1
      push_cast
      ring
    rw [lt_div_iff₀ hdenPos]
    calc (2 : ℚ) ^ ((num.log2 : Int) - den.log2 - 1) * den
        < 2 ^ ((num.log2 : Int) - den.log2 - 1) * 2 ^ (den.log2 + 1) := by gcongr
      _ = 2 ^ num.log2 := hpow
      _ ≤ num := hnumLow
  · have hpow : (2 : ℚ) ^ ((num.log2 : Int) - den.log2 + 1) * 2 ^ den.log2 = 2 ^ (num.log2 + 1) := by
      rw [← zpow_natCast, ← zpow_natCast, ← zpow_add₀ two_ne_zero]
      congr 1
      push_cast
      ring
    rw [div_lt_iff₀ hdenPos]
    calc (num : ℚ) < 2 ^ (num.log2 + 1) := hnumHigh
      _ = 2 ^ ((num.log2 : Int) - den.log2 + 1) * 2 ^ den.log2 := hpow.symm
      _ ≤ 2 ^ ((num.log2 : Int) - den.log2 + 1) * den := by gcongr

/-- The last place leaves 53 binary digits in front of it, or fewer where it is the least there is. -/
theorem lastPlace_spec (hnum : 0 < num) (hden : 0 < den) :
    -1074 ≤ lastPlace num den ∧ (num : ℚ) / den < 2 ^ (lastPlace num den + 53) ∧
      (lastPlace num den = -1074 ∨ 2 ^ (lastPlace num den + 52) ≤ (num : ℚ) / den) := by
  obtain ⟨hlow, hhigh⟩ := lt_zpow_log2 hnum hden
  have hmono : ∀ {a b : Int}, a ≤ b → (2 : ℚ) ^ a ≤ 2 ^ b := zpow_le_zpow_right₀ one_le_two
  obtain ⟨hpos, hratio⟩ := scaledRatio_eq num hden ((num.log2 : Int) - den.log2)
  rw [lastPlace]
  generalize (num.log2 : Int) - den.log2 = guess at *
  generalize scaledRatio num den guess = ratio at *
  obtain ⟨n, d⟩ := ratio
  have hcompare : n < d ↔ (num : ℚ) / den < 2 ^ guess := by
    have hd : (0 : ℚ) < d := by exact_mod_cast hpos
    rw [← Nat.cast_lt (α := ℚ), ← div_lt_one hd, hratio, div_lt_one (by positivity)]
  -- without the least place there would be exactly 53 digits
  obtain ⟨place, hplace, hplaceLow, hplaceHigh⟩ : ∃ place : Int,
      (if n < d then guess - 53 else guess - 52) = place ∧
        (2 : ℚ) ^ (place + 52) ≤ num / den ∧ (num : ℚ) / den < 2 ^ (place + 53) := by
    refine ⟨_, rfl, ?_⟩
    split
    · rename_i hlt
      refine ⟨?_, ?_⟩
      · rw [show guess - 53 + 52 = guess - 1 by ring]
        exact hlow.le
      · rw [show guess - 53 + 53 = guess by ring]
        exact hcompare.1 hlt
    · rename_i hge
      refine ⟨?_, ?_⟩
      · rw [show guess - 52 + 52 = guess by ring]
        exact not_lt.1 (mt hcompare.2 hge)
      · rw [show guess - 52 + 53 = guess + 1 by ring]
        exact hhigh
  simp only [hplace]
  refine ⟨by omega, hplaceHigh.trans_le (hmono (by omega)), ?_⟩
  rcases le_total place (-1074) with hle | hge
  · exact .inl (by omega)
  · rw [max_eq_right hge]
    exact .inr hplaceLow

theorem lastPlace_eq {place : Int} (hnum : 0 < num) (hden : 0 < den) (hleast : -1074 ≤ place)
    (hhigh : (num : ℚ) / den < 2 ^ (place + 53))
    (hlow : place = -1074 ∨ 2 ^ (place + 52) ≤ (num : ℚ) / den) : lastPlace num den = place := by
  obtain ⟨hleast', hhigh', hlow'⟩ := lastPlace_spec hnum hden
  have hlt : ∀ {a b : Int}, (2 : ℚ) ^ (a + 52) ≤ num / den → (num : ℚ) / den < 2 ^ (b + 53) → a ≤ b := by
    intro a b ha hb
    have : a + 52 < b + 53 := (zpow_lt_zpow_iff_right₀ one_lt_two).1 (ha.trans_lt hb)
    omega
  rcases hlow with rfl | hlow <;> rcases hlow' with hleast'' | hlow'
  · exact hleast''
  · exact le_antisymm (hlt hlow' hhigh) hleast'
  · have := hlt hlow hhigh'
    omega
  · exact le_antisymm (hlt hlow' hhigh) (hlt hlow hhigh')

/-- A quotient is rounded to the multiple of its last place that it is at most half a place away from. -/
theorem ofRatio_eq {negative : Bool} {place : Int} {k : Nat} (hnum : 0 < num) (hden : 0 < den)
    (hplace : lastPlace num den = place) (hlow : (k - 1 / 2 : ℚ) * 2 ^ place ≤ num / den)
    (hhigh : (num : ℚ) / den ≤ (k + 1 / 2) * 2 ^ place)
    (hinside : k % 2 = 1 →
      (k - 1 / 2 : ℚ) * 2 ^ place < num / den ∧ (num : ℚ) / den < (k + 1 / 2) * 2 ^ place) :
    ofRatio negative num den =
      ofFields negative (min ((place + 1074).toNat * 2 ^ 52 + k) infinityBits) := by
  have hpow : (0 : ℚ) < 2 ^ place := by positivity
  obtain ⟨hpos, hratio⟩ := scaledRatio_eq num hden place
  rw [ofRatio, if_neg (by omega), hplace]
  simp only
  generalize scaledRatio num den place = ratio at *
  obtain ⟨n, d⟩ := ratio
  have hk : divideToEven n d = k := by
    refine divideToEven_of_between ?_ ?_ (fun hodd => ?_) hpos
    · rwa [hratio, le_div_iff₀ hpow]
    · rwa [hratio, div_le_iff₀ hpow]
    · rw [hratio, lt_div_iff₀ hpow, div_lt_iff₀ hpow]
      exact hinside hodd
  rw [hk, fractionCount_eq]

/-! ## The number in whose interval a quotient is -/

theorem lowerEnd_ge (x : Binary64) : (x.magnitude - 1 / 2 : ℚ) * 2 ^ x.scale ≤ x.lowerEnd := by
  have hreach : (x.reachDown : ℚ) ≤ 2 := by exact_mod_cast x.reachDown_bounds.2
  rw [lowerEnd, zpow_sub₀ two_ne_zero]
  have hpow : (0 : ℚ) < 2 ^ x.scale := by positivity
  nlinarith

theorem upperEnd_eq (x : Binary64) : x.upperEnd = (x.magnitude + 1 / 2) * 2 ^ x.scale := by
  rw [upperEnd, zpow_sub₀ two_ne_zero]
  ring

theorem ofFields_min (h : x.isFinite = true) :
    ofFields x.negative (min x.unsignedBits infinityBits) = x := by
  rw [min_eq_left (of_decide_eq_true h).le, ofFields_unsignedBits]

theorem pos_of_rounds (hmagnitude : x.magnitude ≠ 0) (h : x.Rounds r) : 0 < r := by
  have hone : (1 : ℚ) ≤ x.magnitude := by exact_mod_cast Nat.one_le_iff_ne_zero.2 hmagnitude
  have hpow : (0 : ℚ) < 2 ^ x.scale := by positivity
  calc (0 : ℚ) < (x.magnitude - 1 / 2) * 2 ^ x.scale := mul_pos (by linarith) hpow
    _ ≤ r := x.lowerEnd_ge.trans h.low

/-- The last place of the quotient is the one of the number. -/
theorem ofRatio_of_place (hfinite : x.isFinite = true) (hnum : 0 < num) (hden : 0 < den)
    (h : x.Rounds (num / den)) (hplace : x.scale = -1074 ∨ (2 : ℚ) ^ (x.scale + 52) ≤ num / den) :
    ofRatio x.negative num den = x := by
  have hlast : lastPlace num den = x.scale := by
    refine lastPlace_eq hnum hden x.scale_ge ?_ hplace
    have hlt : (x.magnitude : ℚ) + 1 ≤ 2 ^ 53 := by exact_mod_cast x.magnitude_lt
    calc (num : ℚ) / den ≤ (x.magnitude + 1 / 2) * 2 ^ x.scale := x.upperEnd_eq ▸ h.high
      _ < 2 ^ 53 * 2 ^ x.scale := by gcongr; linarith
      _ = 2 ^ (x.scale + 53) := by rw [add_comm, zpow_add₀ two_ne_zero]; norm_num
  rw [ofRatio_eq (k := x.magnitude) hnum hden hlast, ← unsignedBits_eq, ofFields_min hfinite]
  · exact x.lowerEnd_ge.trans h.low
  · exact x.upperEnd_eq ▸ h.high
  · intro hodd
    obtain ⟨hlow, hhigh⟩ := h.inside hodd
    exact ⟨x.lowerEnd_ge.trans_lt hlow, x.upperEnd_eq ▸ hhigh⟩

/-- A quotient with a smaller last place is just below a power of two. -/
theorem magnitude_of_below (hscale : x.scale ≠ -1074) (h : x.Rounds r) (hbelow : r < 2 ^ (x.scale + 52)) :
    x.magnitude = 2 ^ 52 := by
  have hpow : (0 : ℚ) < 2 ^ x.scale := by positivity
  have hlt : (x.magnitude - 1 / 2 : ℚ) * 2 ^ x.scale < 2 ^ 52 * 2 ^ x.scale :=
    calc (x.magnitude - 1 / 2 : ℚ) * 2 ^ x.scale ≤ r := x.lowerEnd_ge.trans h.low
      _ < 2 ^ (x.scale + 52) := hbelow
      _ = 2 ^ 52 * 2 ^ x.scale := by rw [add_comm, zpow_add₀ two_ne_zero]; norm_num
  have hlt : (x.magnitude : ℚ) < 2 ^ 52 + 1 := by
    have := (mul_lt_mul_iff_left₀ hpow).1 hlt
    linarith
  have hlt : x.magnitude < 2 ^ 52 + 1 := by exact_mod_cast hlt
  have hge := le_magnitude hscale
  omega

/-- The last place of the quotient is one below the one of the number: rounding up leads to the power of
two. -/
theorem ofRatio_of_below (hfinite : x.isFinite = true) (hnum : 0 < num) (hden : 0 < den)
    (hscale : x.scale ≠ -1074) (h : x.Rounds (num / den))
    (hbelow : (num : ℚ) / den < 2 ^ (x.scale + 52)) : ofRatio x.negative num den = x := by
  have hpower := magnitude_of_below hscale h hbelow
  have hge := x.scale_ge
  have hpow : (0 : ℚ) < 2 ^ (x.scale - 1) := by positivity
  have hlow : (2 ^ 53 - 1 / 2 : ℚ) * 2 ^ (x.scale - 1) ≤ num / den := by
    refine le_of_eq_of_le ?_ h.low
    rw [lowerEnd, reachDown_eq_one hpower hscale, hpower, zpow_sub₀ two_ne_zero, zpow_sub₀ two_ne_zero]
    norm_num
    ring
  have hhigh : (num : ℚ) / den < 2 ^ 53 * 2 ^ (x.scale - 1) := by
    refine hbelow.trans_eq ?_
    rw [← zpow_natCast, ← zpow_add₀ two_ne_zero]
    congr 1
    push_cast
    ring
  have hlast : lastPlace num den = x.scale - 1 := by
    refine lastPlace_eq hnum hden (by omega) (hhigh.trans_eq ?_) (.inr ?_)
    · rw [add_comm, zpow_add₀ two_ne_zero]
      norm_num
    · rw [add_comm, zpow_add₀ two_ne_zero]
      refine le_trans ?_ hlow
      norm_num
      nlinarith
  have hbits : (x.scale - 1 + 1074).toNat * 2 ^ 52 + 2 ^ 53 = x.unsignedBits := by
    rw [unsignedBits_eq, hpower]
    omega
  rw [ofRatio_eq (k := 2 ^ 53) hnum hden hlast, hbits, ofFields_min hfinite]
  · exact_mod_cast hlow
  · push_cast
    nlinarith
  · intro hodd
    norm_num at hodd

/-- A quotient is rounded to the number that it is in the interval of. -/
theorem ofRatio_of_rounds (hfinite : x.isFinite = true) (hmagnitude : x.magnitude ≠ 0)
    (h : x.Rounds (num / den)) : ofRatio x.negative num den = x := by
  have hpositive := pos_of_rounds hmagnitude h
  have hnum : 0 < num := by
    rw [Nat.pos_iff_ne_zero]
    rintro rfl
    simp at hpositive
  have hden : 0 < den := by
    rw [Nat.pos_iff_ne_zero]
    rintro rfl
    simp at hpositive
  by_cases hplace : x.scale = -1074 ∨ (2 : ℚ) ^ (x.scale + 52) ≤ num / den
  · exact ofRatio_of_place hfinite hnum hden h hplace
  · obtain ⟨hscale, hbelow⟩ := not_or.1 hplace
    exact ofRatio_of_below hfinite hnum hden hscale h (not_le.1 hbelow)

end SiteSearch.Binary64
