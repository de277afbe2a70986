import Mathlib.Data.Nat.Cast.Field
import Mathlib.Data.Nat.Cast.Order.Field
import SiteSearch.Binary64.Text
import SiteSearch.Proofs.Binary64.Rounding

/-!
# Shortest decimals

The shortest decimal of a number is in the number's interval (`Binary64.rounds_shortest`), so reading it
gives the number back (`Binary64.nearest_of_rounds`).

The search takes the first of its seventeen grids with a neighbour in the interval. On the last grid there
always is one: neighbours there are less apart than the narrowest interval is wide (`isSome_onGrid?`).
-/

namespace SiteSearch.Binary64

variable {x : Binary64} {d : Decimal} {tie : Tie} {n : Nat} {e : Int}

/-! ## Values -/

/-- The value of a decimal. -/
def Decimal.value (d : Decimal) : ℚ :=
  d.digits * 10 ^ d.exponent

/-- The value of a number, up to its sign. -/
def size (x : Binary64) : ℚ :=
  x.magnitude * 2 ^ x.scale

theorem zpow_mul_pow_toNat {b : ℚ} (hb : b ≠ 0) (e : Int) : b ^ e * b ^ (-e).toNat = b ^ e.toNat := by
  rcases le_total 0 e with h | h
  · obtain ⟨n, rfl⟩ := Int.eq_ofNat_of_zero_le h
    simp
  · obtain ⟨n, rfl⟩ : ∃ n : Nat, e = -n := ⟨(-e).toNat, by omega⟩
    simp [hb]

/-- Comparing without fractions is comparing the values. -/
theorem compareDecimal_eq (a : Nat) (p : Int) (b : Nat) (q : Int) :
    (compareDecimal a p b q = .lt ↔ (a * 10 ^ p : ℚ) < b * 2 ^ q) ∧
      (compareDecimal a p b q = .eq ↔ (a * 10 ^ p : ℚ) = b * 2 ^ q) ∧
      (compareDecimal a p b q = .gt ↔ (b * 2 ^ q : ℚ) < a * 10 ^ p) := by
  have hscale : (0 : ℚ) < 2 ^ (-q).toNat * 10 ^ (-p).toNat := by positivity
  have ha : ((a * Nat.pow 10 p.toNat * Nat.pow 2 (-q).toNat : Nat) : ℚ)
      = a * 10 ^ p * (2 ^ (-q).toNat * 10 ^ (-p).toNat) := by
    have := zpow_mul_pow_toNat (b := 10) (by norm_num) p
    push_cast [Nat.pow_eq]
    rw [← this]
    ring
  have hb : ((b * Nat.pow 2 q.toNat * Nat.pow 10 (-p).toNat : Nat) : ℚ)
      = b * 2 ^ q * (2 ^ (-q).toNat * 10 ^ (-p).toNat) := by
    have := zpow_mul_pow_toNat (b := 2) (by norm_num) q
    push_cast [Nat.pow_eq]
    rw [← this]
    ring
  rw [compareDecimal, compare_lt_iff_lt, compare_eq_iff_eq, compare_gt_iff_gt,
    ← Nat.cast_lt (α := ℚ), ← Nat.cast_inj (R := ℚ), ← Nat.cast_lt (α := ℚ), ha, hb]
  exact ⟨mul_lt_mul_iff_left₀ hscale, mul_left_inj' hscale.ne', mul_lt_mul_iff_left₀ hscale⟩

/-- The test finds out whether a decimal is in the interval. -/
theorem roundsTo_iff (hmagnitude : x.magnitude ≠ 0) : roundsTo x d = true ↔ x.Rounds d.value := by
  have hlower : ((4 * x.magnitude - x.reachDown : Nat) : ℚ) * 2 ^ (x.scale - 2) = x.lowerEnd := by
    have := x.reachDown_bounds
    rw [lowerEnd, Nat.cast_sub (by omega)]
    push_cast
    rfl
  have hupper : ((4 * x.magnitude + 2 : Nat) : ℚ) * 2 ^ (x.scale - 2) = x.upperEnd := by
    rw [upperEnd]
    push_cast
    rfl
  have hlow := compareDecimal_eq d.digits d.exponent (4 * x.magnitude - x.reachDown) (x.scale - 2)
  have hhigh := compareDecimal_eq d.digits d.exponent (4 * x.magnitude + 2) (x.scale - 2)
  rw [hlower, ← Decimal.value] at hlow
  rw [hupper, ← Decimal.value] at hhigh
  have hexpand : roundsTo x d = true ↔
      (x.lowerEnd < d.value ∨ x.magnitude % 2 = 0 ∧ d.value = x.lowerEnd) ∧
        (d.value < x.upperEnd ∨ x.magnitude % 2 = 0 ∧ d.value = x.upperEnd) := by
    rw [← hlow.2.2, ← hlow.2.1, ← hhigh.1, ← hhigh.2.1, roundsTo]
    simp [reachDown]
  rw [hexpand]
  constructor
  · rintro ⟨hl, hh⟩
    refine ⟨?_, ?_, fun hodd => ⟨?_, ?_⟩⟩ <;> grind
  · rintro ⟨hl, hh, hinside⟩
    rcases Nat.mod_two_eq_zero_or_one x.magnitude with heven | hodd
    · exact ⟨hl.lt_or_eq.imp_right fun h => ⟨heven, h.symm⟩,
        hh.lt_or_eq.imp_right fun h => ⟨heven, h⟩⟩
    · exact ⟨.inl (hinside hodd).1, .inl (hinside hodd).2⟩

/-! ## Digits -/

/-- A natural number with `k` digits is below ten to the `k`, and at least ten to the power below. -/
theorem digitCount_spec (hn : 0 < n) :
    (10 : ℚ) ^ ((digitCount n : Int) - 1) ≤ n ∧ (n : ℚ) < 10 ^ (digitCount n : Int) := by
  have hpos : 0 < digitCount n := Nat.length_toDigits_pos
  have hhigh : n < 10 ^ digitCount n := (Nat.length_toDigits_le_iff (by decide) hpos).1 le_rfl
  have hlow : 10 ^ (digitCount n - 1) ≤ n := by
    by_contra hlt
    rcases Nat.eq_zero_or_pos (digitCount n - 1) with hzero | hmore
    · rw [hzero] at hlt
      omega
    · have := (Nat.length_toDigits_le_iff (b := 10) (n := n) (by decide) hmore).2 (by omega)
      rw [← digitCount] at this
      omega
  have hcast : (digitCount n : Int) - 1 = (digitCount n - 1 : Nat) := by omega
  rw [hcast, zpow_natCast, zpow_natCast]
  exact ⟨by exact_mod_cast hlow, by exact_mod_cast hhigh⟩

/-- The digits of a number that has been scaled up to have a whole part. -/
theorem zpow_digitCount_le (m shift zeros : Nat) (h : Nat.pow 2 shift ≤ m * Nat.pow 10 zeros) :
    (10 : ℚ) ^ ((digitCount (m * Nat.pow 10 zeros / Nat.pow 2 shift) : Int) - zeros - 1) ≤
      m * 2 ^ (-(shift : Int)) := by
  have hdigits := (digitCount_spec (Nat.div_pos h (Nat.two_pow_pos shift))).1
  rw [sub_right_comm, zpow_sub₀ (by norm_num), zpow_natCast, div_le_iff₀ (by positivity), zpow_neg,
    zpow_natCast]
  refine hdigits.trans (Nat.cast_div_le.trans_eq ?_)
  push_cast [Nat.pow_eq]
  ring

/-- A number is at least ten to the power below its leading place. -/
theorem leadingPlace_le (hmagnitude : x.magnitude ≠ 0) : (10 : ℚ) ^ (x.leadingPlace - 1) ≤ x.size := by
  have hpositive := Nat.pos_of_ne_zero hmagnitude
  rw [leadingPlace, size]
  split
  · rename_i hscale
    obtain ⟨shift, hshift⟩ : ∃ shift : Nat, x.scale = -shift := ⟨(-x.scale).toNat, by omega⟩
    have hge := x.scale_ge
    have hmono : ∀ k, shift ≤ k → Nat.pow 2 shift ≤ Nat.pow 2 k :=
      fun _ => Nat.pow_le_pow_right (by decide)
    have hpowers : Nat.pow 2 1074 ≤ Nat.pow 10 400 := by decide +kernel
    have hwhole : Nat.pow 2 shift ≤ x.magnitude * Nat.pow 10 400 :=
      ((hmono _ (by omega)).trans hpowers).trans (Nat.le_mul_of_pos_left _ hpositive)
    have hcast : (400 : Int) = (400 : Nat) := rfl
    rw [hshift, neg_neg, Int.toNat_natCast, hcast]
    generalize 400 = zeros at hwhole ⊢
    exact zpow_digitCount_le x.magnitude shift zeros hwhole
  · rename_i hscale
    obtain ⟨shift, hshift⟩ : ∃ shift : Nat, x.scale = shift := ⟨x.scale.toNat, by omega⟩
    rw [hshift, Int.toNat_natCast, zpow_natCast]
    refine (digitCount_spec (Nat.mul_pos hpositive (Nat.two_pow_pos shift))).1.trans_eq ?_
    push_cast
    rfl

/-! ## Grids -/

theorem size_eq_div (x : Binary64) (e : Int) :
    ((x.magnitude * Nat.pow 2 x.scale.toNat * Nat.pow 10 (-e).toNat : Nat) : ℚ) /
      (Nat.pow 2 (-x.scale).toNat * Nat.pow 10 e.toNat : Nat) = x.size / 10 ^ e := by
  have hten := zpow_mul_pow_toNat (b := 10) (by norm_num) e
  have htwo := zpow_mul_pow_toNat (b := 2) (by norm_num) x.scale
  push_cast [Nat.pow_eq]
  rw [← hten, ← htwo, size]
  field_simp

/-- A decimal that a grid gives is in the interval. -/
theorem rounds_of_onGrid? (hmagnitude : x.magnitude ≠ 0) (h : onGrid? tie x e = some d) :
    d.digits ≠ 0 ∧ x.Rounds d.value := by
  rw [← roundsTo_iff hmagnitude]
  simp only [onGrid?] at h
  grind

/-- A grid without a decimal in the interval has its two neighbours of the number outside of it. -/
theorem neighbours_of_onGrid?_eq_none (hmagnitude : x.magnitude ≠ 0) (h : onGrid? tie x e = none) :
    ∃ quotient : Nat, (quotient * 10 ^ e : ℚ) ≤ x.size ∧ x.size < (quotient + 1) * 10 ^ e ∧
      (quotient = 0 ∨ ¬ x.Rounds (quotient * 10 ^ e)) ∧ ¬ x.Rounds ((quotient + 1) * 10 ^ e) := by
  have hratio := x.size_eq_div e
  simp only [onGrid?] at h
  generalize x.magnitude * Nat.pow 2 x.scale.toNat * Nat.pow 10 (-e).toNat = num at *
  have hden : 0 < Nat.pow 2 (-x.scale).toNat * Nat.pow 10 e.toNat :=
    Nat.mul_pos (Nat.pow_pos (by decide)) (Nat.pow_pos (by decide))
  generalize Nat.pow 2 (-x.scale).toNat * Nat.pow 10 e.toNat = den at *
  have hpow : (0 : ℚ) < 10 ^ e := by positivity
  have hdenPos : (0 : ℚ) < den := by exact_mod_cast hden
  have hdown : ¬ (roundsTo x ⟨num / den, e⟩ = true ∧ num / den ≠ 0) := by grind
  have hup : ¬ roundsTo x ⟨num / den + 1, e⟩ = true := by grind
  rw [roundsTo_iff hmagnitude, Decimal.value] at hdown hup
  refine ⟨num / den, ?_, ?_, ?_, ?_⟩
  · rw [← le_div_iff₀ hpow, ← hratio]
    exact Nat.cast_div_le
  · rw [← div_lt_iff₀ hpow, ← hratio, div_lt_iff₀ hdenPos]
    rw [mul_comm]
    exact_mod_cast Nat.lt_mul_div_succ num hden
  · grind
  · exact_mod_cast hup

theorem size_between (x : Binary64) : x.lowerEnd < x.size ∧ x.size < x.upperEnd := by
  have hpow : (0 : ℚ) < 2 ^ (x.scale - 2) := by positivity
  have hreach : (1 : ℚ) ≤ x.reachDown := by exact_mod_cast x.reachDown_bounds.1
  have hsize : x.size = 4 * x.magnitude * 2 ^ (x.scale - 2) := by
    rw [size, zpow_sub₀ two_ne_zero]
    ring
  rw [hsize, lowerEnd, upperEnd]
  exact ⟨by nlinarith, by nlinarith⟩

/-- What is strictly between the ends is in the interval. -/
theorem rounds_of_between {r : ℚ} (hlow : x.lowerEnd < r) (hhigh : r < x.upperEnd) : x.Rounds r :=
  ⟨hlow.le, hhigh.le, fun _ => ⟨hlow, hhigh⟩⟩

/-- The interval is wider than the number with sixteen places taken off. -/
theorem size_lt_width (x : Binary64) :
    x.size < (x.upperEnd - x.lowerEnd) * 10 ^ 16 := by
  have hpow : (0 : ℚ) < 2 ^ x.scale := by positivity
  have hwidth : x.upperEnd - x.lowerEnd = (2 + x.reachDown) / 4 * 2 ^ x.scale := by
    rw [upperEnd, lowerEnd, zpow_sub₀ two_ne_zero]
    norm_num
    ring
  have hmagnitude : (x.magnitude : ℚ) < (2 + x.reachDown) / 4 * 10 ^ 16 := by
    by_cases hone : x.magnitude = 2 ^ 52
    · have : 1 ≤ x.reachDown := by
        rw [reachDown]
        split <;> omega
      have : (1 : ℚ) ≤ x.reachDown := by exact_mod_cast this
      rw [hone]
      push_cast
      linarith
    · have : x.reachDown = 2 := by
        rw [reachDown, fractionCount_eq, if_neg]
        simp only [hone, decide_false, Bool.false_and, Bool.false_eq_true, not_false_eq_true]
      have hlt : (x.magnitude : ℚ) < 2 ^ 53 := by exact_mod_cast x.magnitude_lt
      rw [this]
      push_cast
      linarith
  rw [hwidth, size]
  nlinarith

/-- Seventeen digits are enough. -/
theorem isSome_onGrid? (tie : Tie) (hmagnitude : x.magnitude ≠ 0) (hfine : (10 : ℚ) ^ e * 10 ^ 16 ≤ x.size) :
    (onGrid? tie x e).isSome := by
  rw [← Option.ne_none_iff_isSome]
  intro hnone
  have hpow : (0 : ℚ) < 10 ^ e := by positivity
  obtain ⟨hbelow, habove⟩ := x.size_between
  obtain ⟨quotient, hdown, hup, hdownOut, hupOut⟩ := neighbours_of_onGrid?_eq_none hmagnitude hnone
  have hquotient : quotient ≠ 0 := by
    rintro rfl
    push_cast at hup
    linarith
  -- the interval is between the two neighbours, so it is no wider than a step of the grid
  have hlow : quotient * 10 ^ e ≤ x.lowerEnd := by
    by_contra hlt
    exact hdownOut.resolve_left hquotient (rounds_of_between (not_le.1 hlt) (hdown.trans_lt habove))
  have hhigh : x.upperEnd ≤ (quotient + 1) * 10 ^ e := by
    by_contra hlt
    exact hupOut (rounds_of_between (hbelow.trans hup) (not_le.1 hlt))
  have hwidth := x.size_lt_width
  linarith

/-! ## The search -/

/-- The search stops at the first grid with a decimal in the interval, at the latest at the last one. -/
theorem rounds_firstGrid (tie : Tie) {place : Int} (hmagnitude : x.magnitude ≠ 0)
    (hplace : (10 : ℚ) ^ (place - 1) ≤ x.size) {digits more : Nat} (hlast : digits + more = 18)
    (hmore : 0 < more) :
    (firstGrid tie x place digits more).digits ≠ 0 ∧
      x.Rounds (firstGrid tie x place digits more).value := by
  induction more generalizing digits with
  | zero => omega
  | succ more ih =>
    rw [firstGrid]
    cases hgrid : onGrid? tie x (place - digits) with
    | some d => exact rounds_of_onGrid? hmagnitude hgrid
    | none =>
      refine ih (by omega) (Nat.pos_of_ne_zero ?_)
      rintro rfl
      have hfine : (10 : ℚ) ^ (place - digits) * 10 ^ 16 ≤ x.size := by
        refine le_of_eq_of_le ?_ hplace
        rw [← zpow_natCast, ← zpow_add₀ (by norm_num)]
        congr 1
        omega
      have := isSome_onGrid? tie hmagnitude hfine
      simp [hgrid] at this

/-- Zeros at the end do not count. -/
theorem value_dropZeros (fuel : Nat) (d : Decimal) : (dropZeros d fuel).value = d.value := by
  induction fuel generalizing d with
  | zero => rfl
  | succ fuel ih =>
    rw [dropZeros]
    split
    · rename_i hzero
      have hten : 10 ∣ d.digits := Nat.dvd_of_mod_eq_zero (by simpa using (Bool.and_eq_true_iff.1 hzero).2)
      rw [ih, Decimal.value, Decimal.value, Nat.cast_div hten (by norm_num), zpow_add_one₀ (by norm_num)]
      push_cast
      ring
    · rfl

theorem digits_dropZeros (fuel : Nat) (h : d.digits ≠ 0) : (dropZeros d fuel).digits ≠ 0 := by
  induction fuel generalizing d with
  | zero => exact h
  | succ fuel ih =>
    rw [dropZeros]
    split
    · rename_i hzero
      refine ih ?_
      simp only [ne_eq, Bool.and_eq_true, decide_eq_true_eq] at hzero
      show d.digits / 10 ≠ 0
      omega
    · exact h

/-- The shortest decimal has digits, and it is in the interval. -/
theorem rounds_shortest (tie : Tie) (hmagnitude : x.magnitude ≠ 0) :
    (shortest tie x).digits ≠ 0 ∧ x.Rounds (shortest tie x).value := by
  obtain ⟨hdigits, hrounds⟩ :=
    rounds_firstGrid tie hmagnitude (leadingPlace_le hmagnitude) (rfl : 1 + 17 = 18) (by decide)
  rw [shortest, if_neg hmagnitude]
  exact ⟨digits_dropZeros 17 hdigits, (value_dropZeros 17 _).symm ▸ hrounds⟩

/-! ## Reading -/

theorem ofDecimal_of_rounds {digits : Nat} (hfinite : x.isFinite = true) (hmagnitude : x.magnitude ≠ 0)
    (h : x.Rounds (digits * 10 ^ e)) : ofDecimal x.negative digits e = x := by
  rw [ofDecimal]
  split
  · rename_i hnegative
    obtain ⟨n, rfl⟩ : ∃ n : Nat, e = -n := ⟨(-e).toNat, by omega⟩
    refine ofRatio_of_rounds hfinite hmagnitude ?_
    simpa [Nat.pow_eq, div_eq_mul_inv] using h
  · rename_i hnonneg
    obtain ⟨n, rfl⟩ : ∃ n : Nat, e = n := ⟨e.toNat, by omega⟩
    refine ofRatio_of_rounds hfinite hmagnitude ?_
    simpa [Nat.pow_eq] using h

/-- What is in the interval of a finite number is neither too large nor too small to be looked at. -/
theorem bounds_of_rounds {r : ℚ} (hfinite : x.isFinite = true) (hmagnitude : x.magnitude ≠ 0)
    (h : x.Rounds r) : (10 : ℚ) ^ (-331 : Int) < r ∧ r < 10 ^ (310 : Int) := by
  have hpowers : ∀ {a b c d : Nat}, a ^ c < b ^ d → (a : ℚ) ^ (c : Int) < (b : ℚ) ^ (d : Int) := by
    intro a b c d hlt
    rw [zpow_natCast, zpow_natCast]
    exact_mod_cast hlt
  have hsmall : (10 : ℚ) ^ (-331 : Int) < 2 ^ (-1075 : Int) := by
    have := hpowers (a := 2) (b := 10) (c := 1075) (d := 331) (by decide +kernel)
    rw [zpow_neg, zpow_neg]
    exact inv_strictAnti₀ (by positivity) this
  have hlarge : (2 : ℚ) ^ (1025 : Int) < 10 ^ (310 : Int) :=
    hpowers (a := 2) (b := 10) (c := 1025) (d := 310) (by decide +kernel)
  have hone : (1 : ℚ) ≤ x.magnitude := by exact_mod_cast Nat.one_le_iff_ne_zero.2 hmagnitude
  have hlt : (x.magnitude : ℚ) < 2 ^ 53 := by exact_mod_cast x.magnitude_lt
  constructor
  · calc (10 : ℚ) ^ (-331 : Int) < 2 ^ (-1075 : Int) := hsmall
      _ = 1 / 2 * 2 ^ (-1074 : Int) := by
        rw [show (-1075 : Int) = -1074 - 1 from rfl, zpow_sub_one₀ two_ne_zero, mul_comm, one_div]
      _ ≤ (x.magnitude - 1 / 2) * 2 ^ x.scale :=
        mul_le_mul (by linarith) (zpow_le_zpow_right₀ one_le_two x.scale_ge) (zpow_pos two_pos _).le
          (by linarith)
      _ ≤ r := x.lowerEnd_ge.trans h.low
  · calc r ≤ (x.magnitude + 1 / 2) * 2 ^ x.scale := x.upperEnd_eq ▸ h.high
      _ ≤ 2 ^ (54 : Int) * 2 ^ (971 : Int) :=
        mul_le_mul (by norm_num; linarith) (zpow_le_zpow_right₀ one_le_two (scale_le hfinite))
          (zpow_pos two_pos _).le (by norm_num)
      _ = 2 ^ (1025 : Int) := (zpow_add₀ two_ne_zero 54 971).symm
      _ < 10 ^ (310 : Int) := hlarge

theorem digitCount_of_rounds {digits : Nat} (hfinite : x.isFinite = true) (hmagnitude : x.magnitude ≠ 0)
    (h : x.Rounds (digits * 10 ^ e)) :
    digits ≠ 0 ∧ (digitCount digits : Int) + e ≤ 310 ∧ -330 ≤ (digitCount digits : Int) + e := by
  obtain ⟨hlow, hhigh⟩ := bounds_of_rounds hfinite hmagnitude h
  have hten : (1 : ℚ) < 10 := by norm_num
  have hpow : (0 : ℚ) < 10 ^ e := by positivity
  have hdigits : digits ≠ 0 := by
    rintro rfl
    rw [Nat.cast_zero, zero_mul] at hlow
    exact absurd hlow (not_lt.2 (by positivity))
  obtain ⟨hcountLow, hcountHigh⟩ := digitCount_spec (Nat.pos_of_ne_zero hdigits)
  refine ⟨hdigits, ?_, ?_⟩
  · have hlt : (10 : ℚ) ^ ((digitCount digits : Int) - 1 + e) < 10 ^ (310 : Int) := by
      rw [zpow_add₀ (by norm_num)]
      exact lt_of_le_of_lt (by gcongr) hhigh
    have := (zpow_lt_zpow_iff_right₀ hten).1 hlt
    omega
  · have hlt : (10 : ℚ) ^ (-331 : Int) < 10 ^ ((digitCount digits : Int) + e) := by
      rw [zpow_add₀ (by norm_num)]
      exact hlow.trans (by gcongr)
    have := (zpow_lt_zpow_iff_right₀ hten).1 hlt
    omega

/-- Reading a decimal in the interval of a finite number gives the number. -/
theorem nearest_of_rounds {digits : List Char} (hfinite : x.isFinite = true)
    (hmagnitude : x.magnitude ≠ 0) (h : x.Rounds (Nat.ofDigitChars 10 digits 0 * 10 ^ e)) :
    nearest x.negative digits e = x := by
  obtain ⟨hdigits, hhigh, hlow⟩ := digitCount_of_rounds hfinite hmagnitude h
  rw [nearest, if_neg hdigits, if_neg (by omega), if_neg (by omega), ofDecimal_of_rounds hfinite hmagnitude h]

/-- Only the two zeros have no magnitude. -/
theorem eq_zeroOf (h : x.magnitude = 0) : x = zeroOf x.negative := by
  have hscale : x.scale = -1074 := by
    by_contra hne
    have := le_magnitude hne
    omega
  have hbits : x.unsignedBits = 0 := by
    rw [unsignedBits_eq, h, hscale]
    rfl
  rw [zeroOf, ← hbits, ofFields_unsignedBits]

end SiteSearch.Binary64
