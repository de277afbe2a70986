import SiteSearch.Engine.Memory.Condition

/-!
# Scores are weights

A score is put together from the weights of fields by taking the higher of two and by adding, and both
start at zero. So it is a number not below zero (`Binary64.IsWeight`), whatever weights are asked for;
infinity is one, but never something that is not a number (`Condition.isWeight_scoreClauses`). Among such
numbers any two compare, and a list of them can be put in order.
-/

namespace SiteSearch

namespace Binary64

variable {x y : Binary64}

/-- A number that is not below zero. -/
def IsWeight (x : Binary64) : Prop := x.bits.toNat ≤ infinityBits

theorem infinityBits_lt : infinityBits < Nat.pow 2 63 := by decide

theorem IsWeight.unsignedBits_eq (h : x.IsWeight) : x.unsignedBits = x.bits.toNat :=
  Nat.mod_eq_of_lt (Nat.lt_of_le_of_lt h infinityBits_lt)

theorem IsWeight.isNaN_eq (h : x.IsWeight) : x.isNaN = false := by
  rw [isNaN, h.unsignedBits_eq]
  exact decide_eq_false (Nat.not_lt.2 h)

theorem IsWeight.negative_eq (h : x.IsWeight) : x.negative = false :=
  decide_eq_false (Nat.not_le.2 (Nat.lt_of_le_of_lt h infinityBits_lt))

theorem IsWeight.lt_eq (hx : x.IsWeight) (hy : y.IsWeight) :
    x.lt y = decide (x.bits.toNat < y.bits.toNat) := by
  simp [lt, key, hx.isNaN_eq, hy.isNaN_eq, hx.negative_eq, hy.negative_eq, hx.unsignedBits_eq,
    hy.unsignedBits_eq]

theorem isWeight_of_not_negative (hnegative : x.negative = false) (hnan : x.isNaN = false) :
    x.IsWeight := by
  have hbits : x.unsignedBits = x.bits.toNat :=
    Nat.mod_eq_of_lt (Nat.not_le.1 (of_decide_eq_false hnegative))
  rw [isNaN, hbits] at hnan
  exact Nat.not_lt.1 (of_decide_eq_false hnan)

theorem isWeight_ofFields {n : Nat} (h : n ≤ infinityBits) : (ofFields false n).IsWeight := by
  have hlt : n < 2 ^ 64 := Nat.lt_of_le_of_lt h (by decide)
  rw [IsWeight, ofFields, if_neg Bool.false_ne_true, Nat.zero_add, UInt64.toNat_ofNat_of_lt' hlt]
  exact h

theorem isWeight_zero : zero.IsWeight := isWeight_ofFields (Nat.zero_le _)

theorem isWeight_ofRatio (num den : Nat) : (ofRatio false num den).IsWeight := by
  rw [ofRatio]
  split
  · exact isWeight_zero
  · exact isWeight_ofFields (Nat.min_le_right ..)

theorem isWeight_ofScaled {n : Int} (h : 0 ≤ n) (exponent : Int) :
    (ofScaled false n exponent).IsWeight := by
  rw [ofScaled]
  split
  · exact isWeight_zero
  · rw [decide_eq_false (Int.not_lt.2 h)]
    exact isWeight_ofRatio ..

theorem IsWeight.add (hx : x.IsWeight) (hy : y.IsWeight) : (x.add y).IsWeight := by
  simp only [Binary64.add, hx.isNaN_eq, hy.isNaN_eq, hx.negative_eq, hy.negative_eq, Bool.or_false,
    bne_self_eq_false, Bool.and_false, Bool.and_self, Bool.false_eq_true, if_false]
  split
  · exact hx
  · split
    · exact hy
    · refine isWeight_ofScaled (Int.add_nonneg ?_ ?_) _
      · simp only [signedMagnitude, hx.negative_eq, Bool.false_eq_true, if_false]
        exact Int.mul_nonneg (Int.natCast_nonneg _) (Int.natCast_nonneg _)
      · simp only [signedMagnitude, hy.negative_eq, Bool.false_eq_true, if_false]
        exact Int.mul_nonneg (Int.natCast_nonneg _) (Int.natCast_nonneg _)

/-- A number replaces a weight only if it is a higher one. -/
theorem IsWeight.max (h : x.IsWeight) (y : Binary64) : (x.max y).IsWeight := by
  rw [Binary64.max, if_neg (by simp [h.isNaN_eq])]
  cases hnan : y.isNaN with
  | true => exact h
  | false =>
    rw [if_neg (by simp)]
    split
    · rename_i hlt
      refine isWeight_of_not_negative ?_ hnan
      cases hnegative : y.negative with
      | false => rfl
      | true =>
        simp [lt, key, h.negative_eq, hnegative] at hlt
        omega
    · exact h

end Binary64

namespace Condition

variable {weights : List FieldWeight} {fields : List (String × String)} {document : Json}

theorem isWeight_weightFor (weights : List FieldWeight) (field : String) :
    (weightFor weights field).IsWeight :=
  List.foldlRecOn (motive := Binary64.IsWeight) _ _ Binary64.isWeight_zero fun _ h w _ => h.max w.weight

theorem isWeight_clauseScore {clause : Clause} :
    ∀ s ∈ clauseScore weights fields clause, s.IsWeight := by
  unfold clauseScore
  refine List.foldlRecOn (motive := fun top : Option Binary64 => ∀ s ∈ top, s.IsWeight) _ _ nofun
    fun top htop field _ s hs => ?_
  obtain rfl := Option.some.inj hs
  cases top with
  | none => exact (isWeight_weightFor weights field.1).max _
  | some top => exact (htop top rfl).max _

theorem isWeight_add? {score : Clause → Option Binary64} {tally next : Tally} {clause : Clause}
    (hscore : ∀ s ∈ score clause, s.IsWeight) (h : tally.total.IsWeight)
    (hnext : tally.add? score clause = some next) : next.total.IsWeight := by
  unfold Tally.add? at hnext
  split at hnext
  · rename_i s _ hs
    obtain rfl := Option.some.inj hnext
    exact h.add (hscore s hs)
  · cases hnext
  · cases hnext
  · obtain rfl := Option.some.inj hnext
    exact h
  · rename_i s _ hs
    obtain rfl := Option.some.inj hnext
    exact h.add (hscore s hs)
  · obtain rfl := Option.some.inj hnext
    exact h

/-- A document that meets some clauses has a score that is no less than zero. -/
theorem isWeight_scoreClauses {clauses : List Clause} {s : Binary64}
    (h : scoreClauses weights document clauses = some s) : s.IsWeight := by
  have hfold : ∀ (clauses : List Clause) (tally next : Tally), tally.total.IsWeight →
      clauses.foldlM (Tally.add? (clauseScore weights (textFields document))) tally = some next →
      next.total.IsWeight := by
    intro clauses
    induction clauses with
    | nil =>
      intro tally next htally hnext
      obtain rfl := Option.some.inj hnext
      exact htally
    | cons clause clauses ih =>
      intro tally next htally hnext
      rw [List.foldlM_cons] at hnext
      obtain ⟨first, hfirst, hrest⟩ := Option.bind_eq_some_iff.1 hnext
      exact ih first next (isWeight_add? isWeight_clauseScore htally hfirst) hrest
  obtain ⟨tally, htally, hlast⟩ := Option.bind_eq_some_iff.1 h
  have htotal := hfold clauses ⟨.zero, false⟩ tally Binary64.isWeight_zero htally
  simp only [] at hlast
  split at hlast
  · cases hlast
  · obtain rfl := Option.some.inj hlast
    exact htotal

end Condition

end SiteSearch
