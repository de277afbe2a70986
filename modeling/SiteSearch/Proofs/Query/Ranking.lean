import Mathlib.Data.List.Basic
import SiteSearch.Proofs.Memory.Scores
import SiteSearch.Query.Ranking

/-!
# Ranking some of the hits

Sorting is stable, so to sort and then keep some elements is to keep them and then sort
(`filter_mergeSort`), as long as the scores compare with one another. The same is true of collecting the
best score of each element. So the ranking of the hits of some elements is that part of the ranking of
all hits (`Query.rank_filter`).
-/

namespace SiteSearch

section Sorting

variable {α : Type} {le : α → α → Bool}

/-- A sorted list falls into what an element must not precede and the rest; the element comes between the
two. -/
theorem mergeSort_cut (htrans : ∀ a b c, le a b → le b c → le a c) (htotal : ∀ a b, le a b || le b a)
    (a : α) (l : List α) :
    l.mergeSort le = (l.mergeSort le).filter (fun b => !le a b) ++ (l.mergeSort le).filter (le a) ∧
      (a :: l).mergeSort le =
        (l.mergeSort le).filter (fun b => !le a b) ++ a :: (l.mergeSort le).filter (le a) := by
  obtain ⟨before, behind, hall, hrest, hbefore⟩ := List.mergeSort_cons htrans htotal a l
  have hsorted := List.pairwise_mergeSort htrans htotal (a :: l)
  rw [hall, List.pairwise_append, List.pairwise_cons] at hsorted
  have hbehind := hsorted.2.1.1
  have hbefore_eq : (before ++ behind).filter (fun b => !le a b) = before := by
    rw [List.filter_append, List.filter_eq_self.2 hbefore,
      List.filter_eq_nil_iff.2 fun b hb => by simp [hbehind b hb], List.append_nil]
  have hbehind_eq : (before ++ behind).filter (le a) = behind := by
    rw [List.filter_append, List.filter_eq_self.2 hbehind,
      List.filter_eq_nil_iff.2 fun b hb => by simpa using hbefore b hb, List.nil_append]
  rw [hall, hrest, hbefore_eq, hbehind_eq]
  exact ⟨rfl, rfl⟩

/-- Keeping some elements of a sorted list is sorting those elements. -/
theorem filter_mergeSort (htrans : ∀ a b c, le a b → le b c → le a c) (htotal : ∀ a b, le a b || le b a)
    (p : α → Bool) (l : List α) : (l.mergeSort le).filter p = (l.filter p).mergeSort le := by
  have hcomm : ∀ (q : α → Bool) (sorted : List α),
      (sorted.filter q).filter p = (sorted.filter p).filter q := by
    intro q sorted
    simp [List.filter_filter, Bool.and_comm]
  induction l with
  | nil => simp
  | cons a l ih =>
    obtain ⟨hrest, hall⟩ := mergeSort_cut htrans htotal a (l.filter p)
    rw [(mergeSort_cut htrans htotal a l).2, List.filter_append, List.filter_cons, List.filter_cons,
      hcomm, hcomm, ih]
    split
    · rw [hall]
    · rw [← hrest]

/-- Elements can be put in order by their scores. -/
theorem filter_mergeSort_scores {score : α → Binary64} {l : List α} (h : ∀ a ∈ l, (score a).IsWeight)
    (p : α → Bool) : (l.mergeSort fun a b => !(score a).lt (score b)).filter p =
      (l.filter p).mergeSort fun a b => !(score a).lt (score b) := by
  -- the same order by the bits of the scores, which is one on all elements
  let byBits (a b : α) : Bool := decide ((score b).bits.toNat ≤ (score a).bits.toNat)
  have hsort : ∀ some : List α, (∀ a ∈ some, a ∈ l) →
      (some.mergeSort fun a b => !(score a).lt (score b)) = some.mergeSort byBits := by
    intro some hsome
    have hmap := List.map_mergeSort (r := fun a b => !(score a).lt (score b)) (s := byBits) (f := fun a => a)
      (l := some) fun a ha b hb => by
        rw [(h a (hsome a ha)).lt_eq (h b (hsome b hb)), ← decide_not, decide_eq_decide, Nat.not_lt]
    simpa using hmap
  rw [hsort l fun a ha => ha, hsort (l.filter p) fun a ha => (List.mem_filter.1 ha).1]
  refine filter_mergeSort (fun a b c hab hbc => ?_) (fun a b => ?_) p l
  · simp only [byBits, decide_eq_true_eq] at hab hbc ⊢
    exact Nat.le_trans hbc hab
  · simp only [byBits, Bool.or_eq_true, decide_eq_true_eq]
    exact Nat.le_total ..

end Sorting

namespace Query

/-! ## The best score of each element -/

theorem filter_keepBest (p : ElementId → Bool) (hit : RankedHit) : ∀ entries : List RankedHit,
    (keepBest hit entries).filter (fun entry => p entry.id) =
      if p hit.id then keepBest hit (entries.filter fun entry => p entry.id)
      else entries.filter fun entry => p entry.id
  | [] => by
    rw [keepBest, List.filter_cons]
    rfl
  | first :: rest => by
    have ih := filter_keepBest p hit rest
    rw [keepBest]
    by_cases hid : first.id = hit.id
    · rw [if_pos hid, List.filter_cons, List.filter_cons]
      have hsame : (if first.score.lt hit.score then { first with score := hit.score } else first).id =
          hit.id := by
        split <;> exact hid
      have hpick : p first.id = p hit.id := by rw [hid]
      rw [hsame, hpick]
      split
      · rw [keepBest, if_pos hid]
      · rfl
    · rw [if_neg hid, List.filter_cons, List.filter_cons, ih]
      by_cases hfirst : p first.id = true
      · rw [if_pos hfirst, if_pos hfirst]
        split
        · rw [keepBest, if_neg hid]
        · rfl
      · rw [if_neg hfirst, if_neg hfirst]

theorem filter_foldl_keepBest (p : ElementId → Bool) (ranked : List RankedHit) :
    ∀ entries : List RankedHit,
    (ranked.foldl (fun entries hit => keepBest hit entries) entries).filter (fun entry => p entry.id) =
      (ranked.filter fun entry => p entry.id).foldl (fun entries hit => keepBest hit entries)
        (entries.filter fun entry => p entry.id) := by
  induction ranked with
  | nil => exact fun entries => rfl
  | cons hit ranked ih =>
    intro entries
    rw [List.foldl_cons, ih, filter_keepBest, List.filter_cons]
    split <;> rfl

theorem isWeight_keepBest {hit : RankedHit} (hhit : hit.score.IsWeight) : ∀ {entries : List RankedHit},
    (∀ entry ∈ entries, entry.score.IsWeight) → ∀ entry ∈ keepBest hit entries, entry.score.IsWeight
  | [], _ => by simpa [keepBest] using hhit
  | first :: rest, h => by
    obtain ⟨hfirst, hrest⟩ := List.forall_mem_cons.1 h
    rw [keepBest]
    split
    · refine List.forall_mem_cons.2 ⟨?_, hrest⟩
      split
      · exact hhit
      · exact hfirst
    · exact List.forall_mem_cons.2 ⟨hfirst, isWeight_keepBest hhit hrest⟩

theorem isWeight_foldl_keepBest {ranked : List RankedHit} (hranked : ∀ hit ∈ ranked, hit.score.IsWeight) :
    ∀ {entries : List RankedHit}, (∀ entry ∈ entries, entry.score.IsWeight) →
      ∀ entry ∈ ranked.foldl (fun entries hit => keepBest hit entries) entries, entry.score.IsWeight := by
  induction ranked with
  | nil => exact fun h => h
  | cons hit ranked ih =>
    obtain ⟨hhit, hrest⟩ := List.forall_mem_cons.1 hranked
    exact fun h => ih hrest (isWeight_keepBest hhit h)

/-! ## Ranking -/

/-- The ranking of some of the hits is what concerns their elements in the ranking of all, if an element
does not have hits of both kinds. -/
theorem rank_filter {hits : List SearchHit} {keep : SearchHit → Bool} {p : ElementId → Bool}
    (hweights : ∀ hit ∈ hits, (hit.score.getD .zero).IsWeight)
    (hkeep : ∀ hit ∈ hits, ∀ id, Text.readWord? hit.id.toList = some id → keep hit = p id) :
    rank (hits.filter keep) = (rank hits).filter fun entry => p entry.id := by
  have hranked : (hits.filter keep).filterMap rankedHit? =
      (hits.filterMap rankedHit?).filter fun entry => p entry.id := by
    rw [List.filterMap_filter, List.filter_filterMap]
    refine List.filterMap_congr fun hit hhit => ?_
    rw [rankedHit?]
    cases hid : Text.readWord? hit.id.toList with
    | none => simp
    | some id => simp [hkeep hit hhit id hid, Option.filter]
  have hentries : ∀ entry ∈ hits.filterMap rankedHit?, entry.score.IsWeight := by
    intro entry hentry
    obtain ⟨hit, hhit, hmade⟩ := List.mem_filterMap.1 hentry
    obtain ⟨id, -, rfl⟩ := Option.map_eq_some_iff.1 hmade
    exact hweights hit hhit
  rw [rank, rank, hranked, filter_mergeSort_scores (isWeight_foldl_keepBest hentries (by simp)),
    filter_foldl_keepBest]
  rfl

end Query

end SiteSearch
