import Mathlib.Data.List.Induction
import Mathlib.Data.List.Nodup
import SiteSearch.Proofs.Binary64.Order
import SiteSearch.Proofs.Document.Ids
import SiteSearch.Proofs.Query.Ranking

/-!
# The best hits first

A ranking collects the best score of each element and then sorts what it has collected. The collecting
loop changes entries that it has made before, but it never moves one, so the entries stay in the order in
which their elements are hit first (`Query.Collects`), and the sorting keeps this order where scores are
equal (`pairwise_mergeSort_stable`). What comes of it for hits with finite scores or none is
`Query.rank_best_first`.
-/

namespace SiteSearch

/-- Sorting leaves those elements in their order that the order of sorting does not tell apart. -/
theorem pairwise_mergeSort_stable {α : Type} {le : α → α → Bool}
    (htrans : ∀ a b c, le a b → le b c → le a c) (htotal : ∀ a b, le a b || le b a)
    {R : α → α → Prop} : ∀ {l : List α}, l.Pairwise R →
      (l.mergeSort le).Pairwise fun a b => le a b = true ∧ (le b a = true → R a b)
  | [], _ => by simp
  | a :: l, h => by
    obtain ⟨hfirst, hrest⟩ := List.pairwise_cons.1 h
    obtain ⟨hcut, hall⟩ := mergeSort_cut htrans htotal a l
    have ih := pairwise_mergeSort_stable htrans htotal hrest
    rw [hcut, List.pairwise_append] at ih
    obtain ⟨hbefore, hbehind, hacross⟩ := ih
    rw [hall, List.pairwise_append, List.pairwise_cons]
    refine ⟨hbefore, ⟨fun b hb => ?_, hbehind⟩, fun b hb c hc => ?_⟩
    · obtain ⟨hmem, hle⟩ := List.mem_filter.1 hb
      exact ⟨hle, fun _ => hfirst b (List.mem_mergeSort.1 hmem)⟩
    · rcases List.mem_cons.1 hc with rfl | hc
      · -- what stands in front of the element has to go there
        have hnot : le c b = false := by simpa using (List.mem_filter.1 hb).2
        have hle : le b c = true := by simpa [hnot] using htotal b c
        exact ⟨hle, fun hle' => by simp [hnot] at hle'⟩
      · exact hacross b hb c hc

namespace Query

variable {hits : List SearchHit} {ranked entries : List RankedHit} {hit : RankedHit}

/-! ## Collecting -/

/-- One more hit makes the last entry, or it stands in for the entry of its element if it is better. -/
theorem keepBest_cases (hit : RankedHit) : ∀ entries : List RankedHit,
    keepBest hit entries = entries ++ [hit] ∨
      ∃ before other behind, entries = before ++ other :: behind ∧ other.id = hit.id ∧
        keepBest hit entries =
          before ++ (if other.score.lt hit.score then hit else other) :: behind
  | [] => .inl rfl
  | first :: rest => by
    rw [keepBest]
    by_cases hid : first.id = hit.id
    · refine .inr ⟨[], first, rest, rfl, hid, ?_⟩
      have hhit : { first with score := hit.score } = hit := by rw [hid]
      rw [if_pos hid, hhit]
      rfl
    · rw [if_neg hid]
      rcases keepBest_cases hit rest with heq | ⟨before, other, behind, rfl, hother, heq⟩
      · exact .inl (by rw [heq]; rfl)
      · exact .inr ⟨first :: before, other, behind, rfl, hother, by rw [heq]; rfl⟩

/-- The entries that have been collected from hits: each of them is one of the hits, no hit of its element
is better, and they are in the order in which their elements are hit first. -/
structure Collects (ranked entries : List RankedHit) : Prop where
  taken : ∀ entry ∈ entries, entry ∈ ranked
  best : ∀ hit ∈ ranked, ∃ entry ∈ entries, entry.id = hit.id ∧ hit.score.units ≤ entry.score.units
  ordered : (entries.map (·.id)).Pairwise fun a b =>
    (ranked.map (·.id)).idxOf a < (ranked.map (·.id)).idxOf b

theorem Collects.taken_keepBest (h : Collects ranked entries) :
    ∀ entry ∈ keepBest hit entries, entry ∈ ranked ++ [hit] := by
  intro entry hentry
  rw [List.mem_append, List.mem_singleton]
  rcases keepBest_cases hit entries with heq | ⟨before, other, behind, rfl, -, heq⟩
  · rw [heq, List.mem_append, List.mem_singleton] at hentry
    exact hentry.imp_left (h.taken entry)
  · rw [heq, List.mem_append, List.mem_cons] at hentry
    rcases hentry with hentry | hentry | hentry
    · exact .inl (h.taken entry (List.mem_append_left _ hentry))
    · split at hentry
      · exact .inr hentry
      · exact .inl (h.taken entry (by simp [hentry]))
    · exact .inl (h.taken entry (by simp [hentry]))

theorem Collects.best_keepBest (h : Collects ranked entries)
    (hfinite : ∀ other ∈ ranked ++ [hit], other.score.isFinite = true) :
    ∀ other ∈ ranked ++ [hit], ∃ entry ∈ keepBest hit entries,
      entry.id = other.id ∧ other.score.units ≤ entry.score.units := by
  rcases keepBest_cases hit entries with heq | ⟨before, held, behind, rfl, hid, heq⟩
  · rw [heq]
    intro other hother
    rcases List.mem_append.1 hother with hother | hother
    · obtain ⟨entry, hentry, hbest⟩ := h.best other hother
      exact ⟨entry, List.mem_append_left _ hentry, hbest⟩
    · obtain rfl := List.mem_singleton.1 hother
      exact ⟨other, by simp, rfl, Int.le_refl _⟩
  · have hheld : held.score.isFinite = true :=
      hfinite held (List.mem_append_left _ (h.taken held (by simp)))
    have hlt := Binary64.lt_iff_units hheld (hfinite hit (by simp))
    rw [heq]
    generalize hbetter : (if held.score.lt hit.score then hit else held) = better
    have hbetter : better.id = hit.id ∧ held.score.units ≤ better.score.units ∧
        hit.score.units ≤ better.score.units := by
      rw [← hbetter]
      split
      · rename_i hless
        exact ⟨rfl, Int.le_of_lt (hlt.1 hless), Int.le_refl _⟩
      · rename_i hless
        exact ⟨hid, Int.le_refl _, Int.not_lt.1 fun hless' => hless (hlt.2 hless')⟩
    intro other hother
    rcases List.mem_append.1 hother with hother | hother
    · obtain ⟨entry, hentry, hsame, hbest⟩ := h.best other hother
      rw [List.mem_append, List.mem_cons] at hentry
      rcases hentry with hentry | rfl | hentry
      · exact ⟨entry, by simp [hentry], hsame, hbest⟩
      · exact ⟨better, by simp, hbetter.1.trans (hid.symm.trans hsame),
          Int.le_trans hbest hbetter.2.1⟩
      · exact ⟨entry, by simp [hentry], hsame, hbest⟩
    · obtain rfl := List.mem_singleton.1 hother
      exact ⟨better, by simp, hbetter.1, hbetter.2.2⟩

theorem Collects.ordered_keepBest (h : Collects ranked entries) :
    ((keepBest hit entries).map (·.id)).Pairwise fun a b =>
      ((ranked ++ [hit]).map (·.id)).idxOf a < ((ranked ++ [hit]).map (·.id)).idxOf b := by
  have hmem : ∀ id ∈ entries.map (·.id), id ∈ ranked.map (·.id) := by
    intro id hid
    obtain ⟨entry, hentry, rfl⟩ := List.mem_map.1 hid
    exact List.mem_map_of_mem (h.taken entry hentry)
  have hkept : (entries.map (·.id)).Pairwise fun a b =>
      ((ranked ++ [hit]).map (·.id)).idxOf a < ((ranked ++ [hit]).map (·.id)).idxOf b := by
    refine h.ordered.imp_of_mem fun {a b} ha hb hlt => ?_
    rwa [List.map_append, List.idxOf_append_of_mem (hmem a ha), List.idxOf_append_of_mem (hmem b hb)]
  rw [map_id_keepBest]
  split
  · exact hkept
  · rename_i hnew
    have hfresh : hit.id ∉ ranked.map (·.id) := by
      intro hid
      obtain ⟨other, hother, heq⟩ := List.mem_map.1 hid
      obtain ⟨entry, hentry, hsame, -⟩ := h.best other hother
      exact hnew (List.mem_map.2 ⟨entry, hentry, hsame.trans heq⟩)
    refine List.pairwise_append.2 ⟨hkept, List.pairwise_singleton .., fun a ha b hb => ?_⟩
    rw [List.mem_singleton.1 hb, List.map_append, List.idxOf_append_of_mem (hmem a ha),
      List.idxOf_append_of_notMem hfresh]
    exact Nat.lt_add_right _ (List.idxOf_lt_length_of_mem (hmem a ha))

/-- The loop collects from the hits that it has seen. -/
theorem collects_foldl {ranked : List RankedHit}
    (hfinite : ∀ hit ∈ ranked, hit.score.isFinite = true) :
    Collects ranked (ranked.foldl (fun entries hit => keepBest hit entries) []) := by
  induction ranked using List.reverseRecOn with
  | nil => exact ⟨nofun, nofun, List.Pairwise.nil⟩
  | append_singleton ranked hit ih =>
    have hcollects := ih fun other hother => hfinite other (List.mem_append_left _ hother)
    rw [List.foldl_append]
    exact ⟨hcollects.taken_keepBest, hcollects.best_keepBest hfinite, hcollects.ordered_keepBest⟩

/-! ## Sorting -/

/-- Entries with finite scores are sorted by what the scores are, and otherwise stay in their order. -/
theorem pairwise_mergeSort_scores {R : RankedHit → RankedHit → Prop}
    (hfinite : ∀ entry ∈ entries, entry.score.isFinite = true) (h : entries.Pairwise R) :
    (entries.mergeSort fun a b => !a.score.lt b.score).Pairwise fun a b =>
      b.score.units < a.score.units ∨ b.score.units = a.score.units ∧ R a b := by
  -- the same order by units, which is one on all entries
  let byUnits (a b : RankedHit) : Bool := decide (b.score.units ≤ a.score.units)
  have hsort : (entries.mergeSort fun a b => !a.score.lt b.score) = entries.mergeSort byUnits := by
    have hmap := List.map_mergeSort (r := fun a b => !a.score.lt b.score) (s := byUnits) (f := fun a => a)
      (l := entries) fun a ha b hb => by
        rw [Bool.eq_iff_iff, Bool.not_eq_true', ← Bool.not_eq_true,
          Binary64.lt_iff_units (hfinite a ha) (hfinite b hb), Int.not_lt, decide_eq_true_eq]
    simpa using hmap
  rw [hsort]
  refine (pairwise_mergeSort_stable (fun a b c hab hbc => ?_) (fun a b => ?_) h).imp fun {a b} hab => ?_
  · simp only [byUnits, decide_eq_true_eq] at hab hbc ⊢
    exact Int.le_trans hbc hab
  · simp only [byUnits, Bool.or_eq_true, decide_eq_true_eq]
    exact Int.le_total ..
  · simp only [byUnits, decide_eq_true_eq] at hab
    rcases Int.lt_or_eq_of_le hab.1 with hlt | heq
    · exact .inl hlt
    · exact .inr ⟨heq, hab.2 (Int.le_of_eq heq.symm)⟩

/-! ## Ranking -/

theorem mem_rankedHits {entry : RankedHit} : entry ∈ hits.filterMap rankedHit? ↔
    ∃ hit ∈ hits, Text.readWord? hit.id.toList = some entry.id ∧ hit.score.getD .zero = entry.score := by
  simp only [List.mem_filterMap, rankedHit?, Option.map_eq_some_iff]
  constructor
  · rintro ⟨hit, hmem, id, hid, rfl⟩
    exact ⟨hit, hmem, hid, rfl⟩
  · rintro ⟨hit, hmem, hid, hscore⟩
    exact ⟨hit, hmem, entry.id, hid, by rw [hscore]⟩

/-- Where all scores are finite or missing, a ranking has one entry for each element that is hit, with the
highest score of its hits, a missing one counting as zero. The entries are in falling order of their
scores, and those with equal scores in the order in which their elements are hit first. -/
theorem rank_best_first {hits : List SearchHit}
    (hfinite : ∀ hit ∈ hits, ∀ score ∈ hit.score, score.isFinite = true) :
    ((rank hits).map (·.id)).Nodup ∧
      (∀ id, id ∈ (rank hits).map (·.id) ↔ id ∈ elements hits) ∧
      (∀ entry ∈ rank hits,
        (∃ hit ∈ hits, Text.readWord? hit.id.toList = some entry.id ∧
          hit.score.getD .zero = entry.score) ∧
        ∀ hit ∈ hits, Text.readWord? hit.id.toList = some entry.id →
          (hit.score.getD .zero).units ≤ entry.score.units) ∧
      (rank hits).Pairwise fun a b => b.score.units < a.score.units ∨
        b.score.units = a.score.units ∧ (elements hits).idxOf a.id < (elements hits).idxOf b.id := by
  have hranked : ∀ entry ∈ hits.filterMap rankedHit?, entry.score.isFinite = true := by
    intro entry hentry
    obtain ⟨hit, hhit, -, hscore⟩ := mem_rankedHits.1 hentry
    rw [← hscore]
    cases hgiven : hit.score with
    | none => decide
    | some score => exact hfinite hit hhit score hgiven
  have hcollects := collects_foldl hranked
  have hmem : ∀ entry, entry ∈ rank hits ↔
      entry ∈ (hits.filterMap rankedHit?).foldl (fun entries hit => keepBest hit entries) [] :=
    fun entry => List.mem_mergeSort
  refine ⟨nodup_rank hits, fun id => ?_, fun entry hentry => ⟨?_, fun hit hhit hid => ?_⟩, ?_⟩
  · rw [List.mem_map, mem_rank_iff, elements, List.mem_filterMap]
  · exact mem_rankedHits.1 (hcollects.taken entry ((hmem entry).1 hentry))
  · obtain ⟨other, hother, hsame, hbest⟩ := hcollects.best ⟨entry.id, hit.score.getD .zero⟩
      (mem_rankedHits.2 ⟨hit, hhit, hid, rfl⟩)
    -- one element has one entry
    have heq : other = entry := List.inj_on_of_nodup_map (nodup_rank hits) ((hmem other).2 hother) hentry hsame
    rw [← heq]
    exact hbest
  · have hordered := List.pairwise_map.1 hcollects.ordered
    rw [map_id_rankedHits] at hordered
    exact pairwise_mergeSort_scores
      (fun entry hentry => hranked entry (hcollects.taken entry hentry)) hordered

/-- The first element is hit again, under another writing of its id, with the score of the second one. It
stays in front of it. -/
theorem rank_best_first_of_five :
    let one : Binary64 := .ofNat 1
    let two : Binary64 := .ofNat 2
    let hits : List SearchHit := [⟨"1", some one, none⟩, ⟨"2", some two, none⟩, ⟨"+1", some two, none⟩,
      ⟨"x", some two, none⟩, ⟨"3", none, none⟩]
    rank hits = [⟨1, two⟩, ⟨2, two⟩, ⟨3, .zero⟩] ∧
      (rank hits).Pairwise fun a b => b.score.units < a.score.units ∨
        b.score.units = a.score.units ∧ (elements hits).idxOf a.id < (elements hits).idxOf b.id := by
  intro one two hits
  have hfinite : ∀ hit ∈ hits, ∀ score ∈ hit.score, score.isFinite = true := by decide +kernel
  obtain ⟨-, -, -, hordered⟩ := rank_best_first hfinite
  have hcollected : (hits.filterMap rankedHit?).foldl (fun entries hit => keepBest hit entries) [] =
      [⟨1, two⟩, ⟨2, two⟩, ⟨3, .zero⟩] := by decide +kernel
  refine ⟨?_, hordered⟩
  rw [rank, hcollected]
  exact List.mergeSort_of_pairwise (by decide +kernel)

end Query

end SiteSearch
