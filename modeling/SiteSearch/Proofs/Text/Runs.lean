import Mathlib.Logic.ExistsUnique

/-!
# Longest runs of a text

A run is a stretch of a text whose characters are all of one kind, and which is as long as it can be: no
character of the kind stands in front of it or behind it (`IsRun`). Stretches go from one place between two
characters to another one, so they are never cut within a character.

Runs that touch are the same run (`IsRun.eq_of_touches`). Hence a list that has a run for every character of
the kind has every run of the text, and no character lies in two of them (`RunsFrom.mem_iff`,
`RunsFrom.existsUnique`). Such a list is found from the end of the text on: a run is put in front of the list,
or a character of another kind is passed over.
-/

namespace SiteSearch.Text

variable {f : Char → Bool} {text : String} {p start stop start' stop' : text.Pos}
  {runs : List (text.Pos × text.Pos)}

/-! ## Places -/

/-- All characters of a stretch are of a kind. -/
def Within (f : Char → Bool) (start stop : text.Pos) : Prop :=
  ∀ (p : text.Pos) (h : p ≠ text.endPos), start ≤ p → p < stop → f (p.get h) = true

/-- No character of a kind stands in front of a place. -/
def FreshAt (f : Char → Bool) (p : text.Pos) : Prop :=
  ∀ h : p ≠ text.startPos, f ((p.prev h).get (by simp)) = false

/-- No character of a kind stands behind a place. -/
def DoneAt (f : Char → Bool) (p : text.Pos) : Prop :=
  ∀ h : p ≠ text.endPos, f (p.get h) = false

theorem freshAt_startPos : FreshAt f text.startPos := fun h => absurd rfl h

theorem doneAt_endPos : DoneAt f text.endPos := fun h => absurd rfl h

theorem freshAt_next {h : p ≠ text.endPos} (hc : f (p.get h) = false) : FreshAt f (p.next h) :=
  fun _ => by simpa using hc

theorem within_self : Within f p p := fun _ _ hle hlt => absurd hlt (Std.not_lt.2 hle)

theorem Within.next {h : p ≠ text.endPos} (hwithin : Within f start p) (hc : f (p.get h) = true) :
    Within f start (p.next h) := by
  intro q hq hle hlt
  rcases Std.le_iff_lt_or_eq.1 (String.Pos.lt_next_iff_le.1 hlt) with hlt | rfl
  · exact hwithin q hq hle hlt
  · exact hc

theorem toList_extract_self : (text.extract p p).toList = [] := by
  simp [← String.toByteArray_inj]

/-- What a stretch says with one more character. -/
theorem toList_extract_next (hle : start ≤ p) (h : p ≠ text.endPos) :
    (text.extract start (p.next h)).toList = (text.extract start p).toList ++ [p.get h] := by
  obtain ⟨front, rest, hstart, hp⟩ := String.copy_slice_eq_iff_splits.1 ⟨hle, rfl⟩
  obtain ⟨rest, rfl⟩ := hp.exists_eq_singleton_append h
  obtain ⟨hle', hcopy⟩ := String.copy_slice_eq_iff_splits.2
    ⟨front, rest, by rwa [String.append_assoc], by simpa only [String.append_assoc] using hp.next⟩
  rw [String.extract_eq_copy_slice _ _ hle, String.extract_eq_copy_slice _ _ hle', hcopy,
    String.toList_append, String.toList_singleton]

/-! ## Runs -/

/-- A longest stretch of characters of a kind. -/
structure IsRun (f : Char → Bool) (start stop : text.Pos) : Prop where
  nonempty : start < stop
  within : Within f start stop
  fresh : FreshAt f start
  done : DoneAt f stop

namespace IsRun

/-- A run does not start within another one or right behind it. -/
theorem start_eq (h : IsRun f start stop) (h' : IsRun f start' stop') (hle : start ≤ start')
    (htouch : start' ≤ stop) : start = start' := by
  rcases Std.le_iff_lt_or_eq.1 hle with hlt | heq
  · have hne : start' ≠ text.startPos := String.Pos.ne_startPos_of_lt hlt
    have hkind := h.within (start'.prev hne) (by simp) (String.Pos.le_prev_iff_lt.2 hlt)
      (String.Pos.prev_lt_iff_le.2 htouch)
    rw [h'.fresh hne] at hkind
    cases hkind
  · exact heq

/-- Of two runs that start at one place, none ends within the other. -/
theorem stop_le (h : IsRun f start stop) (h' : IsRun f start stop') : stop' ≤ stop := by
  rw [← Std.not_lt]
  intro hlt
  have hne : stop ≠ text.endPos := String.Pos.ne_endPos_of_lt hlt
  have hkind := h'.within stop hne (Std.le_of_lt h.nonempty) hlt
  rw [h.done hne] at hkind
  cases hkind

/-- Runs that overlap or touch are the same: neither starts behind the end of the other. -/
theorem eq_of_touches (h : IsRun f start stop) (h' : IsRun f start' stop') (hstart : start ≤ stop')
    (hstart' : start' ≤ stop) : start = start' ∧ stop = stop' := by
  have heq : start = start' := by
    rcases Std.le_total (a := start) (b := start') with hle | hle
    · exact h.start_eq h' hle hstart'
    · exact (h'.start_eq h hle hstart).symm
  subst heq
  exact ⟨rfl, Std.le_antisymm (h'.stop_le h) (h.stop_le h')⟩

end IsRun

/-! ## All runs of a text -/

/-- Runs of a text from a place on, in their order, with one for every character of the kind. -/
structure RunsFrom (f : Char → Bool) (start : text.Pos) (runs : List (text.Pos × text.Pos)) : Prop where
  isRun : ∀ run ∈ runs, start ≤ run.1 ∧ IsRun f run.1 run.2
  apart : runs.Pairwise fun run later => run.2 < later.1
  covers : ∀ (p : text.Pos) (h : p ≠ text.endPos), start ≤ p → f (p.get h) = true →
    ∃ run ∈ runs, run.1 ≤ p ∧ p < run.2

namespace RunsFrom

theorem endPos : RunsFrom f text.endPos [] where
  isRun := by simp
  apart := .nil
  covers _ h hle _ := absurd (String.Pos.endPos_le _ |>.1 hle) h

/-- A character of another kind is in no run. -/
theorem skip {h : p ≠ text.endPos} (hc : f (p.get h) = false) (hruns : RunsFrom f (p.next h) runs) :
    RunsFrom f p runs where
  isRun run hrun :=
    have ⟨hle, hisRun⟩ := hruns.isRun run hrun
    ⟨Std.le_of_lt (String.Pos.next_le_iff_lt.1 hle), hisRun⟩
  apart := hruns.apart
  covers q hq hle hkind := by
    rcases Std.le_iff_lt_or_eq.1 hle with hlt | rfl
    · exact hruns.covers q hq (String.Pos.next_le_of_lt hlt) hkind
    · rw [hc] at hkind
      cases hkind

/-- A run comes in front of the runs from its end on. -/
theorem cons (hrun : IsRun f start stop) (hruns : RunsFrom f stop runs) :
    RunsFrom f start ((start, stop) :: runs) where
  isRun := by
    refine List.forall_mem_cons.2 ⟨⟨Std.le_refl _, hrun⟩, fun run hmem => ?_⟩
    have ⟨hle, hisRun⟩ := hruns.isRun run hmem
    exact ⟨Std.le_trans (Std.le_of_lt hrun.nonempty) hle, hisRun⟩
  apart := by
    refine List.pairwise_cons.2 ⟨fun later hmem => ?_, hruns.apart⟩
    obtain ⟨hle, hisRun⟩ := hruns.isRun later hmem
    refine Std.lt_of_le_of_ne hle fun (heq : stop = later.1) => ?_
    have hstart : start < later.1 := heq ▸ hrun.nonempty
    obtain ⟨hsame, -⟩ := hrun.eq_of_touches hisRun (Std.le_of_lt (Std.lt_trans hstart hisRun.nonempty))
      (Std.le_of_eq heq.symm)
    exact Std.ne_of_lt hstart hsame
  covers p h hle hkind := by
    by_cases hlt : p < stop
    · exact ⟨_, List.mem_cons_self, hle, hlt⟩
    · obtain ⟨run, hmem, hrun⟩ := hruns.covers p h (Std.not_lt.1 hlt) hkind
      exact ⟨run, List.mem_cons_of_mem _ hmem, hrun⟩

variable (hruns : RunsFrom f text.startPos runs)
include hruns

/-- Every run of the text is in the list. -/
theorem mem_iff : (start, stop) ∈ runs ↔ IsRun f start stop := by
  refine ⟨fun hmem => (hruns.isRun _ hmem).2, fun hrun => ?_⟩
  have hne : start ≠ text.endPos := String.Pos.ne_endPos_of_lt hrun.nonempty
  have hkind := hrun.within start hne (Std.le_refl _) hrun.nonempty
  obtain ⟨run, hmem, hle, hlt⟩ := hruns.covers start hne (String.Pos.startPos_le _) hkind
  obtain ⟨rfl, rfl⟩ := hrun.eq_of_touches (hruns.isRun _ hmem).2 (Std.le_of_lt hlt)
    (Std.le_trans hle (Std.le_of_lt hrun.nonempty))
  exact hmem

/-- A character of the kind lies in one run only. -/
theorem existsUnique (h : p ≠ text.endPos) (hkind : f (p.get h) = true) :
    ∃! run, run ∈ runs ∧ run.1 ≤ p ∧ p < run.2 := by
  obtain ⟨run, hmem, hle, hlt⟩ := hruns.covers p h (String.Pos.startPos_le _) hkind
  refine ⟨run, ⟨hmem, hle, hlt⟩, fun other ⟨hother, hle', hlt'⟩ => ?_⟩
  obtain ⟨hstart, hstop⟩ := (hruns.isRun other hother).2.eq_of_touches (hruns.isRun run hmem).2
    (Std.le_of_lt (Std.lt_of_le_of_lt hle' hlt)) (Std.le_of_lt (Std.lt_of_le_of_lt hle hlt'))
  exact Prod.ext hstart hstop

/-- In front of a run there are at least as many bytes as runs. -/
theorem index_le : ∀ {i : Nat} (h : i < runs.length), i ≤ runs[i].1.offset.byteIdx
  | 0, _ => Nat.zero_le _
  | i + 1, h => by
    have hprevious : i ≤ runs[i].1.offset.byteIdx := index_le (Nat.lt_of_succ_lt h)
    have hlt : runs[i].1 < runs[i + 1].1 := Std.lt_trans (hruns.isRun _ (List.getElem_mem _)).2.nonempty
      (List.pairwise_iff_getElem.1 hruns.apart i (i + 1) _ h (Nat.lt_succ_self i))
    exact Nat.lt_of_le_of_lt hprevious hlt

end RunsFrom

end SiteSearch.Text
