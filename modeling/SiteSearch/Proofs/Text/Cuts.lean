import Mathlib.Data.Nat.Count
import SiteSearch.Proofs.Text.Quotations

/-!
# Where a text is cut

A text is cut at its blanks outside of quotations (`isCut`), and nothing else is lost: the pieces together
are the text without those blanks. Which piece a character comes to depends on the number of cuts in front
of it (`pieceAt_cutUnquoted`), so two characters are parted exactly if there is a cut between them. Leaving
out the empty pieces changes the numbers of the others, but not which characters share one
(`pieceAt_filter_eq_iff`).

`unquotedPieces_exact` says all of this.
-/

namespace SiteSearch.Text

variable {c : Char} {quoted : Bool} {text piece : List Char} {pieces : List (List Char)} {place rank : Nat}

/-! ## Cuts -/

/-- Whether a blank stands at a place and no quotation is open there, when one was or was not open in front
of the text. -/
def isCutFrom (quoted : Bool) (text : List Char) (place : Nat) : Bool :=
  text[place]?.any isBlank && !opensBehind quoted (text.take place)

/-- Whether a blank outside of quotations stands at a place. -/
def isCut (text : List Char) (place : Nat) : Bool :=
  text[place]?.any isBlank && !leavesOpen (text.take place)

theorem isCutFrom_nil : isCutFrom quoted [] place = false := by
  simp [isCutFrom]

theorem isCutFrom_cons_zero : isCutFrom quoted (c :: text) 0 = (isBlank c && !quoted) := by
  simp [isCutFrom, opensBehind]

theorem isCutFrom_cons_succ : isCutFrom quoted (c :: text) (place + 1) =
    isCutFrom (if c = '"' then !quoted else quoted) text place := by
  rw [isCutFrom, isCutFrom, List.getElem?_cons_succ, List.take_succ_cons, opensBehind_cons]

/-- The text without its blanks outside of quotations. -/
def uncut (text : List Char) : List Char :=
  ((List.range text.length).filter (!isCut text ·)).filterMap (text[·]?)

/-- How many characters in front of a place are no cuts. -/
def keptBefore (text : List Char) (place : Nat) : Nat :=
  Nat.count (isCut text · = false) place

/-- The number of the piece that has the character with a rank, of all characters of the pieces. -/
def pieceAt : (pieces : List (List Char)) → (rank : Nat) → Nat
  | [], _ => 0
  | piece :: pieces, rank =>
    if rank < piece.length then 0 else pieceAt pieces (rank - piece.length) + 1

theorem pieceAt_nil_cons : pieceAt ([] :: pieces) rank = pieceAt pieces rank + 1 := by
  simp [pieceAt]

theorem pieceAt_cons_succ :
    pieceAt ((c :: piece) :: pieces) (rank + 1) = pieceAt (piece :: pieces) rank := by
  simp [pieceAt]

/-- Without the empty pieces the same characters share a piece. -/
theorem pieceAt_filter_eq_iff {rank' : Nat} :
    pieceAt (pieces.filter (!·.isEmpty)) rank = pieceAt (pieces.filter (!·.isEmpty)) rank' ↔
      pieceAt pieces rank = pieceAt pieces rank' := by
  induction pieces generalizing rank rank' with
  | nil => rfl
  | cons piece pieces ih =>
    cases piece with
    | nil => simp [pieceAt_nil_cons, ih]
    | cons c piece =>
      rw [List.filter_cons_of_pos (by rfl)]
      simp only [pieceAt]
      split <;> split <;> simp [ih]

/-! ## Along the cut -/

/-- The first character is cut away, or it is the first one of the first piece. -/
theorem exists_cutUnquoted_cons (quoted : Bool) (c : Char) (text : List Char) : ∃ first others,
    cutUnquoted (if c = '"' then !quoted else quoted) text = first :: others ∧
      cutUnquoted quoted (c :: text) =
        if isCutFrom quoted (c :: text) 0 then [] :: first :: others else (c :: first) :: others := by
  obtain ⟨first, others, hrest, -⟩ :=
    opensBehind_cutUnquoted (if c = '"' then !quoted else quoted) text
  refine ⟨first, others, hrest, ?_⟩
  rw [cutUnquoted, isCutFrom_cons_zero]
  split
  · rename_i hc
    have hmark : isBlank '"' = false := by decide
    rw [if_pos hc] at hrest
    simp [hc, hmark, hrest, extendFirst]
  · rename_i hc
    rw [if_neg hc] at hrest
    rw [hrest]
    rfl

/-- The pieces together are the text without the cuts. -/
theorem flatten_cutUnquoted (quoted : Bool) (text : List Char) : (cutUnquoted quoted text).flatten =
    ((List.range text.length).filter (!isCutFrom quoted text ·)).filterMap (text[·]?) := by
  induction text generalizing quoted with
  | nil => rfl
  | cons c text ih =>
    obtain ⟨first, others, hrest, hcut⟩ := exists_cutUnquoted_cons quoted c text
    have hih := ih (if c = '"' then !quoted else quoted)
    rw [hrest] at hih
    rw [hcut, List.length_cons, List.range_succ_eq_map, List.filter_cons, List.filter_map]
    simp only [Function.comp_def, isCutFrom_cons_succ]
    cases hfirst : isCutFrom quoted (c :: text) 0 with
    | true => simpa [List.filterMap_map, Function.comp_def] using hih
    | false => simpa [List.filterMap_map, Function.comp_def] using hih

/-- A character comes to the piece behind as many cuts as stand in front of it. -/
theorem pieceAt_cutUnquoted (hplace : place < text.length) (h : isCutFrom quoted text place = false) :
    pieceAt (cutUnquoted quoted text) (Nat.count (isCutFrom quoted text · = false) place) =
      Nat.count (isCutFrom quoted text · = true) place := by
  induction text generalizing quoted place with
  | nil => cases hplace
  | cons c text ih =>
    obtain ⟨first, others, hrest, hcut⟩ := exists_cutUnquoted_cons quoted c text
    rw [hcut]
    cases place with
    | zero => simp [h, pieceAt]
    | succ place =>
      rw [isCutFrom_cons_succ] at h
      have hih := ih (Nat.lt_of_succ_lt_succ hplace) h
      rw [hrest] at hih
      rw [Nat.count_succ', Nat.count_succ']
      simp only [isCutFrom_cons_succ]
      cases hfirst : isCutFrom quoted (c :: text) 0 with
      | true => simpa [pieceAt_nil_cons] using hih
      | false => simpa [pieceAt_cons_succ] using hih

/-- The first piece has no cut, and neither has any other, where no quotation is open in front of it. -/
theorem exists_cutUnquoted_uncut (quoted : Bool) (text : List Char) : ∃ first others,
    cutUnquoted quoted text = first :: others ∧ (∀ place, isCutFrom quoted first place = false) ∧
      ∀ piece ∈ others, ∀ place, isCut piece place = false := by
  refine cutUnquoted_induction
    (P := fun quoted _ first others => (∀ place, isCutFrom quoted first place = false) ∧
      ∀ piece ∈ others, ∀ place, isCut piece place = false) ?_ ?_ ?_ quoted text
  · exact fun quoted => ⟨fun place => isCutFrom_nil, by simp⟩
  · intro c text first others _ _ h
    exact ⟨fun place => isCutFrom_nil, List.forall_mem_cons.2 h⟩
  · intro quoted c text first others hkept h
    refine ⟨fun place => ?_, h.2⟩
    cases place with
    | zero =>
      rw [isCutFrom_cons_zero]
      cases hblank : isBlank c with
      | false => rfl
      | true =>
        rcases hkept hblank with rfl | rfl
        · rfl
        · exact absurd hblank (by decide)
    | succ place => rw [isCutFrom_cons_succ, h.1]

/-- No piece has a blank outside of its quotations. -/
theorem isCut_of_mem_unquotedPieces (h : piece ∈ unquotedPieces text) (place : Nat) :
    isCut piece place = false := by
  obtain ⟨first, others, hcut, hfirst, hothers⟩ := exists_cutUnquoted_uncut false text
  rw [unquotedPieces, hcut] at h
  rcases List.mem_cons.1 (List.mem_filter.1 h).1 with rfl | hmem
  · exact hfirst place
  · exact hothers piece hmem place

theorem count_ne_iff {p : Nat → Bool} {i j : Nat} (h : i < j) (hi : p i = false) :
    Nat.count (p · = true) i ≠ Nat.count (p · = true) j ↔ ∃ k, i < k ∧ k < j ∧ p k = true := by
  obtain ⟨d, rfl⟩ := Nat.exists_eq_add_of_lt h
  rw [Nat.add_assoc, Nat.count_add, Ne, Nat.left_eq_add, ← Ne, Nat.count_ne_iff_exists]
  constructor
  · rintro ⟨k, hk, hp⟩
    cases k with
    | zero => simp [hi] at hp
    | succ k => exact ⟨i + (k + 1), by omega, by omega, hp⟩
  · rintro ⟨k, hik, hkj, hp⟩
    obtain ⟨m, rfl⟩ := Nat.exists_eq_add_of_lt hik
    exact ⟨m + 1, by omega, hp⟩

/-- Characters that are kept come to different pieces exactly if a cut stands between them. -/
theorem parted_iff {i j : Nat} (hij : i < j) (hj : j < text.length) (hi : isCut text i = false)
    (hkept : isCut text j = false) :
    pieceAt (unquotedPieces text) (keptBefore text i) ≠ pieceAt (unquotedPieces text) (keptBefore text j) ↔
      ∃ k, i < k ∧ k < j ∧ isCut text k = true := by
  have hpiece : ∀ k < text.length, isCut text k = false →
      pieceAt (cutUnquoted false text) (keptBefore text k) = Nat.count (isCut text · = true) k :=
    fun k hk hkept => pieceAt_cutUnquoted hk hkept
  rw [unquotedPieces, Ne, pieceAt_filter_eq_iff, hpiece i (hij.trans hj) hi, hpiece j hj hkept]
  exact count_ne_iff hij hi

/-- Cutting a text loses nothing but the blanks outside of quotations: the pieces together are the text
without them, no piece is empty or has such a blank, and two characters that are kept come to different
pieces exactly if such a blank stands between them. -/
theorem unquotedPieces_exact (text : List Char) :
    (unquotedPieces text).flatten = uncut text ∧
      (∀ piece ∈ unquotedPieces text, piece ≠ [] ∧ ∀ place, isCut piece place = false) ∧
      ∀ i j, i < j → j < text.length → isCut text i = false → isCut text j = false →
        (pieceAt (unquotedPieces text) (keptBefore text i) ≠
            pieceAt (unquotedPieces text) (keptBefore text j) ↔
          ∃ k, i < k ∧ k < j ∧ isCut text k = true) := by
  refine ⟨?_, fun piece hpiece => ⟨?_, isCut_of_mem_unquotedPieces hpiece⟩, fun i j => parted_iff⟩
  · rw [unquotedPieces, List.flatten_filter_not_isEmpty, flatten_cutUnquoted]
    rfl
  · simpa using (List.mem_filter.1 hpiece).2

/-- The blank between the quotation marks is kept, so its neighbours stay together. -/
theorem unquotedPieces_exact_of_phrase :
    let text := "a \"b c\"".toList
    unquotedPieces text = ["a".toList, "\"b c\"".toList] ∧ uncut text = "a\"b c\"".toList ∧
      isCut text 1 = true ∧ isCut text 4 = false ∧
      pieceAt (unquotedPieces text) (keptBefore text 0) ≠ pieceAt (unquotedPieces text) (keptBefore text 3) ∧
      pieceAt (unquotedPieces text) (keptBefore text 3) = pieceAt (unquotedPieces text) (keptBefore text 5) := by
  intro text
  obtain ⟨hflatten, -, hparted⟩ := unquotedPieces_exact text
  refine ⟨by decide, hflatten ▸ by decide, by decide, by decide, ?_, ?_⟩
  · exact (hparted 0 3 (by decide) (by decide) (by decide) (by decide)).2
      ⟨1, by decide, by decide, by decide⟩
  · refine not_not.1 ((hparted 3 5 (by decide) (by decide) (by decide) (by decide)).not.2 ?_)
    rintro ⟨k, hlow, hhigh, hcut⟩
    obtain rfl : k = 4 := by omega
    exact absurd hcut (by decide)

end SiteSearch.Text
