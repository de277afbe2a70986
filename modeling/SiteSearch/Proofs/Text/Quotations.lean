import SiteSearch.Proofs.Text.Words

/-!
# Quotation marks of a text

A text leaves a quotation open if it has an odd number of quotation marks (`leavesOpen_eq_false_iff`).
Cutting it at the blanks outside of quotations leaves at most the last piece open, and that one where the
whole is (`forall_leavesOpen_iff`). A piece without quotation marks has no blanks
(`solid_of_mem_unquotedPieces`).

Trimming blanks takes no quotation mark off a text, and joining texts with blanks adds none.
-/

namespace SiteSearch.Text

variable {c : Char} {text piece : List Char} {pieces : List (List Char)}

/-! ## Open quotations -/

/-- Whether a quotation is open behind a text, when one was or was not in front of it. -/
def opensBehind (quoted : Bool) (text : List Char) : Bool :=
  text.foldl (fun quoted c => if c = '"' then !quoted else quoted) quoted

theorem leavesOpen_eq : leavesOpen text = opensBehind false text := rfl

theorem opensBehind_cons (quoted : Bool) (c : Char) (text : List Char) :
    opensBehind quoted (c :: text) = opensBehind (if c = '"' then !quoted else quoted) text := rfl

/-- Each quotation mark opens a quotation or closes one. -/
theorem opensBehind_eq (quoted : Bool) (text : List Char) :
    opensBehind quoted text = (quoted != decide (text.count '"' % 2 = 1)) := by
  induction text generalizing quoted with
  | nil => cases quoted <;> rfl
  | cons c text ih =>
    rw [opensBehind_cons, ih, List.count_cons]
    by_cases hc : c = '"'
    · rcases Nat.mod_two_eq_zero_or_one (text.count '"') with hcount | hcount <;>
        cases quoted <;> simp [hc, hcount, Nat.add_mod]
    · simp [hc]

theorem leavesOpen_eq_false_iff : leavesOpen text = false ↔ text.count '"' % 2 = 0 := by
  rw [leavesOpen_eq, opensBehind_eq]
  rcases Nat.mod_two_eq_zero_or_one (text.count '"') with hcount | hcount <;> simp [hcount]

theorem leavesOpen_append {lead : List Char} (h : '"' ∉ lead) (text : List Char) :
    leavesOpen (lead ++ text) = leavesOpen text := by
  induction lead with
  | nil => rfl
  | cons c lead ih =>
    obtain ⟨hc, hlead⟩ : '"' ≠ c ∧ '"' ∉ lead := by simpa using h
    rw [← ih hlead, leavesOpen_eq, leavesOpen_eq, List.cons_append, opensBehind_cons,
      if_neg (Ne.symm hc)]

/-! ## Pieces -/

/-- What holds of the first piece and of the others, shown along the cut: the end of the text, a blank
where it is cut, and a character that stays in its piece. -/
theorem cutUnquoted_induction {P : Bool → List Char → List Char → List (List Char) → Prop}
    (hend : ∀ quoted, P quoted [] [] [])
    (hblank : ∀ c text first others, isBlank c = true → c ≠ '"' → P false text first others →
      P false (c :: text) [] (first :: others))
    (hkept : ∀ quoted c text first others, (isBlank c = true → quoted = true ∨ c = '"') →
      P (if c = '"' then !quoted else quoted) text first others →
      P quoted (c :: text) (c :: first) others)
    (quoted : Bool) (text : List Char) :
    ∃ first others, cutUnquoted quoted text = first :: others ∧ P quoted text first others := by
  induction text generalizing quoted with
  | nil => exact ⟨[], [], rfl, hend quoted⟩
  | cons c text ih =>
    rw [cutUnquoted]
    split
    · rename_i hc
      obtain ⟨first, others, hcut, h⟩ := ih (!quoted)
      exact ⟨c :: first, others, by rw [hcut, extendFirst],
        hkept quoted c text first others (fun _ => .inr hc) (by rwa [if_pos hc])⟩
    · rename_i hc
      split
      · rename_i hcuts
        obtain ⟨hblanks, rfl⟩ : isBlank c = true ∧ quoted = false := by simpa using hcuts
        obtain ⟨first, others, hcut, h⟩ := ih false
        exact ⟨[], first :: others, by rw [hcut], hblank c text first others hblanks hc h⟩
      · rename_i hstays
        obtain ⟨first, others, hcut, h⟩ := ih quoted
        refine ⟨c :: first, others, by rw [hcut, extendFirst],
          hkept quoted c text first others (fun hblanks => ?_) (by rwa [if_neg hc])⟩
        cases quoted with
        | true => exact .inl rfl
        | false => simp [hblanks] at hstays

/-- A quotation is left open by the last piece if by any. -/
theorem opensBehind_cutUnquoted (quoted : Bool) (text : List Char) :
    ∃ first others, cutUnquoted quoted text = first :: others ∧
      opensBehind quoted text = (opensBehind quoted first || others.any leavesOpen) := by
  refine cutUnquoted_induction
    (P := fun quoted text first others =>
      opensBehind quoted text = (opensBehind quoted first || others.any leavesOpen))
    ?_ ?_ ?_ quoted text
  · exact fun quoted => by simp
  · intro c text first others _ hc h
    rw [opensBehind_cons, if_neg hc, h]
    rfl
  · intro quoted c text first others _ h
    rw [opensBehind_cons, opensBehind_cons, h]

/-- The pieces of a text leave no quotation open where the text does not. -/
theorem forall_leavesOpen_iff :
    (∀ piece ∈ unquotedPieces text, leavesOpen piece = false) ↔ leavesOpen text = false := by
  obtain ⟨first, others, hcut, hopens⟩ := opensBehind_cutUnquoted false text
  have hany : (unquotedPieces text).any leavesOpen = leavesOpen text := by
    rw [leavesOpen_eq, hopens, ← leavesOpen_eq, ← List.any_cons, unquotedPieces, hcut, List.any_filter]
    congr 1
    funext piece
    cases piece <;> simp [leavesOpen]
  rw [← hany]
  simp

/-- A piece has nothing that the text does not have. -/
theorem mem_of_mem_unquotedPieces (hpiece : piece ∈ unquotedPieces text) (hc : c ∈ piece) :
    c ∈ text := by
  obtain ⟨first, others, hcut, hsubset⟩ := cutUnquoted_induction
    (P := fun _ text first others => ∀ piece ∈ first :: others, ∀ c ∈ piece, c ∈ text)
    (by simp) (by grind) (by grind) false text
  rw [unquotedPieces, hcut] at hpiece
  exact hsubset piece (List.mem_filter.1 hpiece).1 c hc

/-- A piece without quotation marks has no blanks. -/
theorem solid_of_mem_unquotedPieces (hpiece : piece ∈ unquotedPieces text) (hplain : '"' ∉ piece) :
    Solid piece := by
  obtain ⟨first, others, hcut, hfirst, hothers⟩ := cutUnquoted_induction
    (P := fun quoted _ first others => (quoted = false → '"' ∉ first → Solid first) ∧
      ∀ piece ∈ others, '"' ∉ piece → Solid piece)
    (by simp [Solid]) (by grind [Solid]) (by grind [Solid]) false text
  rw [unquotedPieces, hcut] at hpiece
  rcases List.mem_cons.1 (List.mem_filter.1 hpiece).1 with rfl | hpiece
  · exact hfirst rfl hplain
  · exact hothers piece hpiece hplain

/-! ## Trimming and joining -/

theorem count_trimStart {p : Char → Bool} (h : p c = false) (text : List Char) :
    (trimStart p text).count c = text.count c := by
  induction text with
  | nil => rfl
  | cons d text ih =>
    rw [trimStart, List.dropWhile_cons]
    split
    · rename_i hd
      have hne : d ≠ c := by
        rintro rfl
        rw [h] at hd
        cases hd
      rw [List.count_cons_of_ne hne]
      exact ih
    · rfl

theorem count_trimEnd {p : Char → Bool} (h : p c = false) (text : List Char) :
    (trimEnd p text).count c = text.count c := by
  have hreverse := count_trimStart h text.reverse
  rw [trimStart, List.count_reverse] at hreverse
  rw [trimEnd, List.count_reverse, hreverse]

theorem count_trim (h : isBlank c = false) (text : List Char) : (trim text).count c = text.count c := by
  rw [trim, count_trimEnd h, count_trimStart h]

/-- What is trimmed off is of a kind. -/
theorem mem_trimmed {p : Char → Bool} (hc : p c = false) (h : c ∈ text) :
    c ∈ trimEnd p (trimStart p text) := by
  rw [← List.count_pos_iff, count_trimEnd hc, count_trimStart hc, List.count_pos_iff]
  exact h

theorem mem_of_mem_trimmed {p : Char → Bool} (h : c ∈ trimEnd p (trimStart p text)) : c ∈ text := by
  rw [trimEnd, List.mem_reverse] at h
  exact (List.dropWhile_sublist p).subset (List.mem_reverse.1 ((List.dropWhile_sublist p).subset h))

/-- Something is left of a text that has more than what is trimmed off. -/
theorem trimmed_ne_nil_iff {p : Char → Bool} :
    trimEnd p (trimStart p text) ≠ [] ↔ ∃ c ∈ text, p c = false := by
  constructor
  · intro h
    cases hstart : trimStart p text with
    | nil =>
      rw [hstart] at h
      exact absurd rfl h
    | cons c rest =>
      have hhead := List.head?_dropWhile_not p text
      rw [trimStart] at hstart
      rw [hstart] at hhead
      refine ⟨c, (List.dropWhile_sublist p).subset (hstart ▸ List.mem_cons_self), hhead⟩
  · rintro ⟨c, hc, hkept⟩
    exact List.ne_nil_of_mem (mem_trimmed hkept hc)

theorem count_joinWith (h : c ≠ ' ') : ∀ pieces : List (List Char),
    (joinWith [' '] pieces).count c = pieces.flatten.count c
  | [] => rfl
  | [piece] => by simp [joinWith]
  | piece :: next :: pieces => by
    rw [joinWith, List.count_append, List.count_append, List.count_cons_of_ne (Ne.symm h), List.count_nil,
      count_joinWith h (next :: pieces), Nat.add_zero]
    simp

theorem mem_joinWith (h : c ∈ joinWith [' '] pieces) : c = ' ' ∨ ∃ piece ∈ pieces, c ∈ piece := by
  induction pieces with
  | nil => cases h
  | cons piece pieces ih =>
    cases pieces with
    | nil => exact .inr ⟨piece, List.mem_cons_self, h⟩
    | cons next pieces =>
      rw [joinWith, List.append_assoc, List.mem_append, List.mem_append, List.mem_singleton] at h
      rcases h with h | rfl | h
      · exact .inr ⟨piece, List.mem_cons_self, h⟩
      · exact .inl rfl
      · rcases ih h with rfl | ⟨other, hother, hc⟩
        · exact .inl rfl
        · exact .inr ⟨other, List.mem_cons_of_mem _ hother, hc⟩

end SiteSearch.Text
