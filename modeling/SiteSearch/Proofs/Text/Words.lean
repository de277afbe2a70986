import SiteSearch.Text.Quoted

/-!
# Words and pieces of a text

A blank is where a text falls into two: the words of the whole are those of what stands before it and
of what stands behind it (`words_append_blank`). The words of joined texts follow from this, and so
does what a single word is.

A text that closes every quotation it opens and has blanks only inside of quotations stays in one
piece (`StaysWhole`). Such texts, joined with blanks, are cut where they were joined
(`unquotedPieces_joinWith`).
-/

namespace SiteSearch.Text

variable {p : Char → Bool} {c : Char} {text rest piece w : List Char} {pieces : List (List Char)}

/-! ## Words -/

theorem splitAt_append (hc : p c = true) :
    ∀ text : List Char, splitAt p (text ++ c :: rest) = splitAt p text ++ splitAt p rest
  | [] => by
    obtain ⟨first, others, hrest⟩ := List.exists_cons_of_ne_nil (splitAt_ne_nil p rest)
    simp [splitAt, hrest, hc]
  | d :: text => by
    obtain ⟨first, others, htext⟩ := List.exists_cons_of_ne_nil (splitAt_ne_nil p text)
    have ih := splitAt_append hc text
    rw [htext] at ih
    by_cases hd : p d = true <;> simp [splitAt, ih, htext, hd]

theorem splitAt_of_none (h : ∀ c ∈ text, p c = false) : splitAt p text = [text] := by
  induction text with
  | nil => rfl
  | cons c text ih =>
    have hc : p c = false := h c List.mem_cons_self
    simp [splitAt, ih fun d hd => h d (List.mem_cons_of_mem _ hd), hc]

/-- No piece has a character that was split at. -/
theorem not_of_mem_splitAt (h : piece ∈ splitAt p text) : ∀ c ∈ piece, p c = false := by
  induction text generalizing piece with
  | nil =>
    rw [splitAt, List.mem_singleton] at h
    simp [h]
  | cons d text ih =>
    obtain ⟨first, others, htext⟩ := List.exists_cons_of_ne_nil (splitAt_ne_nil p text)
    rw [htext] at ih
    simp only [splitAt, htext] at h
    split at h
    · rcases List.mem_cons.1 h with rfl | h
      · simp
      · exact ih h
    · rename_i hd
      rcases List.mem_cons.1 h with rfl | h
      · intro c hc
        rcases List.mem_cons.1 hc with rfl | hc
        · simpa using hd
        · exact ih List.mem_cons_self c hc
      · exact ih (List.mem_cons_of_mem _ h)

/-- A text without blanks. -/
def Solid (text : List Char) : Prop := ∀ c ∈ text, isBlank c = false

theorem words_append_blank (hc : isBlank c = true) :
    words (text ++ c :: rest) = words text ++ words rest := by
  rw [words, splitAt_append hc, List.filter_append, words, words]

/-- A text without blanks is one word, unless it is empty. -/
theorem words_of_solid (h : Solid text) (hne : text ≠ []) : words text = [text] := by
  rw [words, splitAt_of_none h]
  simp [hne]

theorem mem_words (h : w ∈ words text) : w ≠ [] ∧ Solid w := by
  obtain ⟨hpiece, hne⟩ := List.mem_filter.1 h
  exact ⟨by simpa using hne, not_of_mem_splitAt hpiece⟩

/-- The words of joined texts are those of each text. -/
theorem words_joinWith : ∀ pieces : List (List Char),
    words (joinWith [' '] pieces) = pieces.flatMap words
  | [] => rfl
  | [piece] => by simp [joinWith]
  | piece :: next :: pieces => by
    rw [joinWith, List.append_assoc, List.singleton_append, words_append_blank (by decide),
      words_joinWith (next :: pieces), ← List.flatMap_cons]

/-- Words that are joined are found again. -/
theorem words_joinWith_words (text : List Char) : words (joinWith [' '] (words text)) = words text := by
  have hsingle : (words text).map words = (words text).map fun w => [w] :=
    List.map_congr_left fun w hw => words_of_solid (mem_words hw).2 (mem_words hw).1
  rw [words_joinWith, List.flatMap_def, hsingle, ← List.flatMap_def, List.flatMap_singleton']

/-! ## Ends -/

theorem trimStart_of_none (h : ∀ c ∈ text, p c = false) : trimStart p text = text := by
  cases text with
  | nil => rfl
  | cons c text => simp [trimStart, h c List.mem_cons_self]

theorem trimEnd_of_none (h : ∀ c ∈ text, p c = false) : trimEnd p text = text := by
  have hreverse := trimStart_of_none fun c hc => h c (List.mem_reverse.1 hc)
  rw [trimStart] at hreverse
  rw [trimEnd, hreverse, List.reverse_reverse]

theorem Solid.trim (h : Solid text) : Text.trim text = text := by
  rw [Text.trim, trimStart_of_none h, trimEnd_of_none h]

/-- What is put around a text is taken off again. -/
theorem trim_enclosed (hc : p c = true) (h : ∀ d ∈ text, p d = false) :
    trimEnd p (trimStart p (c :: text ++ [c])) = text := by
  cases text with
  | nil => simp [trimStart, trimEnd, hc]
  | cons d text =>
    have hend : trimEnd p (d :: text ++ [c]) = trimEnd p (d :: text) := by
      simp [trimEnd, hc]
    have hd : p d = false := h d List.mem_cons_self
    rw [trimStart, List.cons_append, List.dropWhile_cons_of_pos hc, List.cons_append,
      List.dropWhile_cons_of_neg (by simp [hd]), ← List.cons_append, hend, trimEnd_of_none h]

/-! ## Pieces -/

/-- Behind an open quotation or none, the text has no blank outside of quotations and leaves no
quotation open. -/
def StaysWhole : (quoted : Bool) → List Char → Prop
  | quoted, [] => quoted = false
  | quoted, c :: rest =>
    if c = '"' then StaysWhole (!quoted) rest
    else (isBlank c = true → quoted = true) ∧ StaysWhole quoted rest

theorem Solid.staysWhole (h : Solid text) (hplain : ∀ c ∈ text, c ≠ '"') :
    StaysWhole false text := by
  induction text with
  | nil => rfl
  | cons c text ih =>
    have hc : isBlank c = false := h c List.mem_cons_self
    rw [StaysWhole, if_neg (hplain c List.mem_cons_self)]
    exact ⟨by simp [hc], ih (fun d hd => h d (List.mem_cons_of_mem _ hd))
      fun d hd => hplain d (List.mem_cons_of_mem _ hd)⟩

/-- What stays whole by itself stays whole behind what does. -/
theorem StaysWhole.append : ∀ {quoted : Bool} {text : List Char}, StaysWhole quoted text →
    StaysWhole false rest → StaysWhole quoted (text ++ rest)
  | quoted, [], h, hrest => by
    obtain rfl : quoted = false := h
    exact hrest
  | quoted, c :: text, h, hrest => by
    rw [StaysWhole] at h
    rw [List.cons_append, StaysWhole]
    split
    · rename_i hc
      rw [if_pos hc] at h
      exact h.append hrest
    · rename_i hc
      rw [if_neg hc] at h
      exact ⟨h.1, h.2.append hrest⟩

/-- A quotation stays whole, whatever blanks it has. -/
theorem staysWhole_quoted (hplain : ∀ c ∈ text, c ≠ '"') : StaysWhole true (text ++ ['"']) := by
  induction text with
  | nil => simp [StaysWhole]
  | cons c text ih =>
    rw [List.cons_append, StaysWhole, if_neg (hplain c List.mem_cons_self)]
    exact ⟨fun _ => rfl, ih fun d hd => hplain d (List.mem_cons_of_mem _ hd)⟩

theorem StaysWhole.leavesOpen : ∀ {quoted : Bool} {text : List Char}, StaysWhole quoted text →
    text.foldl (fun quoted c => if c = '"' then !quoted else quoted) quoted = false
  | quoted, [], h => h
  | quoted, c :: text, h => by
    rw [StaysWhole] at h
    rw [List.foldl_cons]
    split
    · rename_i hc
      rw [if_pos hc] at h
      exact h.leavesOpen
    · rename_i hc
      rw [if_neg hc] at h
      exact h.2.leavesOpen

/-- A text that stays whole is cut off at the blank behind it. -/
theorem StaysWhole.cut_append_blank (hc : isBlank c = true) : ∀ {quoted : Bool} {text : List Char},
    StaysWhole quoted text →
      cutUnquoted quoted (text ++ c :: rest) = text :: cutUnquoted false rest
  | quoted, [], h => by
    obtain rfl : quoted = false := h
    have hquote : c ≠ '"' := by
      rintro rfl
      exact absurd hc (by decide)
    simp [cutUnquoted, hquote, hc]
  | quoted, d :: text, h => by
    rw [StaysWhole] at h
    rw [List.cons_append, cutUnquoted]
    split
    · rename_i hd
      rw [if_pos hd] at h
      rw [h.cut_append_blank hc, extendFirst]
    · rename_i hd
      rw [if_neg hd] at h
      have hkept : ¬ (isBlank d && !quoted) = true := by
        cases quoted <;> simp_all
      rw [if_neg hkept, h.2.cut_append_blank hc, extendFirst]

theorem StaysWhole.cut : ∀ {quoted : Bool} {text : List Char}, StaysWhole quoted text →
    cutUnquoted quoted text = [text]
  | _, [], _ => rfl
  | quoted, d :: text, h => by
    rw [StaysWhole] at h
    rw [cutUnquoted]
    split
    · rename_i hd
      rw [if_pos hd] at h
      rw [h.cut, extendFirst]
    · rename_i hd
      rw [if_neg hd] at h
      have hkept : ¬ (isBlank d && !quoted) = true := by
        cases quoted <;> simp_all
      rw [if_neg hkept, h.2.cut, extendFirst]

/-- Pieces that are joined are found again. -/
theorem unquotedPieces_joinWith : ∀ {pieces : List (List Char)},
    (∀ piece ∈ pieces, piece ≠ [] ∧ StaysWhole false piece) →
      unquotedPieces (joinWith [' '] pieces) = pieces
  | [], _ => rfl
  | [piece], h => by
    obtain ⟨hne, hwhole⟩ := h piece List.mem_cons_self
    rw [joinWith, unquotedPieces, hwhole.cut]
    simp [hne]
  | piece :: next :: pieces, h => by
    obtain ⟨hne, hwhole⟩ := h piece List.mem_cons_self
    have ih : unquotedPieces (joinWith [' '] (next :: pieces)) = next :: pieces :=
      unquotedPieces_joinWith fun other hother => h other (List.mem_cons_of_mem _ hother)
    rw [unquotedPieces] at ih
    rw [joinWith, List.append_assoc, List.singleton_append, unquotedPieces,
      hwhole.cut_append_blank (by decide), List.filter_cons_of_pos (by simpa using hne), ih]

end SiteSearch.Text
