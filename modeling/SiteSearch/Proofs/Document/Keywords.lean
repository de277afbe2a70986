import SiteSearch.Content.Element
import SiteSearch.Proofs.Text.LetterCase

/-!
# The words of keywords

The keywords of a text are its runs of letters and digits, each lowercased letter by letter
(`Text.mem_words_keywords`). A search lowercases what it looks for as a whole. Both come to the same
unless the text has a capital sigma at the end of a word (`Text.ByLetter`).
-/

namespace SiteSearch

namespace Text

variable {text run word before behind : List Char}

/-! ## Runs -/

/-- A run of letters and digits of a text that no letter or digit stands next to. -/
structure IsRunOf (run text : List Char) : Prop where
  nonempty : run ≠ []
  letters : ∀ c ∈ run, isAlphanumeric c = true
  maximal : ∃ before behind, text = before ++ (run ++ behind) ∧
    (∀ c ∈ before.getLast?, isAlphanumeric c = false) ∧
    ∀ c ∈ behind.head?, isAlphanumeric c = false

/-- Lowercasing a text as a whole is lowercasing it letter by letter. -/
def ByLetter (text : List Char) : Prop :=
  lowercase text = text.flatMap lowercaseChar

instance (text : List Char) : Decidable (ByLetter text) :=
  inferInstanceAs (Decidable (_ = _))

theorem byLetter_of_not_mem (h : capitalSigma ∉ text) : ByLetter text := by
  have hafter : ∀ text before : List Char, capitalSigma ∉ text →
      lowercaseAfter before text = text.flatMap lowercaseChar := by
    intro text
    induction text with
    | nil => exact fun _ _ => rfl
    | cons c text ih =>
      intro before hnot
      have hc : c ≠ capitalSigma := fun heq => hnot (by simp [heq])
      rw [lowercaseAfter, if_neg hc, ih (c :: before) fun hmem => hnot (List.mem_cons_of_mem _ hmem),
        List.flatMap_cons]
  exact hafter text [] h

/-- Letters and digits in lowercase have no blanks among them. -/
theorem solid_lowercaseChars (h : ∀ c ∈ run, isAlphanumeric c = true) :
    Solid (run.flatMap lowercaseChar) := by
  intro d hd
  obtain ⟨c, hc, hd⟩ := List.mem_flatMap.1 hd
  refine Bool.eq_false_iff.2 fun hblank => ?_
  have hsame : d = c := eq_of_mem_lowercaseChar (by decide +kernel) (by decide) hd hblank
  rw [hsame, isBlank_of_isAlphanumeric (h c hc)] at hblank
  cases hblank

theorem lowercaseChars_ne_nil (h : run ≠ []) : run.flatMap lowercaseChar ≠ [] := by
  obtain ⟨c, rest, rfl⟩ := List.exists_cons_of_ne_nil h
  simp [lowercaseChar_ne_nil]

/-- A text without blanks is a word of what it stands in between blanks. -/
theorem mem_words_between (hsolid : Solid word) (hne : word ≠ [])
    (hbefore : before = [] ∨ ∃ first, before = first ++ [' '])
    (hbehind : behind = [] ∨ ∃ rest, behind = ' ' :: rest) :
    word ∈ words (before ++ (word ++ behind)) := by
  have hblank : isBlank ' ' = true := by decide
  have hfront : word ∈ words (word ++ behind) := by
    obtain rfl | ⟨rest, rfl⟩ := hbehind
    · simp [words_of_solid hsolid hne]
    · simp [words_append_blank hblank, words_of_solid hsolid hne]
  obtain rfl | ⟨first, rfl⟩ := hbefore
  · exact hfront
  · rw [List.append_assoc, List.singleton_append, words_append_blank hblank]
    exact List.mem_append_right _ hfront

/-! ## Keywords -/

theorem keywordText_append : keywordText (before ++ behind) = keywordText before ++ keywordText behind :=
  List.flatMap_append

theorem keywordText_of_letters (h : ∀ c ∈ run, isAlphanumeric c = true) :
    keywordText run = run.flatMap lowercaseChar := by
  rw [keywordText, List.flatMap_def, List.flatMap_def]
  exact congrArg List.flatten (List.map_congr_left fun c hc => if_pos (h c hc))

/-- A run of letters and digits is a word of the keywords. -/
theorem IsRunOf.mem_words_keywordText (h : IsRunOf run text) :
    run.flatMap lowercaseChar ∈ words (keywordText text) := by
  obtain ⟨before, behind, rfl, hbefore, hbehind⟩ := h.maximal
  rw [keywordText_append, keywordText_append, keywordText_of_letters h.letters]
  refine mem_words_between (solid_lowercaseChars h.letters) (lowercaseChars_ne_nil h.nonempty) ?_ ?_
  · obtain rfl | ⟨first, c, rfl⟩ := List.eq_nil_or_concat before
    · exact .inl rfl
    · have hc : isAlphanumeric c = false := hbefore c (by simp)
      exact .inr ⟨keywordText first, by simp [keywordText, hc]⟩
  · cases behind with
    | nil => exact .inl rfl
    | cons c rest =>
      have hc : isAlphanumeric c = false := hbehind c (by simp)
      exact .inr ⟨keywordText rest, by simp [keywordText, hc]⟩

/-- Lowercasing does not change keywords, so a run of letters and digits is among their words. -/
theorem IsRunOf.mem_words_keywords {text : String} (h : IsRunOf run text.toList) :
    run.flatMap lowercaseChar ∈ words (lowercase (keywords text).toList) := by
  have hsmall : lowercase (run.flatMap lowercaseChar) = run.flatMap lowercaseChar := by
    refine lowercase_of_fixed fun d hd => ?_
    obtain ⟨c, -, hd⟩ := List.mem_flatMap.1 hd
    exact lowercaseChar_of_mem hd
  rw [keywords, String.toList_ofList, words_lowercase, words_joinWith_words]
  exact List.mem_map.2 ⟨_, h.mem_words_keywordText, hsmall⟩

end Text

end SiteSearch
