import Mathlib.Data.List.Chain
import SiteSearch.Proofs.Document.Keywords
import SiteSearch.Proofs.Text.Quotations

/-!
# Keywords of keywords

Keywords are words of letters and digits with one blank between each two (`Text.tidy_joinWith`), and their
keywords are themselves: lowercasing leads from letters to letters, and what it leads to it leaves alone.
There is one exception. The dotted capital I becomes a small i and a mark, the dot above it, and marks are
neither letters nor digits, so that the next time a blank takes its place. `keywords_settled_iff` says that
nothing else can happen.
-/

namespace SiteSearch

namespace Text

variable {c d : Char} {text : List Char}

/-! ## Small letters are letters -/

/-- Whether one of the ranges has all codes from one to another. -/
def CodeRanges.covers : CodeRanges → (first last : Nat) → Bool
  | [], _, _ => false
  | (lo, hi) :: ranges, first, last =>
    Nat.ble lo first && (Nat.ble last hi || covers ranges first last)

theorem CodeRanges.mem_of_covers {code first last : Nat} (hfirst : first ≤ code) (hlast : code ≤ last) :
    ∀ {ranges : CodeRanges}, ranges.covers first last = true → ranges.mem code = true
  | (lo, hi) :: ranges, h => by
    rw [covers, Bool.and_eq_true, Bool.or_eq_true, Nat.ble_eq, Nat.ble_eq] at h
    obtain ⟨hlo, h⟩ := h
    rw [mem, if_neg (by omega), Bool.or_eq_true, decide_eq_true_eq]
    rcases h with hhi | hrest
    · exact .inl (by omega)
    · exact .inr (mem_of_covers hfirst hlast hrest)

/-- The dot above that the dotted capital I leaves behind its small letter. -/
def dotAbove : Char := Char.ofNat 0x307

theorem lowercaseChar_dottedCapitalI : lowercaseChar dottedCapitalI = ['i', dotAbove] := by decide +kernel

theorem isAlphanumeric_dotAbove : isAlphanumeric dotAbove = false := by decide +kernel

theorem isAlphanumeric_blank : isAlphanumeric ' ' = false := by decide +kernel

/-- A letter or digit in lowercase is one again, unless it is the dotted capital I. -/
theorem isAlphanumeric_of_mem_lowercaseChar (hc : isAlphanumeric c = true) (hdot : c ≠ dottedCapitalI)
    (h : d ∈ lowercaseChar c) : isAlphanumeric d = true := by
  rcases lowercaseChar_cases c with hsame | heq | ⟨small, hsmall, -, r, hr, hfirst, hlast⟩
  · obtain rfl : d = c := by simpa [hsame] using h
    exact hc
  · exact absurd heq hdot
  · obtain rfl : d = small := by simpa [hsmall] using h
    have hletters : (smallRanges.all fun r => alphabeticRanges.covers r.1 r.2) = true := by decide +kernel
    exact Bool.or_eq_true_iff.2
      (.inl (CodeRanges.mem_of_covers hfirst hlast (List.all_eq_true.1 hletters r hr)))

/-- The dot above is made of the dotted capital I only. -/
theorem dotAbove_mem_lowercaseChar_iff (hc : isAlphanumeric c = true) :
    dotAbove ∈ lowercaseChar c ↔ c = dottedCapitalI := by
  constructor
  · intro h
    by_contra hdot
    exact absurd (isAlphanumeric_of_mem_lowercaseChar hc hdot h) (by simp [isAlphanumeric_dotAbove])
  · rintro rfl
    simp [lowercaseChar_dottedCapitalI]

/-! ## Words one blank apart -/

/-- No blank stands at either end of the text, and no two stand side by side. -/
structure Tidy (text : List Char) : Prop where
  front : text.head? ≠ some ' '
  back : text.getLast? ≠ some ' '
  single : text.IsChain fun c d => c ≠ ' ' ∨ d ≠ ' '

theorem tidy_of_solid (h : Solid text) : Tidy text := by
  have hnone : ' ' ∉ text := fun hmem => absurd (h ' ' hmem) (by decide)
  exact ⟨fun hc => hnone (List.mem_of_head? hc), fun hc => hnone (List.mem_of_getLast? hc),
    List.Pairwise.isChain (List.pairwise_of_forall_mem_list fun c hc _ _ =>
      .inl fun heq => hnone (heq ▸ hc))⟩

theorem joinWith_ne_nil {piece : List Char} (h : piece ≠ []) (separator : List Char)
    (pieces : List (List Char)) : joinWith separator (piece :: pieces) ≠ [] := by
  cases pieces with
  | nil => exact h
  | cons next pieces => simp [joinWith, h]

/-- Words that are joined make a tidy text. -/
theorem tidy_joinWith : ∀ {pieces : List (List Char)}, (∀ piece ∈ pieces, piece ≠ [] ∧ Solid piece) →
    Tidy (joinWith [' '] pieces)
  | [], _ => ⟨by simp [joinWith], by simp [joinWith], by simp [joinWith]⟩
  | [piece], h => tidy_of_solid (h piece List.mem_cons_self).2
  | piece :: next :: pieces, h => by
    obtain ⟨⟨hne, hsolid⟩, hrest⟩ := List.forall_mem_cons.1 h
    have hfirst := tidy_of_solid hsolid
    have hothers := tidy_joinWith hrest
    have hjoined := joinWith_ne_nil (hrest next List.mem_cons_self).1 [' '] pieces
    rw [joinWith, List.append_assoc, List.singleton_append]
    refine ⟨?_, ?_, ?_⟩
    · rw [List.head?_append_of_ne_nil _ hne]
      exact hfirst.front
    · rw [List.getLast?_append_of_ne_nil _ (by simp), List.getLast?_cons_of_ne_nil hjoined]
      exact hothers.back
    · rw [List.isChain_append, List.isChain_cons]
      refine ⟨hfirst.single, ⟨fun d hd => .inr fun heq => ?_, hothers.single⟩, fun c hc d _ => .inl fun heq => ?_⟩
      · exact hothers.front (heq ▸ hd)
      · exact hfirst.back (heq ▸ hc)

/-! ## Characters of words -/

theorem flatten_splitAt (p : Char → Bool) : ∀ text : List Char,
    (splitAt p text).flatten = text.filter (!p ·)
  | [] => rfl
  | c :: text => by
    obtain ⟨first, others, htext⟩ := List.exists_cons_of_ne_nil (splitAt_ne_nil p text)
    have ih := flatten_splitAt p text
    rw [htext] at ih
    by_cases hc : p c = true <;> simp_all [splitAt]

/-- Nothing but blanks is lost between words. -/
theorem flatten_words (text : List Char) : (words text).flatten = text.filter (!isBlank ·) := by
  rw [words, List.flatten_filter_not_isEmpty, flatten_splitAt]

/-- What is not blank is found in the joined words if it is found in the text. -/
theorem mem_joinWith_words_iff (hc : isBlank c = false) :
    c ∈ joinWith [' '] (words text) ↔ c ∈ text := by
  have hne : c ≠ ' ' := by
    rintro rfl
    exact absurd hc (by decide)
  rw [← List.count_pos_iff, count_joinWith hne, flatten_words, List.count_pos_iff, List.mem_filter]
  simp [hc]

end Text

/-! ## Keywords -/

open Text

variable {d : Char} {text : String}

theorem toList_keywords (text : String) :
    (keywords text).toList = joinWith [' '] (words (keywordText text.toList)) :=
  String.toList_ofList

/-- Where a character of keywords comes from. -/
theorem mem_keywords (h : d ∈ (keywords text).toList) :
    d = ' ' ∨ ∃ c ∈ text.toList, isAlphanumeric c = true ∧ d ∈ lowercaseChar c := by
  rw [toList_keywords] at h
  rcases mem_joinWith h with hd | ⟨word, hword, hd⟩
  · exact .inl hd
  · have hmem : d ∈ (words (keywordText text.toList)).flatten := List.mem_flatten.2 ⟨word, hword, hd⟩
    rw [flatten_words] at hmem
    obtain ⟨c, hc, hsmall⟩ := List.mem_flatMap.1 (List.mem_filter.1 hmem).1
    split at hsmall
    · rename_i hletter
      exact .inr ⟨c, hc, hletter, hsmall⟩
    · exact .inl (List.mem_singleton.1 hsmall)

/-- The dot above is among the keywords exactly where the dotted capital I was in the text. -/
theorem dotAbove_mem_keywords_iff (text : String) :
    dotAbove ∈ (keywords text).toList ↔ dottedCapitalI ∈ text.toList := by
  rw [toList_keywords, mem_joinWith_words_iff (by decide +kernel), keywordText, List.mem_flatMap]
  constructor
  · rintro ⟨c, hc, hdot⟩
    split at hdot
    · rename_i hletter
      rwa [← (dotAbove_mem_lowercaseChar_iff hletter).1 hdot]
    · exact absurd (List.mem_singleton.1 hdot) (by decide)
  · intro h
    have hletter : isAlphanumeric dottedCapitalI = true := by decide +kernel
    exact ⟨dottedCapitalI, h, by simp [hletter, lowercaseChar_dottedCapitalI]⟩

/-- A dotted capital I is not among keywords. -/
theorem dottedCapitalI_not_mem_keywords (text : String) : dottedCapitalI ∉ (keywords text).toList := by
  intro h
  rcases mem_keywords h with hblank | ⟨c, -, -, hsmall⟩
  · exact absurd hblank (by decide)
  · exact absurd (lowercaseChar_of_mem hsmall) (by decide +kernel)

/-- The characters of keywords of a text without the dotted capital I. -/
theorem isAlphanumeric_of_mem_keywords (hdot : dottedCapitalI ∉ text.toList)
    (h : d ∈ (keywords text).toList) : isAlphanumeric d = true ∨ d = ' ' := by
  rcases mem_keywords h with hblank | ⟨c, hc, hletter, hsmall⟩
  · exact .inr hblank
  · refine .inl (isAlphanumeric_of_mem_lowercaseChar hletter (fun heq => hdot ?_) hsmall)
    exact heq ▸ hc

/-- A text of small letters, digits and blanks is left as it is. -/
theorem keywordText_of_small {text : List Char}
    (h : ∀ c ∈ text, (isAlphanumeric c = true ∨ c = ' ') ∧ lowercaseChar c = [c]) :
    keywordText text = text := by
  have hsame : ∀ c ∈ text, (if isAlphanumeric c then lowercaseChar c else [' ']) = [c] := by
    intro c hc
    obtain ⟨hletter | rfl, hsmall⟩ := h c hc
    · rw [if_pos hletter, hsmall]
    · rw [isAlphanumeric_blank]
      rfl
  rw [keywordText, List.flatMap_def, List.map_congr_left hsame, ← List.flatMap_def, List.flatMap_singleton']

/-- Keywords of letters, digits and blanks are their own keywords. -/
theorem keywords_keywords (h : ∀ c ∈ (keywords text).toList, isAlphanumeric c = true ∨ c = ' ') :
    keywords (keywords text) = keywords text := by
  have hsmall : keywordText (keywords text).toList = (keywords text).toList := by
    refine keywordText_of_small fun c hc => ⟨h c hc, ?_⟩
    rcases mem_keywords hc with rfl | ⟨_, -, -, hsmall⟩
    · decide +kernel
    · exact lowercaseChar_of_mem hsmall
  rw [← String.toList_inj, toList_keywords (keywords text), hsmall, toList_keywords, words_joinWith_words]

/-- Keywords are tidy. They are their own keywords, and made of letters, digits and blanks only, exactly if
the text has no dotted capital I. -/
theorem keywords_settled_iff (text : String) :
    Tidy (keywords text).toList ∧
      (keywords (keywords text) = keywords text ↔ dottedCapitalI ∉ text.toList) ∧
      ((∀ c ∈ (keywords text).toList, isAlphanumeric c = true ∨ c = ' ') ↔
        dottedCapitalI ∉ text.toList) := by
  refine ⟨?_, ⟨fun h hdot => ?_, fun hdot => ?_⟩, fun h hdot => ?_, fun hdot c hc => ?_⟩
  · rw [toList_keywords]
    exact tidy_joinWith fun word hword => mem_words hword
  · rw [← dotAbove_mem_keywords_iff, ← h, dotAbove_mem_keywords_iff] at hdot
    exact dottedCapitalI_not_mem_keywords text hdot
  · exact keywords_keywords fun c hc => isAlphanumeric_of_mem_keywords hdot hc
  · rcases h dotAbove ((dotAbove_mem_keywords_iff text).2 hdot) with hletter | hblank
    · rw [isAlphanumeric_dotAbove] at hletter
      cases hletter
    · exact absurd hblank (by decide)
  · exact isAlphanumeric_of_mem_keywords hdot hc

/-- The dotted capital I leaves a mark among the keywords, which their keywords lose. -/
theorem keywords_of_dottedCapitalI :
    keywords "\u0130" = "i\u0307" ∧ keywords (keywords "\u0130") = "i" ∧
      keywords (keywords "\u0130") ≠ keywords "\u0130" ∧
      ¬ ∀ c ∈ (keywords "\u0130").toList, isAlphanumeric c = true ∨ c = ' ' := by
  have honce : keywords "\u0130" = "i\u0307" := by decide +kernel
  have htwice : keywords (keywords "\u0130") = "i" := by decide +kernel
  have hmark : dotAbove ∈ (keywords "\u0130").toList := (dotAbove_mem_keywords_iff "\u0130").2 (by decide)
  refine ⟨honce, htwice, ?_, fun hall => ?_⟩
  · rw [htwice, honce]
    decide
  · rcases hall dotAbove hmark with hletter | hblank
    · exact absurd hletter (by simp [isAlphanumeric_dotAbove])
    · exact absurd hblank (by decide)

end SiteSearch
