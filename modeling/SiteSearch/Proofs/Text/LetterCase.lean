import SiteSearch.Proofs.Text.Words
import SiteSearch.Text.Alphanumeric
import SiteSearch.Text.LetterCase

/-!
# Lowercase and words

Lowercasing a text looks beyond a single character for one reason only, the final sigma, and that look
ends at the first character that breaks words (`Breaks`). Blanks do, and so do stars and signs. So a
text can be lowercased word by word (`words_lowercase`).

Lowercasing twice is lowercasing once (`lowercaseChar_of_mem`), and it neither makes blanks nor takes
them away.
-/

namespace SiteSearch.Text

variable {c d : Char} {text rest before : List Char}

/-! ## Ranges that are apart -/

/-- No range of one set meets a range of another. -/
def CodeRanges.Apart (a b : CodeRanges) : Bool :=
  a.all fun r => b.all fun s => Nat.blt r.2 s.1 || Nat.blt s.2 r.1

theorem CodeRanges.exists_of_mem {code : Nat} :
    ∀ {ranges : CodeRanges}, ranges.mem code = true → ∃ r ∈ ranges, r.1 ≤ code ∧ code ≤ r.2
  | [], h => by cases h
  | (lo, hi) :: ranges, h => by
    rw [mem] at h
    split at h
    · cases h
    · rename_i hlo
      rcases Bool.or_eq_true_iff.1 h with hhi | h
      · exact ⟨(lo, hi), List.mem_cons_self, by simpa using hlo, by simpa using hhi⟩
      · obtain ⟨r, hr, hcode⟩ := exists_of_mem h
        exact ⟨r, List.mem_cons_of_mem _ hr, hcode⟩

theorem CodeRanges.not_mem_of_apart {a b : CodeRanges} {r : Nat × Nat} {code : Nat}
    (h : Apart a b = true) (hr : r ∈ a) (hcode : r.1 ≤ code ∧ code ≤ r.2) : b.mem code = false := by
  refine Bool.eq_false_iff.2 fun hb => ?_
  obtain ⟨s, hs, hs₁, hs₂⟩ := exists_of_mem hb
  have hrs := List.all_eq_true.1 (List.all_eq_true.1 h r hr) s hs
  simp only [Bool.or_eq_true, Nat.blt_eq] at hrs
  omega

theorem CodeRanges.not_mem_of_mem {a b : CodeRanges} {code : Nat} (h : Apart a b = true)
    (ha : a.mem code = true) : b.mem code = false := by
  obtain ⟨r, hr, hcode⟩ := exists_of_mem ha
  exact not_mem_of_apart h hr hcode

/-- Letters and digits are no blanks. -/
theorem isBlank_of_isAlphanumeric (h : isAlphanumeric c = true) : isBlank c = false := by
  have hletters : CodeRanges.Apart alphabeticRanges blankRanges = true := by decide +kernel
  have hdigits : CodeRanges.Apart numericRanges blankRanges = true := by decide +kernel
  rcases Bool.or_eq_true_iff.1 h with h | h
  · exact CodeRanges.not_mem_of_mem hletters h
  · exact CodeRanges.not_mem_of_mem hdigits h

/-! ## Single characters -/

namespace CapitalRun

/-- The codes of the small letters of a run lie between two codes. -/
def smallEnds (run : CapitalRun) : Nat × Nat :=
  ((run.first + run.shift : Int).toNat, (run.last + run.shift : Int).toNat)

/-- No small letter of one run is a capital of another: their codes lie apart, or those of both are an
odd distance from each other. -/
def Misses (other run : CapitalRun) : Bool :=
  let small := run.smallEnds
  Nat.blt small.2 other.first || Nat.blt other.last small.1 ||
    (Nat.beq other.step 2 && (Nat.beq run.step 2 || Nat.beq small.1 small.2) &&
      Nat.beq ((small.1 - other.first) % 2) 1)

/-- A code is a capital of the run. -/
def Has (run : CapitalRun) (code : Nat) : Prop :=
  run.first ≤ code ∧ code ≤ run.last ∧ (code - run.first) % run.step = 0

end CapitalRun

theorem smallCode_of_free {code : Nat} : ∀ {runs : List CapitalRun},
    (∀ run ∈ runs, ¬ run.Has code) → smallCode runs code = code
  | [], _ => rfl
  | run :: runs, h => by
    have hrun := h run List.mem_cons_self
    rw [CapitalRun.Has] at hrun
    rw [smallCode]
    split
    · rfl
    · split
      · rw [if_neg (by omega)]
      · exact smallCode_of_free fun other hother => h other (List.mem_cons_of_mem _ hother)

/-- A code that is changed is that of a capital. -/
theorem smallCode_cases (code : Nat) : ∀ runs : List CapitalRun,
    smallCode runs code = code ∨
      ∃ run ∈ runs, run.Has code ∧ smallCode runs code = (code + run.shift).toNat
  | [] => .inl rfl
  | run :: runs => by
    rw [smallCode]
    split
    · exact .inl rfl
    · split
      · split
        · rename_i hlo hhi hstep
          exact .inr ⟨run, List.mem_cons_self, ⟨by omega, hhi, hstep⟩, rfl⟩
        · exact .inl rfl
      · rcases smallCode_cases code runs with h | ⟨other, hother, h⟩
        · exact .inl h
        · exact .inr ⟨other, List.mem_cons_of_mem _ hother, h⟩

/-- The codes of the capitals. -/
def capitalRanges : CodeRanges := capitalRuns.map fun run => (run.first, run.last)

/-- The codes that capitals are turned into, and some between them. -/
def smallRanges : CodeRanges := capitalRuns.map CapitalRun.smallEnds

/-- What a capital is turned into is not turned into anything else. -/
theorem smallCode_of_has {run : CapitalRun} {code : Nat} (hrun : run ∈ capitalRuns)
    (hcode : run.Has code) :
    smallCode capitalRuns (code + run.shift).toNat = (code + run.shift).toNat ∧
      ∃ r ∈ smallRanges, r.1 ≤ (code + run.shift).toNat ∧ (code + run.shift).toNat ≤ r.2 := by
  have hmisses : (capitalRuns.all fun run => capitalRuns.all (CapitalRun.Misses · run)) = true := by
    decide +kernel
  have hpositive : (capitalRuns.all fun run => (0 : Int) ≤ run.first + run.shift) = true := by
    decide +kernel
  have hends : run.smallEnds.1 ≤ (code + run.shift).toNat ∧
      (code + run.shift).toNat ≤ run.smallEnds.2 := by
    obtain ⟨hfirst, hlast, -⟩ := hcode
    simp only [CapitalRun.smallEnds]
    omega
  refine ⟨smallCode_of_free fun other hother hhas => ?_, _, List.mem_map_of_mem hrun, hends⟩
  have hrun₀ := List.all_eq_true.1 hpositive run hrun
  have hother := List.all_eq_true.1 (List.all_eq_true.1 hmisses run hrun) other hother
  obtain ⟨hfirst, hlast, hstep⟩ := hcode
  obtain ⟨hfirst', hlast', hstep'⟩ := hhas
  simp only [CapitalRun.Misses, CapitalRun.smallEnds, Bool.or_eq_true, Bool.and_eq_true, Nat.blt_eq,
    Nat.beq_eq, decide_eq_true_eq] at hother hrun₀ hends
  rcases hother with (hbelow | habove) | ⟨⟨htwo, hsame⟩, hodd⟩
  · omega
  · omega
  · rw [htwo] at hstep'
    rcases hsame with hboth | hsingle
    · rw [hboth] at hstep
      omega
    · omega

/-- A character stays as it is, or is the dotted capital I, or becomes one small letter that stays as
it is. -/
theorem lowercaseChar_cases (c : Char) :
    lowercaseChar c = [c] ∨ c = dottedCapitalI ∨
      ∃ d, lowercaseChar c = [d] ∧ lowercaseChar d = [d] ∧
        ∃ r ∈ smallRanges, r.1 ≤ d.toNat ∧ d.toNat ≤ r.2 := by
  by_cases hdot : c = dottedCapitalI
  · exact .inr (.inl hdot)
  rcases smallCode_cases c.toNat capitalRuns with hsame | ⟨run, hrun, hcode, hsmall⟩
  · refine .inl ?_
    rw [lowercaseChar, if_neg hdot, hsame, Char.ofNat_toNat]
  · obtain ⟨hfixed, r, hr, hlo, hhi⟩ := smallCode_of_has hrun hcode
    rw [← hsmall] at hfixed hlo hhi
    have hreal : CodeRanges.Apart smallRanges [(0x130, 0x130), (0xD800, 0xDFFF)] = true := by
      decide +kernel
    have hmem := CodeRanges.not_mem_of_apart hreal hr ⟨hlo, hhi⟩
    have hbelow : (smallRanges.all fun r => Nat.blt r.2 0x110000) = true := by decide +kernel
    have hr₂ : r.2 < 0x110000 := by simpa using List.all_eq_true.1 hbelow r hr
    generalize hcode' : smallCode capitalRuns c.toNat = code at *
    simp [CodeRanges.mem] at hmem
    have hvalid : code.isValidChar := by
      rw [Nat.isValidChar]
      omega
    have htoNat : (Char.ofNat code).toNat = code := by
      rw [Char.ofNat, dif_pos hvalid]
      rfl
    have hdotted : Char.ofNat code ≠ dottedCapitalI := by
      intro heq
      have hcode : code = 0x130 := by
        rw [← htoNat, heq]
        rfl
      omega
    refine .inr (.inr ⟨Char.ofNat code, ?_, ?_, r, hr, ?_, ?_⟩)
    · rw [lowercaseChar, if_neg hdot, hcode']
    · rw [lowercaseChar, if_neg hdotted, htoNat, hfixed]
    · rwa [htoNat]
    · rwa [htoNat]

/-- Lowercasing twice is lowercasing once. -/
theorem lowercaseChar_of_mem (h : d ∈ lowercaseChar c) : lowercaseChar d = [d] := by
  rcases lowercaseChar_cases c with hsame | rfl | ⟨small, hsmall, hfixed, -⟩
  · obtain rfl : d = c := by simpa [hsame] using h
    exact hsame
  · have hletters : lowercaseChar dottedCapitalI = ['i', Char.ofNat 0x307] := by decide +kernel
    rw [hletters] at h
    simp only [List.mem_cons, List.not_mem_nil, or_false] at h
    rcases h with rfl | rfl
    · decide +kernel
    · decide +kernel
  · obtain rfl : d = small := by simpa [hsmall] using h
    exact hfixed

/-- Characters that no capital is turned into come from themselves only. -/
theorem eq_of_mem_lowercaseChar {ranges : CodeRanges} (hapart : CodeRanges.Apart smallRanges ranges = true)
    (hdot : ranges.mem 0x69 = false ∧ ranges.mem 0x307 = false) (h : d ∈ lowercaseChar c)
    (hd : ranges.mem d.toNat = true) : d = c := by
  rcases lowercaseChar_cases c with hsame | rfl | ⟨small, hsmall, -, r, hr, hcode⟩
  · simpa [hsame] using h
  · have hletters : lowercaseChar dottedCapitalI = ['i', Char.ofNat 0x307] := by decide +kernel
    rw [hletters] at h
    simp only [List.mem_cons, List.not_mem_nil, or_false] at h
    rcases h with rfl | rfl
    · exact absurd (hd.symm.trans hdot.1) (by decide)
    · exact absurd (hd.symm.trans hdot.2) (by decide)
  · obtain rfl : d = small := by simpa [hsmall] using h
    exact absurd (hd.symm.trans (CodeRanges.not_mem_of_apart hapart hr hcode)) (by decide)

/-- Characters that are no capitals stay as they are. -/
theorem lowercaseChar_of_apart {ranges : CodeRanges}
    (hapart : CodeRanges.Apart capitalRanges ranges = true) (hdot : ranges.mem 0x130 = false)
    (hc : ranges.mem c.toNat = true) : lowercaseChar c = [c] := by
  have hne : c ≠ dottedCapitalI := by
    rintro rfl
    exact absurd (hc.symm.trans hdot) (by decide)
  have hfree : smallCode capitalRuns c.toNat = c.toNat := smallCode_of_free fun run hrun hhas => by
    have hnot := CodeRanges.not_mem_of_apart hapart (List.mem_map_of_mem hrun) ⟨hhas.1, hhas.2.1⟩
    exact absurd (hc.symm.trans hnot) (by decide)
  rw [lowercaseChar, if_neg hne, hfree, Char.ofNat_toNat]

/-! ## Characters that break words -/

/-- A character that is no letter with case, that the rule of the final sigma does not look through, and
that lowercasing leaves alone. -/
structure Breaks (c : Char) : Prop where
  uncased : isCased c = false
  seen : isCaseIgnorable c = false
  alone : lowercaseChar c = [c]

theorem breaks_of_isBlank (h : isBlank c = true) : Breaks c where
  uncased := by
    have hapart : CodeRanges.Apart blankRanges casedRanges = true := by decide +kernel
    exact CodeRanges.not_mem_of_mem hapart h
  seen := by
    have hapart : CodeRanges.Apart blankRanges caseIgnorableRanges = true := by decide +kernel
    exact CodeRanges.not_mem_of_mem hapart h
  alone := lowercaseChar_of_apart (by decide +kernel) (by decide) h

theorem breaks_star : Breaks '*' := ⟨by decide +kernel, by decide +kernel, by decide +kernel⟩

theorem Breaks.ne_capitalSigma (h : Breaks c) : c ≠ capitalSigma := by
  rintro rfl
  exact absurd h.uncased (by decide +kernel)

theorem Breaks.meetsCased (h : Breaks c) :
    ∀ text : List Char, Text.meetsCased (text ++ c :: rest) = Text.meetsCased text
  | [] => by simp [Text.meetsCased, h.seen, h.uncased]
  | d :: text => by
    have ih := h.meetsCased text
    by_cases hd : isCaseIgnorable d = true
    · simpa [Text.meetsCased, hd] using ih
    · simp [Text.meetsCased, hd]

/-- What stands before a breaking character does not count behind it. -/
theorem Breaks.lowercaseAfter_behind (h : Breaks c) : ∀ (before text : List Char),
    lowercaseAfter (before ++ c :: rest) text = lowercaseAfter before text
  | _, [] => rfl
  | before, d :: text => by
    have ih := h.lowercaseAfter_behind (d :: before) text
    rw [List.cons_append] at ih
    rw [lowercaseAfter, lowercaseAfter, h.meetsCased, ih]

theorem Breaks.lowercaseAfter_append (h : Breaks c) : ∀ (before text : List Char),
    lowercaseAfter before (text ++ c :: rest) = lowercaseAfter before text ++ c :: lowercase rest
  | before, [] => by
    have hbehind : lowercaseAfter (c :: before) rest = lowercase rest := h.lowercaseAfter_behind [] rest
    simp [lowercaseAfter, h.ne_capitalSigma, h.alone, hbehind]
  | before, d :: text => by
    rw [List.cons_append, lowercaseAfter, lowercaseAfter, h.meetsCased,
      h.lowercaseAfter_append (d :: before) text, List.append_assoc]

/-- A text is lowercased piece by piece where a character breaks it. -/
theorem Breaks.lowercase_append (h : Breaks c) (text : List Char) :
    lowercase (text ++ c :: rest) = lowercase text ++ c :: lowercase rest :=
  h.lowercaseAfter_append [] text

/-! ## Texts -/

theorem lowercaseChar_ne_nil (c : Char) : lowercaseChar c ≠ [] := by
  rw [lowercaseChar]
  split <;> simp

theorem lowercase_eq_nil : lowercase text = [] ↔ text = [] := by
  constructor
  · intro h
    cases text with
    | nil => rfl
    | cons c text =>
      rw [lowercase, lowercaseAfter] at h
      split at h
      · simp at h
      · simp [lowercaseChar_ne_nil] at h
  · rintro rfl
    rfl

theorem lowercaseChar_capitalSigma : lowercaseChar capitalSigma = [smallSigma] := by decide +kernel

/-- Where a character of a lowercased text comes from. -/
theorem mem_lowercaseAfter : ∀ {before text : List Char}, d ∈ lowercaseAfter before text →
    d = finalSigma ∨ ∃ c ∈ text, d ∈ lowercaseChar c
  | before, c :: text, h => by
    rw [lowercaseAfter] at h
    rcases List.mem_append.1 h with h | h
    · split at h
      · rename_i hc
        split at h
        · exact .inl (by simpa using h)
        · exact .inr ⟨c, List.mem_cons_self, by rw [hc, lowercaseChar_capitalSigma]; exact h⟩
      · exact .inr ⟨c, List.mem_cons_self, h⟩
    · rcases mem_lowercaseAfter h with h | ⟨c', hc', h⟩
      · exact .inl h
      · exact .inr ⟨c', List.mem_cons_of_mem _ hc', h⟩

/-- A character of a class that lowercasing does not lead into was there before. -/
theorem mem_of_mem_lowercase (ranges : CodeRanges)
    (hapart : CodeRanges.Apart smallRanges ranges = true)
    (hfree : ranges.mem 0x69 = false ∧ ranges.mem 0x307 = false ∧ ranges.mem 0x3C2 = false)
    (h : d ∈ lowercase text) (hd : ranges.mem d.toNat = true) : d ∈ text := by
  rcases mem_lowercaseAfter h with rfl | ⟨c, hc, h⟩
  · exact absurd (hd.symm.trans hfree.2.2) (by decide)
  · rwa [eq_of_mem_lowercaseChar hapart ⟨hfree.1, hfree.2.1⟩ h hd]

theorem Solid.lowercase (h : Solid text) : Solid (Text.lowercase text) := by
  intro d hd
  refine Bool.eq_false_iff.2 fun hblank => ?_
  have hmem : d ∈ text :=
    mem_of_mem_lowercase blankRanges (by decide +kernel) (by decide) hd hblank
  exact absurd (hblank.symm.trans (h d hmem)) (by decide)

theorem star_not_mem_lowercase (h : '*' ∉ text) : '*' ∉ lowercase text := fun hd =>
  h (mem_of_mem_lowercase [(0x2A, 0x2A)] (by decide +kernel) (by decide) hd (by decide))

/-- The words of a lowercased text are the lowercased words. -/
theorem words_lowercase (text : List Char) :
    words (lowercase text) = (words text).map lowercase := by
  by_cases h : Solid text
  · by_cases hne : text = []
    · rw [hne]
      rfl
    · rw [words_of_solid h hne, words_of_solid h.lowercase (hne ∘ lowercase_eq_nil.1), List.map_singleton]
  · obtain ⟨first, c, rest, rfl, hc⟩ : ∃ first c rest, text = first ++ c :: rest ∧ isBlank c = true := by
      simp only [Solid, Classical.not_forall, Bool.not_eq_false] at h
      obtain ⟨c, hmem, hc⟩ := h
      obtain ⟨first, rest, htext⟩ := List.append_of_mem hmem
      exact ⟨first, c, rest, htext, hc⟩
    rw [(breaks_of_isBlank hc).lowercase_append, words_append_blank hc, words_append_blank hc,
      List.map_append, words_lowercase first, words_lowercase rest]
termination_by text.length
decreasing_by
  · simp_all
  · simp_all
    omega

/-- Without a capital sigma, what stands around a character does not matter. -/
theorem lowercaseAfter_of_fixed : ∀ {before text : List Char},
    (∀ c ∈ text, lowercaseChar c = [c]) → lowercaseAfter before text = text
  | _, [], _ => rfl
  | before, c :: text, h => by
    have hc := h c List.mem_cons_self
    have hsigma : c ≠ capitalSigma := by
      rintro rfl
      rw [lowercaseChar_capitalSigma] at hc
      exact absurd hc (by decide)
    rw [lowercaseAfter, if_neg hsigma, hc,
      lowercaseAfter_of_fixed fun d hd => h d (List.mem_cons_of_mem _ hd), List.singleton_append]

/-- A text of characters that stay as they are stays as it is. -/
theorem lowercase_of_fixed (h : ∀ c ∈ text, lowercaseChar c = [c]) : lowercase text = text :=
  lowercaseAfter_of_fixed h

/-- A lowercased text stays as it is. -/
theorem lowercase_lowercase (text : List Char) : lowercase (lowercase text) = lowercase text := by
  refine lowercase_of_fixed fun d hd => ?_
  rcases mem_lowercaseAfter hd with rfl | ⟨c, -, hd⟩
  · decide +kernel
  · exact lowercaseChar_of_mem hd

end SiteSearch.Text
