import SiteSearch.Engine.Memory.Glob
import SiteSearch.Proofs.Collection.Generation
import SiteSearch.Proofs.Text.Words

/-!
# Words with stars

A word is covered by a pattern if it can be had from the pattern by putting a text in the place of every
star (`Glob.Fills`). The matcher never goes back: it takes every part between two stars where it occurs
first. That is enough, for whatever can follow a later occurrence can follow the first one as well, with a
longer text for the star in front of it (`Glob.Follow.of_suffix`).

`Glob.covers_iff_fills` says so, and that the stretches in which the matcher finds the parts
(`Glob.found`) lie one behind the other.
-/

namespace SiteSearch.Glob

variable {pattern word rest rest' part first : List Char} {parts : List (List Char)}

/-! ## Occurrences -/

theorem startsWith_iff : Text.startsWith part word = true ↔ part <+: word := by
  rw [Text.startsWith, Option.isSome_iff_exists]
  exact exists_congr fun rest => Text.stripPrefix?_eq_some.trans eq_comm

theorem endsWith_iff : endsWith part word = true ↔ part <:+ word := by
  rw [endsWith, startsWith_iff, List.reverse_prefix]

theorem isSome_afterFirst? : (afterFirst? part word).isSome = true ↔ part <:+: word := by
  induction word with
  | nil => simp [afterFirst?]
  | cons c word ih =>
    rw [List.infix_cons_iff, ← ih, ← startsWith_iff, Text.startsWith, afterFirst?]
    split
    · rename_i hrest
      simp [hrest]
    · rename_i hnone
      simp [hnone]

theorem append_of_afterFirst? (h : afterFirst? part word = some rest) :
    ∃ filling, word = filling ++ part ++ rest := by
  induction word with
  | nil =>
    rw [afterFirst?] at h
    split at h
    · rename_i hempty
      exact ⟨[], by simp_all⟩
    · cases h
  | cons c word ih =>
    rw [afterFirst?] at h
    split at h
    · rename_i hstrip
      exact ⟨[], by rw [Text.stripPrefix?_eq_some.1 hstrip, Option.some.inj h, List.nil_append]⟩
    · obtain ⟨filling, rfl⟩ := ih h
      exact ⟨c :: filling, rfl⟩

/-- No occurrence leaves more of the word than the first one. -/
theorem suffix_of_afterFirst? {filling : List Char}
    (h : afterFirst? part (filling ++ part ++ rest') = some rest) : rest' <:+ rest := by
  generalize hword : filling ++ part ++ rest' = word at h
  induction word generalizing filling with
  | nil =>
    have hnil : rest' = [] := by simp_all
    exact hnil ▸ List.nil_suffix
  | cons c word ih =>
    rw [afterFirst?] at h
    split at h
    · rename_i hstrip
      have hfirst : c :: word = part ++ rest := by
        rw [Text.stripPrefix?_eq_some.1 hstrip, Option.some.inj h]
      have hlength := congrArg List.length (hword.trans hfirst)
      simp only [List.length_append] at hlength
      have hlast : rest' <:+ c :: word := hword ▸ List.suffix_append _ _
      have hbehind : rest <:+ c :: word := hfirst ▸ List.suffix_append _ _
      exact List.suffix_of_suffix_length_le hlast hbehind (by omega)
    · rename_i hstrip
      cases filling with
      | nil =>
        rw [List.nil_append] at hword
        rw [Text.stripPrefix?_eq_some.2 hword.symm] at hstrip
        cases hstrip
      | cons d filling => exact ih (List.cons.inj hword).2 h

/-! ## Putting texts in the places of stars -/

/-- The word is the pattern with a text, which may be empty, in the place of every star. -/
inductive Fills : (pattern word : List Char) → Prop where
  | nil : Fills [] []
  | char {c : Char} {pattern word : List Char} (h : c ≠ '*') (rest : Fills pattern word) :
    Fills (c :: pattern) (c :: word)
  | star {pattern word : List Char} (filling : List Char) (rest : Fills pattern word) :
    Fills ('*' :: pattern) (filling ++ word)

/-- A word consists of parts with a text in front of each. -/
def Follow : (parts : List (List Char)) → (word : List Char) → Prop
  | [], word => word = []
  | part :: parts, word => ∃ filling rest, word = filling ++ part ++ rest ∧ Follow parts rest

theorem fills_cons_iff {c : Char} (h : c ≠ '*') :
    Fills (c :: pattern) word ↔ ∃ rest, word = c :: rest ∧ Fills pattern rest := by
  constructor
  · intro hfills
    cases hfills with
    | char _ hrest => exact ⟨_, rfl, hrest⟩
    | star => exact absurd rfl h
  · rintro ⟨rest, rfl, hrest⟩
    exact .char h hrest

theorem fills_star_iff :
    Fills ('*' :: pattern) word ↔ ∃ filling rest, word = filling ++ rest ∧ Fills pattern rest := by
  constructor
  · intro hfills
    cases hfills with
    | char h => exact absurd rfl h
    | star filling hrest => exact ⟨filling, _, rfl, hrest⟩
  · rintro ⟨filling, rest, rfl, hrest⟩
    exact .star filling hrest

/-- The parts of a pattern are what stands in front of its first star and what stands behind each star. -/
theorem fills_iff_follow (h : Text.splitAt (· = '*') pattern = first :: parts) :
    Fills pattern word ↔ ∃ rest, word = first ++ rest ∧ Follow parts rest := by
  induction pattern generalizing first parts word with
  | nil =>
    obtain ⟨rfl, rfl⟩ := List.cons.inj h
    constructor
    · rintro ⟨⟩
      exact ⟨[], rfl, rfl⟩
    · rintro ⟨rest, rfl, rfl⟩
      exact .nil
  | cons c pattern ih =>
    obtain ⟨start, others, hsplit⟩ := List.exists_cons_of_ne_nil (Text.splitAt_ne_nil (· = '*') pattern)
    rw [Text.splitAt, hsplit] at h
    by_cases hc : c = '*'
    · subst hc
      obtain ⟨rfl, rfl⟩ := List.cons.inj h
      rw [fills_star_iff]
      simp only [List.nil_append, exists_eq_left', Follow, List.append_assoc, ih hsplit]
      constructor
      · rintro ⟨filling, _, rfl, rest, rfl, hrest⟩
        exact ⟨filling, rest, rfl, hrest⟩
      · rintro ⟨filling, rest, rfl, hrest⟩
        exact ⟨filling, _, rfl, rest, rfl, hrest⟩
    · simp only [hc, decide_false, Bool.false_eq_true, if_false] at h
      obtain ⟨rfl, rfl⟩ := List.cons.inj h
      rw [fills_cons_iff hc]
      simp only [ih hsplit, List.cons_append]
      constructor
      · rintro ⟨_, rfl, rest, rfl, hrest⟩
        exact ⟨rest, rfl, hrest⟩
      · rintro ⟨rest, rfl, hrest⟩
        exact ⟨_, rfl, rest, rfl, hrest⟩

/-! ## Looking for the parts -/

/-- What follows a later place can follow an earlier one: the first star takes what is between. -/
theorem Follow.of_suffix (h : Follow (part :: parts) rest') (hsuffix : rest' <:+ rest) :
    Follow (part :: parts) rest := by
  obtain ⟨filling, behind, rfl, hbehind⟩ := h
  obtain ⟨between, rfl⟩ := hsuffix
  exact ⟨between ++ filling, behind, by simp, hbehind⟩

/-- Parts that follow each other are found one after the other. -/
theorem Follow.exists_afterFirst? {next : List Char} (h : Follow (part :: next :: parts) word) :
    ∃ rest, afterFirst? part word = some rest ∧ Follow (next :: parts) rest := by
  obtain ⟨filling, rest', rfl, hfollow⟩ := h
  have hinfix : part <:+: filling ++ part ++ rest' := List.infix_append _ _ _
  obtain ⟨rest, hrest⟩ := Option.isSome_iff_exists.1 (isSome_afterFirst?.2 hinfix)
  exact ⟨rest, hrest, hfollow.of_suffix (suffix_of_afterFirst? hrest)⟩

/-- It is enough to look for each part where it occurs first. -/
theorem coversRest_iff_follow : ∀ {parts : List (List Char)} {word : List Char}, parts ≠ [] →
    (coversRest parts word = true ↔ Follow parts word)
  | [], _, h => absurd rfl h
  | [last], word, _ => by
    rw [coversRest, endsWith_iff]
    simp [Follow, List.IsSuffix, eq_comm]
  | part :: next :: parts, word, _ => by
    rw [coversRest]
    constructor
    · intro hcovers
      split at hcovers
      · rename_i rest hrest
        obtain ⟨filling, rfl⟩ := append_of_afterFirst? hrest
        exact ⟨filling, rest, rfl, (coversRest_iff_follow (by simp)).1 hcovers⟩
      · cases hcovers
    · intro hfollow
      obtain ⟨rest, hrest, hnext⟩ := hfollow.exists_afterFirst?
      rw [hrest]
      exact (coversRest_iff_follow (by simp)).2 hnext

theorem covers_iff_follow (h : Text.splitAt (· = '*') pattern = first :: parts) :
    covers pattern word = true ↔ ∃ rest, word = first ++ rest ∧ Follow parts rest := by
  rw [covers, h]
  cases parts with
  | nil =>
    have hpattern := Text.joinWith_splitAt '*' pattern
    rw [h, Text.joinWith] at hpattern
    rw [← hpattern]
    simp [Follow, eq_comm]
  | cons next parts =>
    rw [← exists_congr fun rest => and_congr_right fun _ => coversRest_iff_follow (by simp)]
    dsimp only
    split
    · rename_i rest hstrip
      rw [Text.stripPrefix?_eq_some] at hstrip
      simp [hstrip]
    · rename_i hstrip
      simp only [Bool.false_eq_true, false_iff, not_exists, not_and]
      rintro rest rfl
      rw [Text.stripPrefix?_eq_some.2 rfl] at hstrip
      cases hstrip

/-- A pattern covers the words that can be had from it. -/
theorem covers_iff : covers pattern word = true ↔ Fills pattern word := by
  obtain ⟨first, parts, hsplit⟩ := List.exists_cons_of_ne_nil (Text.splitAt_ne_nil (· = '*') pattern)
  rw [covers_iff_follow hsplit, fills_iff_follow hsplit]

/-! ## Stars at the ends -/

theorem fills_nil_iff : Fills [] word ↔ word = [] :=
  ⟨fun h => by cases h; rfl, fun h => h ▸ .nil⟩

theorem fills_append_iff (h : '*' ∉ part) :
    Fills (part ++ pattern) word ↔ ∃ rest, word = part ++ rest ∧ Fills pattern rest := by
  induction part generalizing word with
  | nil => simp
  | cons c part ih =>
    obtain ⟨hc, hpart⟩ : '*' ≠ c ∧ '*' ∉ part := by simpa using h
    rw [List.cons_append, fills_cons_iff hc.symm]
    constructor
    · rintro ⟨_, rfl, hrest⟩
      obtain ⟨rest, rfl, hpattern⟩ := (ih hpart).1 hrest
      exact ⟨rest, rfl, hpattern⟩
    · rintro ⟨rest, rfl, hpattern⟩
      exact ⟨part ++ rest, rfl, (ih hpart).2 ⟨rest, rfl, hpattern⟩⟩

theorem covers_closed (h : '*' ∉ part) : covers part word = true ↔ word = part := by
  rw [covers_iff, ← List.append_nil part, fills_append_iff h]
  simp [fills_nil_iff]

theorem fills_star_last : Fills ['*'] word := by
  simpa using Fills.star word .nil

theorem covers_openRight (h : '*' ∉ part) : covers (part ++ ['*']) word = true ↔ part <+: word := by
  rw [covers_iff, fills_append_iff h]
  simp [fills_star_last, List.IsPrefix, eq_comm]

theorem covers_openLeft (h : '*' ∉ part) : covers ('*' :: part) word = true ↔ part <:+ word := by
  rw [covers_iff, fills_star_iff]
  simp only [← covers_iff, covers_closed h, exists_eq_right, List.IsSuffix]
  exact exists_congr fun filling => eq_comm

theorem covers_openBoth (h : '*' ∉ part) :
    covers ('*' :: part ++ ['*']) word = true ↔ part <:+: word := by
  rw [covers_iff, List.cons_append, fills_star_iff]
  simp only [← covers_iff, covers_openRight h]
  constructor
  · rintro ⟨filling, rest, rfl, hprefix⟩
    exact hprefix.isInfix.trans (List.suffix_append _ _).isInfix
  · rintro ⟨filling, rest, rfl⟩
    exact ⟨filling, part ++ rest, List.append_assoc _ _ _, List.prefix_append _ _⟩

theorem Fills.append_star (h : Fills pattern word) : Fills (pattern ++ ['*']) word := by
  induction h with
  | nil => exact .star [] .nil
  | char hc _ ih => exact .char hc ih
  | star filling _ ih => exact .star filling ih

/-- A word that a pattern covers is covered with one more star at its end. -/
theorem covers_append_star (h : covers pattern word = true) : covers (pattern ++ ['*']) word = true :=
  covers_iff.2 (covers_iff.1 h).append_star

/-! ## Where the parts are found -/

/-- The stretches in which the parts behind a star are found in the rest of a word that begins at a place.
A stretch goes from the place of its first character to the place behind its last one. -/
def foundRest (place : Nat) : (parts : List (List Char)) → (word : List Char) → List (Nat × Nat)
  | [], _ => []
  | [last], word => [(place + (word.length - last.length), place + word.length)]
  | part :: next :: parts, word =>
    match afterFirst? part word with
    | some rest =>
      let stop := place + (word.length - rest.length)
      (stop - part.length, stop) :: foundRest stop (next :: parts) rest
    | none => []

/-- The stretches in which the matcher finds the parts of a pattern in a word that the pattern covers. -/
def found (pattern word : List Char) : List (Nat × Nat) :=
  match Text.splitAt (· = '*') pattern with
  | [] => []
  | first :: parts => (0, first.length) :: foundRest first.length parts (word.drop first.length)

/-- Stretches of a word from a place on that hold the parts in their order and do not overlap. -/
structure Apart (word : List Char) (place : Nat) (parts : List (List Char))
    (stretches : List (Nat × Nat)) : Prop where
  holds : stretches.map (fun stretch => word.extract stretch.1 stretch.2) = parts
  within : ∀ stretch ∈ stretches,
    place ≤ stretch.1 ∧ stretch.1 ≤ stretch.2 ∧ stretch.2 ≤ word.length
  apart : stretches.Pairwise fun stretch later => stretch.2 ≤ later.1

theorem Apart.cons {place : Nat} {stretches : List (Nat × Nat)} (front part rest : List Char)
    (hplace : place ≤ front.length)
    (h : Apart (front ++ part ++ rest) (front ++ part).length parts stretches) :
    Apart (front ++ part ++ rest) place (part :: parts)
      ((front.length, (front ++ part).length) :: stretches) where
  holds := by
    rw [List.map_cons, h.holds]
    simp [List.extract_eq_take_drop]
  within stretch hstretch := by
    rcases List.mem_cons.1 hstretch with rfl | hstretch
    · simp only [List.length_append]
      omega
    · obtain ⟨hstart, hrest⟩ := h.within stretch hstretch
      rw [List.length_append] at hstart
      exact ⟨by omega, hrest⟩
  apart := List.pairwise_cons.2 ⟨fun later hlater => (h.within later hlater).1, h.apart⟩

theorem apart_foundRest : ∀ {parts : List (List Char)} {rest : List Char}, Follow parts rest →
    ∀ front, Apart (front ++ rest) front.length parts (foundRest front.length parts rest)
  | [], _, _, front => ⟨rfl, by simp [foundRest], .nil⟩
  | [last], _, h, front => by
    obtain ⟨filling, _, rfl, rfl⟩ := h
    have hnone : Apart (front ++ filling ++ last ++ []) (front ++ filling ++ last).length [] [] :=
      ⟨rfl, by simp, .nil⟩
    have hcons := Apart.cons (front ++ filling) last [] (by simp : front.length ≤ _) hnone
    simpa [foundRest, Nat.add_assoc] using hcons
  | part :: next :: parts, _, h, front => by
    obtain ⟨rest, hrest, hnext⟩ := h.exists_afterFirst?
    obtain ⟨filling, rfl⟩ := append_of_afterFirst? hrest
    have hcons := Apart.cons (front ++ filling) part rest (by simp : front.length ≤ _)
      (apart_foundRest hnext (front ++ filling ++ part))
    have hstop : front.length + ((filling ++ part ++ rest).length - rest.length) =
        (front ++ filling ++ part).length := by
      simp only [List.length_append]
      omega
    have hstart : (front ++ filling ++ part).length - part.length = (front ++ filling).length := by
      rw [List.length_append, Nat.add_sub_cancel]
    rw [foundRest, hrest]
    dsimp only
    rw [hstop, hstart]
    simpa only [List.append_assoc] using hcons

/-- A pattern covers the words that can be had from it by putting a text, which may be empty, in the place
of every star. The stretches in which the matcher finds the parts of the pattern in such a word do not
overlap. -/
theorem covers_iff_fills (pattern word : List Char) :
    (covers pattern word = true ↔ Fills pattern word) ∧
      (covers pattern word = true →
        Apart word 0 (Text.splitAt (· = '*') pattern) (found pattern word)) := by
  refine ⟨covers_iff, fun hcovers => ?_⟩
  obtain ⟨first, parts, hsplit⟩ := List.exists_cons_of_ne_nil (Text.splitAt_ne_nil (· = '*') pattern)
  obtain ⟨rest, rfl, hfollow⟩ := (covers_iff_follow hsplit).1 hcovers
  rw [found, hsplit]
  simpa using Apart.cons [] first rest (Nat.le_refl 0) (apart_foundRest hfollow ([] ++ first))

/-- The second part is found at the first of its two places, next to the part before it. -/
theorem covers_iff_fills_banana :
    covers "b*an*na".toList "banana".toList = true ∧ Fills "b*an*na".toList "banana".toList ∧
      found "b*an*na".toList "banana".toList = [(0, 1), (1, 3), (4, 6)] ∧
      Apart "banana".toList 0 ["b".toList, "an".toList, "na".toList] [(0, 1), (1, 3), (4, 6)] := by
  have hcovers : covers "b*an*na".toList "banana".toList = true := by decide
  have hfound : found "b*an*na".toList "banana".toList = [(0, 1), (1, 3), (4, 6)] := by decide
  obtain ⟨hiff, hapart⟩ := covers_iff_fills "b*an*na".toList "banana".toList
  exact ⟨hcovers, hiff.1 hcovers, hfound, hfound ▸ hapart hcovers⟩

/-- The last part may not reach back into the first one. -/
example : covers "an*na".toList "ana".toList = false := by decide

end SiteSearch.Glob
