import Mathlib.Data.List.TakeWhile
import SiteSearch.Json.Printer
import SiteSearch.Json.Reader
import SiteSearch.Proofs.Binary64.Shortest
import SiteSearch.Proofs.Text.Digits

/-!
# Numbers that read back

The text of a number gives the number back. `JsonNumber.read?` does so for whole numbers
(`JsonNumber.read?_whole`), but it rounds a floating-point number more than once, and some come out as a
neighbour. `JsonNumber.nearest?` rounds once, and gets every number back (`JsonNumber.nearest?_render`).

A decimal is written in one of four layouts. All of them write its digits with zeros around, and say by a
point or an exponent where the last one stands (`Binary64.Writes`).
-/

namespace SiteSearch

theorem isDigit_of_mem_decimal {n : Nat} : ∀ c ∈ Text.decimal n, c.isDigit = true := fun _ hc =>
  Nat.isDigit_of_mem_toDigits (by decide) (by decide) hc

theorem JsonToken.goesOnNumber_of_isDigit {c : Char} (h : c.isDigit = true) :
    goesOnNumber c = true := by
  simp [goesOnNumber, h]

namespace Binary64

variable {negative : Bool}

/-! ## Decimals -/

theorem spanDigits_append {whole r : List Char} (hwhole : ∀ c ∈ whole, c.isDigit = true)
    (hrest : ∀ c ∈ r.head?, c.isDigit = false) : spanDigits (whole ++ r) = (whole, r) := by
  have hstop : r.takeWhile Char.isDigit = [] ∧ r.dropWhile Char.isDigit = r := by
    cases r with
    | nil => exact ⟨rfl, rfl⟩
    | cons c r => simp [hrest c rfl]
  rw [spanDigits, List.takeWhile_append_of_pos hwhole, List.dropWhile_append_of_pos hwhole, hstop.1,
    hstop.2, List.append_nil]

/-- The text of an exponent. -/
def exponentText (e : Int) : List Char :=
  (if e < 0 then '-' else '+') :: Text.decimal e.natAbs

/-- The text writes a number with digits and an exponent: by a point, by an exponent or by both, with a
digit in front. -/
inductive Writes : List Char → List Char → Int → Prop
  | point {whole part : List Char} (hwhole : ∀ c ∈ whole, c.isDigit = true) (hne : whole ≠ [])
      (hpart : ∀ c ∈ part, c.isDigit = true) :
      Writes (whole ++ '.' :: part) (whole ++ part) (-(part.length : Int))
  | exponent {whole : List Char} (hwhole : ∀ c ∈ whole, c.isDigit = true) (hne : whole ≠ []) (e : Int) :
      Writes (whole ++ 'e' :: exponentText e) whole e
  | pointExponent {whole part : List Char} (hwhole : ∀ c ∈ whole, c.isDigit = true) (hne : whole ≠ [])
      (hpart : ∀ c ∈ part, c.isDigit = true) (e : Int) :
      Writes (whole ++ '.' :: (part ++ 'e' :: exponentText e)) (whole ++ part) (e - part.length)

theorem readExponent?_exponentText (e : Int) : readExponent? (exponentText e) = some e := by
  rw [exponentText]
  split
  · rename_i hnegative
    rw [readExponent?]
    simp only [Text.digitsValue?_decimal]
    show some (-(e.natAbs : Int)) = some e
    congr 1
    omega
  · rename_i hnonneg
    rw [readExponent?]
    simp only [Text.digitsValue?_decimal]
    show some (e.natAbs : Int) = some e
    congr 1
    omega

namespace Writes

variable {text digits : List Char} {e : Int}

/-- A text that writes a number is read as the number. -/
theorem readDecimal?_eq (h : Writes text digits e) :
    readDecimal? negative text = some (nearest negative digits e) := by
  cases h with
  | point hwhole hne hpart =>
    rename_i whole part
    have hspan : spanDigits part = (part, []) := by
      simpa using spanDigits_append (r := []) hpart (by simp)
    rw [readDecimal?, spanDigits_append hwhole (by simp)]
    simp [hne, hspan]
  | exponent hwhole hne =>
    rw [readDecimal?, spanDigits_append hwhole (by simp)]
    simp [hne, readExponent?_exponentText]
  | pointExponent hwhole hne hpart e =>
    rename_i whole part
    have hspan : spanDigits (part ++ 'e' :: exponentText e) = (part, 'e' :: exponentText e) :=
      spanDigits_append hpart (by simp)
    rw [readDecimal?, spanDigits_append hwhole (by simp)]
    simp [hne, hspan, readExponent?_exponentText]

theorem exists_digit_cons (h : Writes text digits e) : ∃ c rest, text = c :: rest ∧ c.isDigit = true := by
  have hfirst : ∀ {whole : List Char} (tail : List Char), (∀ c ∈ whole, c.isDigit = true) → whole ≠ [] →
      ∃ c rest, whole ++ tail = c :: rest ∧ c.isDigit = true := by
    intro whole tail hwhole hne
    obtain ⟨c, rest, rfl⟩ := List.exists_cons_of_ne_nil hne
    exact ⟨c, rest ++ tail, rfl, hwhole c List.mem_cons_self⟩
  cases h with
  | point hwhole hne _ => exact hfirst _ hwhole hne
  | exponent hwhole hne _ => exact hfirst _ hwhole hne
  | pointExponent hwhole hne _ _ => exact hfirst _ hwhole hne

/-- A mark tells the text from the one of a whole number. -/
theorem exists_mark_mem (h : Writes text digits e) : ∃ c ∈ text, c.isDigit = false ∧ c ≠ '-' := by
  cases h with
  | point => exact ⟨'.', by simp, by decide, by decide⟩
  | exponent => exact ⟨'e', by simp, by decide, by decide⟩
  | pointExponent => exact ⟨'.', by simp, by decide, by decide⟩

theorem goesOnNumber_of_mem (h : Writes text digits e) :
    ∀ c ∈ text, JsonToken.goesOnNumber c = true := by
  have hexponent : ∀ e, ∀ c ∈ exponentText e, JsonToken.goesOnNumber c = true := by
    intro e c hc
    rcases List.mem_cons.1 hc with rfl | hc
    · split <;> decide
    · exact JsonToken.goesOnNumber_of_isDigit (isDigit_of_mem_decimal c hc)
  intro c hc
  cases h with
  | point hwhole _ hpart =>
    rcases List.mem_append.1 hc with hc | hc
    · exact JsonToken.goesOnNumber_of_isDigit (hwhole c hc)
    · rcases List.mem_cons.1 hc with rfl | hc
      · decide
      · exact JsonToken.goesOnNumber_of_isDigit (hpart c hc)
  | exponent hwhole _ e =>
    rcases List.mem_append.1 hc with hc | hc
    · exact JsonToken.goesOnNumber_of_isDigit (hwhole c hc)
    · rcases List.mem_cons.1 hc with rfl | hc
      · decide
      · exact hexponent e c hc
  | pointExponent hwhole _ hpart e =>
    simp only [List.mem_append, List.mem_cons] at hc
    rcases hc with hc | rfl | hc | rfl | hc
    · exact JsonToken.goesOnNumber_of_isDigit (hwhole c hc)
    · decide
    · exact JsonToken.goesOnNumber_of_isDigit (hpart c hc)
    · decide
    · exact hexponent e c hc

end Writes

/-- A text that begins with a digit is none of the words. -/
theorem readUnsigned?_of_digit {c : Char} (hc : c.isDigit = true) (text : List Char) :
    readUnsigned? negative (c :: text) = readDecimal? negative (c :: text) := by
  have hbounds := Text.toNat_of_isDigit hc
  have hlower : c.toLower = c := dif_neg fun hupper => by
    have : 65 ≤ c.toNat := hupper.1
    omega
  have hword : ∀ (l : Char) (w : List Char), l.isDigit = false →
      String.ofList ((c :: text).map Char.toLower) ≠ String.ofList (l :: w) := by
    intro l w hl heq
    have hfirst := (List.cons.inj (String.ofList_inj.1 heq)).1
    rw [hlower] at hfirst
    rw [← hfirst, hc] at hl
    cases hl
  rw [readUnsigned?]
  rw [if_neg, if_neg]
  · exact hword 'n' ['a', 'n'] rfl
  · have hinf := hword 'i' ['n', 'f'] rfl
    have hinfinity := hword 'i' ['n', 'f', 'i', 'n', 'i', 't', 'y'] rfl
    rw [Bool.or_eq_true, decide_eq_true_eq, decide_eq_true_eq]
    exact not_or.2 ⟨hinf, hinfinity⟩

end Binary64

/-! ## The text of a decimal -/

namespace JsonText

open Binary64

variable {digits : List Char}

theorem isDigit_of_mem_zeros {n : Nat} : ∀ c ∈ List.replicate n '0', c.isDigit = true := by
  intro c hc
  rw [List.eq_of_mem_replicate hc]
  rfl

/-- Digits with zeros behind them. -/
theorem writes_zerosBehind (hdigits : ∀ c ∈ digits, c.isDigit = true) (hne : digits ≠ []) (n : Nat) :
    Writes (digits ++ List.replicate n '0' ++ ['.', '0']) (digits ++ List.replicate (n + 1) '0') (-1) := by
  have hzeros : ∀ c ∈ digits ++ List.replicate n '0', c.isDigit = true := fun c hc =>
    (List.mem_append.1 hc).elim (hdigits c) (isDigit_of_mem_zeros c)
  have hone : ∀ c ∈ ['0'], c.isDigit = true := by simp
  have hwrites := Writes.point hzeros (by simp [hne]) hone
  rwa [List.append_assoc digits _ ['0'], ← List.replicate_succ'] at hwrites

/-- Digits with a point between them. -/
theorem writes_between (hdigits : ∀ c ∈ digits, c.isDigit = true) {k : Nat} (hfirst : 0 < k)
    (hlast : k ≤ digits.length) :
    Writes (digits.take k ++ '.' :: digits.drop k) digits (k - digits.length) := by
  have hne : digits.take k ≠ [] := by
    rw [← List.length_pos_iff, List.length_take]
    omega
  have hwhole : ∀ c ∈ digits.take k, c.isDigit = true := fun c hc => hdigits c (List.mem_of_mem_take hc)
  have hpart : ∀ c ∈ digits.drop k, c.isDigit = true := fun c hc => hdigits c (List.mem_of_mem_drop hc)
  have hwrites := Writes.point hwhole hne hpart
  rwa [List.take_append_drop, List.length_drop, Nat.cast_sub hlast, neg_sub] at hwrites

/-- Digits with zeros in front of them. -/
theorem writes_zerosBefore (hdigits : ∀ c ∈ digits, c.isDigit = true) (n : Nat) :
    Writes (['0', '.'] ++ List.replicate n '0' ++ digits) (List.replicate (n + 1) '0' ++ digits)
      (-(n + digits.length : Int)) := by
  have hpart : ∀ c ∈ List.replicate n '0' ++ digits, c.isDigit = true := fun c hc =>
    (List.mem_append.1 hc).elim (isDigit_of_mem_zeros c) (hdigits c)
  have hone : ∀ c ∈ ['0'], c.isDigit = true := by simp
  have hwrites := Writes.point hone (by simp) hpart
  rwa [List.length_append, List.length_replicate, Nat.cast_add] at hwrites

/-- Digits with a point behind the first one, and an exponent. -/
theorem writes_exponent (e : Int) : (∀ c ∈ digits, c.isDigit = true) → digits ≠ [] →
    Writes ((match digits with
        | [] => []
        | [only] => [only]
        | first :: rest => first :: '.' :: rest) ++ 'e' :: exponentText e)
      digits (e + 1 - digits.length) := by
  intro hdigits hne
  cases digits with
  | nil => exact absurd rfl hne
  | cons first others =>
    obtain ⟨hfirst, hothers⟩ := List.forall_mem_cons.1 hdigits
    cases others with
    | nil => simpa using Writes.exponent hdigits hne e
    | cons second others =>
      have hone : ∀ c ∈ [first], c.isDigit = true := by simpa using hfirst
      have hwrites := Writes.pointExponent hone (by simp) hothers e
      rwa [show e - ((second :: others).length : Int) = e + 1 - (first :: second :: others).length by
        simp] at hwrites

/-- The text of a decimal writes its value. -/
theorem writes_decimal (d : Decimal) :
    ∃ digits e, Writes (JsonText.decimal d) digits e ∧
      (Nat.ofDigitChars 10 digits 0 * 10 ^ e : ℚ) = d.value := by
  have hdigits := isDigit_of_mem_decimal (n := d.digits)
  have hvalue : Nat.ofDigitChars 10 (Text.decimal d.digits) 0 = d.digits := by
    rw [Text.decimal, Nat.ofDigitChars_ten_toDigits]
  have hne : Text.decimal d.digits ≠ [] := Nat.toDigits_ne_nil
  rw [JsonText.decimal, Decimal.value]
  simp only
  generalize Text.decimal d.digits = digits at *
  rw [← hvalue]
  split
  · rename_i hbehind
    simp only [Bool.and_eq_true, decide_eq_true_eq] at hbehind
    refine ⟨_, _, writes_zerosBehind hdigits hne _, ?_⟩
    rw [Nat.ofDigitChars_append, Nat.ofDigitChars_replicate_zero, zpow_neg_one, pow_succ]
    push_cast
    rw [← zpow_natCast, Int.toNat_of_nonneg hbehind.1]
    ring
  split
  · rename_i hbehind hbetween
    simp only [Bool.and_eq_true, decide_eq_true_eq] at hbehind hbetween
    refine ⟨_, _, writes_between hdigits (by omega) (by omega), ?_⟩
    congr 2
    omega
  split
  · rename_i hbefore
    simp only [Bool.and_eq_true, decide_eq_true_eq] at hbefore
    refine ⟨_, _, writes_zerosBefore hdigits _, ?_⟩
    rw [Nat.ofDigitChars_append, Nat.ofDigitChars_replicate_zero, mul_zero]
    congr 2
    omega
  · refine ⟨_, _, writes_exponent _ hdigits hne, ?_⟩
    congr 2
    omega

end JsonText

/-! ## What a number is read as -/

namespace JsonNumber

open JsonToken

/-- The number is one that a value can hold: a whole one fits 64 bits, with a sign or without one, and a
floating-point one is finite. -/
def Fits : JsonNumber → Prop
  | .whole n => -2 ^ 63 ≤ n ∧ n < 2 ^ 64
  | .real x => x.isFinite = true

/-- The number that a text writes, without a rounding in between: a whole number that fits stays whole, and
any other number becomes the nearest floating-point number. It is less strict than the format: zeros may
stand in front, and a point needs digits on one side only. -/
def nearest? (text : List Char) : Option JsonNumber :=
  match read? text with
  | some (.whole n) => some (.whole n)
  | _ => ((Binary64.read? text).filter Binary64.isFinite).map .real

/-- Digits whose value fits a word are taken as a whole. -/
theorem wholeDigits_eq {digits : List Char} {n : Nat} (h : Nat.ofDigitChars 10 digits n ≤ wordMax) :
    wholeDigits ⟨n, 0⟩ digits = ⟨Nat.ofDigitChars 10 digits n, 0⟩ := by
  induction digits generalizing n with
  | nil => rfl
  | cons c rest ih =>
    rw [Nat.ofDigitChars_cons] at h ⊢
    have hle : 10 * n + (c.toNat - '0'.toNat) ≤ wordMax := by
      rw [Nat.ofDigitChars_eq_ofDigitChars_zero] at h
      have hpos : 0 < 10 ^ rest.length := Nat.pow_pos (by decide)
      have := Nat.le_mul_of_pos_left (10 * n + (c.toNat - '0'.toNat)) hpos
      omega
    rw [wholeDigits, mul_comm n 10]
    simp only [decide_true, Bool.true_and, hle, if_true]
    exact ih h

theorem readUnsigned?_decimal (negative : Bool) {n : Nat} (h : n ≤ wordMax) :
    readUnsigned? negative (Text.decimal n) = ofWhole? negative ⟨n, 0⟩ := by
  have hspan : Binary64.spanDigits (Text.decimal n) = (Text.decimal n, []) := by
    simpa using Binary64.spanDigits_append isDigit_of_mem_decimal (r := []) (by simp)
  have hne : Text.decimal n ≠ [] := Nat.toDigits_ne_nil
  have hzero : ¬ (1 < (Text.decimal n).length ∧ (Text.decimal n).head? = some '0') := by
    rintro ⟨hlength, hhead⟩
    rcases Nat.eq_zero_or_pos n with rfl | hpos
    · exact absurd hlength (by decide)
    · obtain ⟨c, rest, hdecimal, hc⟩ := Text.exists_decimal_cons n hpos
      rw [hdecimal, List.head?_cons, Option.some.injEq] at hhead
      rw [hhead] at hc
      exact absurd hc (Char.lt_irrefl _)
  have hvalue : Nat.ofDigitChars 10 (Text.decimal n) 0 = n := by
    rw [Text.decimal, Nat.ofDigitChars_ten_toDigits]
  rw [readUnsigned?, hspan]
  simp only
  rw [if_neg (by simpa [hne] using hzero), wholeDigits_eq (by rwa [hvalue]), hvalue]

/-- A whole number that fits reads back. -/
theorem read?_whole {n : Int} (h : (whole n).Fits) : read? (render (.whole n)) = some (.whole n) := by
  obtain ⟨hlow, hhigh⟩ := h
  have hmax : wordMax = 2 ^ 64 - 1 := rfl
  cases n with
  | ofNat n =>
    have hhead : ∀ rest, Text.decimal n ≠ '-' :: rest := by
      intro rest heq
      have := isDigit_of_mem_decimal (n := n) '-' (by simp [heq])
      exact absurd this (by decide)
    have hlt : (n : Int) < 2 ^ 64 := hhigh
    rw [render, read?, readUnsigned?_decimal false (by omega)]
    · rfl
    · exact hhead
  | negSucc n =>
    have hle : ¬ (n + 1 = 0 ∨ Nat.pow 2 63 < n + 1) := by
      have hpow : Nat.pow 2 63 = 2 ^ 63 := rfl
      omega
    rw [render, read?, readUnsigned?_decimal true (by omega), ofWhole?]
    simp only [ne_eq, not_true_eq_false, if_false, Bool.not_true, Bool.false_eq_true, Bool.or_eq_true,
      decide_eq_true_eq, hle]
    rfl

theorem isDigit_of_readUnsigned?_whole {negative : Bool} {text : List Char} {n : Int}
    (h : readUnsigned? negative text = some (.whole n)) : ∀ c ∈ text, c.isDigit = true := by
  have hrest : text.dropWhile Char.isDigit = [] := by
    rw [readUnsigned?, Binary64.spanDigits] at h
    simp only at h
    split at h
    · cases h
    · split at h
      · assumption
      · split at h
        · cases h
        · simp at h
      · simp at h
  exact List.dropWhile_eq_nil_iff.1 hrest

/-- Only digits, with a sign in front or without one, write a whole number. -/
theorem isDigit_of_read?_whole {text : List Char} {n : Int} (h : read? text = some (.whole n)) :
    ∀ c ∈ text, c.isDigit = true ∨ c = '-' := by
  intro c hc
  unfold read? at h
  split at h
  · rcases List.mem_cons.1 hc with rfl | hc
    · exact .inr rfl
    · exact .inl (isDigit_of_readUnsigned?_whole h c hc)
  · exact .inl (isDigit_of_readUnsigned?_whole h c hc)

/-! ## What is read back -/

/-- The text of a floating-point number without its sign. -/
def realText (x : Binary64) : List Char :=
  if x.magnitude = 0 then ['0', '.', '0'] else JsonText.decimal (Binary64.shortest .toEven x)

theorem render_real (x : Binary64) :
    render (.real x) = (if x.negative then ['-'] else []) ++ realText x := by
  rw [render, realText]
  split <;> rfl

/-- The text of a floating-point number writes digits that are read as the number. -/
theorem writes_realText (x : Binary64) :
    ∃ digits e, Binary64.Writes (realText x) digits e ∧
      (x.isFinite = true → Binary64.nearest x.negative digits e = x) := by
  rw [realText]
  split
  · rename_i hzero
    have hone : ∀ c ∈ ['0'], c.isDigit = true := by simp
    exact ⟨_, _, .point hone (by simp) hone, fun _ => (Binary64.eq_zeroOf hzero).symm⟩
  · rename_i hmagnitude
    obtain ⟨digits, e, hwrites, hvalue⟩ := JsonText.writes_decimal (Binary64.shortest .toEven x)
    refine ⟨digits, e, hwrites, fun h => Binary64.nearest_of_rounds h hmagnitude ?_⟩
    rw [hvalue]
    exact (Binary64.rounds_shortest .toEven hmagnitude).2

/-- A floating-point number that is finite reads back. -/
theorem binary64_read?_real {x : Binary64} (h : x.isFinite = true) :
    Binary64.read? (render (.real x)) = some x := by
  obtain ⟨digits, e, hwrites, hnearest⟩ := writes_realText x
  obtain ⟨c, rest, htext, hc⟩ := hwrites.exists_digit_cons
  have hread : Binary64.readUnsigned? x.negative (realText x) = some x := by
    rw [htext, Binary64.readUnsigned?_of_digit hc, ← htext, hwrites.readDecimal?_eq, hnearest h]
  rw [render_real]
  split
  · rename_i hnegative
    rw [hnegative] at hread
    exact hread
  · rename_i hpositive
    rw [Bool.eq_false_iff.2 hpositive] at hread
    rw [List.nil_append, Binary64.read?]
    · exact hread
    · rintro text heq
      rw [htext] at heq
      rw [(List.cons.inj heq).1] at hc
      exact absurd hc (by decide)
    · rintro text heq
      rw [htext] at heq
      rw [(List.cons.inj heq).1] at hc
      exact absurd hc (by decide)

/-- The text of a number that fits gives the number. -/
theorem nearest?_render {n : JsonNumber} (h : n.Fits) : nearest? n.render = some n := by
  cases n with
  | whole n => rw [nearest?, read?_whole h]
  | real x =>
    have hwhole : ∀ n, read? (render (.real x)) ≠ some (.whole n) := by
      intro n hn
      obtain ⟨digits, e, hwrites, -⟩ := writes_realText x
      obtain ⟨c, hc, hdigit, hsign⟩ := hwrites.exists_mark_mem
      have := isDigit_of_read?_whole hn c (by rw [render_real]; exact List.mem_append_right _ hc)
      simp [hdigit, hsign] at this
    rw [nearest?]
    split
    · rename_i n hn
      exact absurd hn (hwhole n)
    · have hfinite : x.isFinite = true := h
      rw [binary64_read?_real h, Option.filter_some, if_pos hfinite, Option.map_some]

-- rounding the digits and the power of ten first leads from 2.997e-22 to another number
example : read? (render (.real ⟨0x3b76a50a84e36e35⟩)) ≠ some (.real ⟨0x3b76a50a84e36e35⟩) := by decide +kernel

theorem exists_decimal_cons (n : Nat) :
    ∃ c rest, Text.decimal n = c :: rest ∧ c.isDigit = true ∧ ∀ c ∈ rest, goesOnNumber c = true := by
  obtain ⟨c, rest, hn⟩ := List.exists_cons_of_ne_nil (Nat.toDigits_ne_nil (b := 10) (n := n))
  have hdigits := isDigit_of_mem_decimal (n := n)
  rw [Text.decimal, hn] at hdigits
  obtain ⟨hc, hrest⟩ := List.forall_mem_cons.1 hdigits
  exact ⟨c, rest, hn, hc, fun c hc => goesOnNumber_of_isDigit (hrest c hc)⟩

/-- The text of a number begins with a digit or a sign, and only characters of a number follow. -/
theorem exists_render_cons (n : JsonNumber) :
    ∃ c rest, n.render = c :: rest ∧ (c = '-' ∨ c.isDigit = true) ∧
      ∀ c ∈ rest, goesOnNumber c = true := by
  match n with
  | .whole (.ofNat n) =>
    obtain ⟨c, rest, hn, hc, hrest⟩ := exists_decimal_cons n
    exact ⟨c, rest, hn, .inr hc, hrest⟩
  | .whole (.negSucc n) =>
    obtain ⟨c, rest, hn, hc, hrest⟩ := exists_decimal_cons (n + 1)
    exact ⟨'-', c :: rest, by rw [render, hn], .inl rfl,
      List.forall_mem_cons.2 ⟨goesOnNumber_of_isDigit hc, hrest⟩⟩
  | .real x =>
    obtain ⟨digits, e, hwrites, -⟩ := writes_realText x
    obtain ⟨c, rest, htext, hc⟩ := hwrites.exists_digit_cons
    have hgoes := hwrites.goesOnNumber_of_mem
    rw [render_real]
    split
    · exact ⟨'-', realText x, rfl, .inl rfl, hgoes⟩
    · rw [htext] at hgoes ⊢
      exact ⟨c, rest, rfl, .inr hc, fun d hd => hgoes d (List.mem_cons_of_mem _ hd)⟩

end JsonNumber

end SiteSearch
