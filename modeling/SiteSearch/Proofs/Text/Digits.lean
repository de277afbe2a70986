import SiteSearch.Text.Unsigned

/-!
# Words in digits

A word reads back from its decimal form, but it can be written in more ways: with zeros in front. Of all
of them the decimal form is the only one that does not begin with a zero (`decimal_of_digitsWord?`), so it
comes last in the order of texts (`lt_decimal_of_digitsWord?`).
-/

namespace SiteSearch.Text

/-! ## What is read -/

theorem isDigit_of_digitsWord? {digits : List Char} {w : UInt64} (h : digitsWord? digits = some w) :
    ∀ c ∈ digits, c.isDigit := by
  unfold digitsWord? digitsValue? at h
  by_cases hd : (!digits.isEmpty && digits.all Char.isDigit) = true
  · rw [Bool.and_eq_true] at hd
    exact List.all_eq_true.1 hd.2
  · simp [hd] at h

theorem separator_notMem_of_digitsWord? {digits : List Char} {w : UInt64}
    (h : digitsWord? digits = some w) : '_' ∉ digits :=
  fun hmem => absurd (isDigit_of_digitsWord? h '_' hmem) (by decide)

/-- Digits alone are read without a sign. -/
theorem readWord?_of_digits {digits : List Char} {w : UInt64} (h : digitsWord? digits = some w) :
    readWord? digits = some w := by
  cases digits with
  | nil => exact h
  | cons c rest =>
    have hplus : c ≠ '+' := by
      rintro rfl
      exact absurd (isDigit_of_digitsWord? h '+' List.mem_cons_self) (by decide)
    rw [readWord?]
    · exact h
    · rintro rest' heq
      exact hplus (List.cons.inj heq).1

/-- A word that is written is read back. -/
theorem readWord?_writeWord (w : UInt64) : readWord? (writeWord w).toList = some w := by
  rw [writeWord, String.toList_ofList]
  exact readWord?_of_digits (digitsWord?_decimal w)

theorem toNat_of_digitsWord? {digits : List Char} {w : UInt64} (h : digitsWord? digits = some w) :
    w.toNat = Nat.ofDigitChars 10 digits 0 := by
  unfold digitsWord? digitsValue? at h
  split at h
  · cases h
  · rename_i n hn
    split at hn
    · split at h
      · rename_i hlt
        rw [← Option.some.inj h, UInt64.toNat_ofNat_of_lt' hlt, ← Option.some.inj hn]
      · cases h
    · cases hn

/-! ## Decimal forms -/

theorem toNat_of_isDigit {c : Char} (h : c.isDigit = true) : 48 ≤ c.toNat ∧ c.toNat ≤ 57 := by
  simpa [Char.isDigit, UInt32.le_iff_toNat_le] using h

/-- A digit is the digit of its value. -/
theorem digitChar_of_isDigit {c : Char} (h : c.isDigit = true) :
    c.toNat - '0'.toNat < 10 ∧ Nat.digitChar (c.toNat - '0'.toNat) = c := by
  have hbounds := toNat_of_isDigit h
  have hzero : '0'.toNat = 48 := rfl
  refine ⟨by omega, Char.toNat_inj.1 ?_⟩
  rw [Nat.toNat_digitChar_of_lt_ten (by omega)]
  omega

/-- Digits behind the decimal form of a number are read on from it. -/
theorem decimal_append {digits : List Char} (h : ∀ c ∈ digits, c.isDigit = true) {n : Nat} (hn : 0 < n) :
    decimal n ++ digits = decimal (Nat.ofDigitChars 10 digits n) := by
  induction digits generalizing n with
  | nil => exact List.append_nil _
  | cons c rest ih =>
    obtain ⟨hc, hrest⟩ := List.forall_mem_cons.1 h
    obtain ⟨hlt, hchar⟩ := digitChar_of_isDigit hc
    have hone : decimal n ++ [c] = decimal (10 * n + (c.toNat - '0'.toNat)) := by
      rw [decimal, decimal, ← Nat.toDigits_append_toDigits (by decide) hn hlt,
        Nat.toDigits_of_lt_base hlt, hchar]
    rw [Nat.ofDigitChars_cons, ← ih hrest (by omega), ← hone, List.append_assoc]
    rfl

/-- Digits that do not begin with a zero are the decimal form of their value. -/
theorem decimal_of_digitsWord? {c : Char} {rest : List Char} {w : UInt64} (hc : c ≠ '0')
    (h : digitsWord? (c :: rest) = some w) : c :: rest = decimal w.toNat := by
  obtain ⟨hdigit, hrest⟩ := List.forall_mem_cons.1 (isDigit_of_digitsWord? h)
  obtain ⟨hlt, hchar⟩ := digitChar_of_isDigit hdigit
  have hpos : 0 < c.toNat - '0'.toNat := by
    refine Nat.pos_of_ne_zero fun hzero => hc ?_
    rw [← hchar, hzero]
    rfl
  have hfirst : decimal (c.toNat - '0'.toNat) = [c] := by
    rw [decimal, Nat.toDigits_of_lt_base hlt, hchar]
  rw [toNat_of_digitsWord? h, Nat.ofDigitChars_cons, Nat.mul_zero, Nat.zero_add,
    ← decimal_append hrest hpos, hfirst]
  rfl

/-- The decimal form of a number that is not zero does not begin with a zero. -/
theorem exists_decimal_cons (n : Nat) (hn : 0 < n) : ∃ c rest, decimal n = c :: rest ∧ '0' < c := by
  induction n using Nat.strongRecOn with
  | ind n ih =>
    rcases Nat.lt_or_ge n 10 with hlt | hge
    · refine ⟨Nat.digitChar n, [], Nat.toDigits_of_lt_base hlt, ?_⟩
      rw [Char.lt_def, UInt32.lt_iff_toNat_lt]
      have hvalue : (Nat.digitChar n).toNat = '0'.toNat + n := Nat.toNat_digitChar_of_lt_ten hlt
      show '0'.toNat < (Nat.digitChar n).toNat
      omega
    · obtain ⟨c, rest, hdecimal, hc⟩ := ih (n / 10) (by omega) (by omega)
      refine ⟨c, rest ++ [(n % 10).digitChar], ?_, hc⟩
      rw [decimal, Nat.toDigits_of_base_le (by decide) hge, ← decimal, hdecimal]
      rfl

/-- Of the ways to write a number with digits, the one without leading zeros comes last, unless the
number is zero. -/
theorem lt_decimal_of_digitsWord? {digits : List Char} {w : UInt64} (h : digitsWord? digits = some w)
    (hw : w ≠ 0) (hne : digits ≠ decimal w.toNat) : digits < decimal w.toNat := by
  have hpos : 0 < w.toNat := Nat.pos_of_ne_zero fun hzero => hw (UInt64.toNat_inj.1 hzero)
  obtain ⟨first, others, hdecimal, hfirst⟩ := exists_decimal_cons w.toNat hpos
  cases digits with
  | nil => cases h
  | cons c rest =>
    by_cases hc : c = '0'
    · rw [hdecimal, List.cons_lt_cons_iff, hc]
      exact .inl hfirst
    · exact absurd (decimal_of_digitsWord? hc h) hne

end SiteSearch.Text
