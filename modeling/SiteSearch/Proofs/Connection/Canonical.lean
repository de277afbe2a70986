import Mathlib.Data.List.Perm.Basic
import Mathlib.Data.Prod.Lex
import Mathlib.Data.String.Basic
import SiteSearch.Connection.Signature

/-!
# Queries in canonical form

The canonical form of a query does not depend on the order of its pairs, and it tells everything else: a
byte is read off the first character of its form (`Signer.canonicalByte_append_inj`), and no name and no
value has a separator left in it. So two queries have one form exactly if their pairs are the same up to
order (`Signer.canonicalQuery_eq_iff`), and requests that differ in that order only are signed alike.
-/

namespace SiteSearch.Signer

open SiteSearch.Text (Bytes)

variable {b b' : UInt8} {bytes bytes' : Bytes} {c : Char} {text text' rest rest' : List Char}
variable {pairs pairs' : List (String × String)} {pieces pieces' : List (List Char)}

/-! ## Characters of the form -/

/-- A letter or digit, or one of four other characters. -/
def IsPlain (c : Char) : Prop :=
  c.isAlphanum = true ∨ c ∈ ['-', '_', '.', '~']

/-- A hexadecimal digit, where letters are in uppercase. -/
def IsUpperDigit (c : Char) : Prop :=
  c.isDigit = true ∨ 'A' ≤ c ∧ c ≤ 'F'

/-- Plain characters, escapes of two digits, and characters that set names and values apart. -/
inductive Canonical (separators : List Char) : List Char → Prop where
  | nil : Canonical separators []
  | plain {c : Char} {rest : List Char} (h : IsPlain c) (tail : Canonical separators rest) :
    Canonical separators (c :: rest)
  | escape {high low : Char} {rest : List Char} (hhigh : IsUpperDigit high) (hlow : IsUpperDigit low)
    (tail : Canonical separators rest) : Canonical separators ('%' :: high :: low :: rest)
  | separator {c : Char} {rest : List Char} (h : c ∈ separators) (tail : Canonical separators rest) :
    Canonical separators (c :: rest)

namespace Canonical

variable {separators separators' : List Char}

theorem append (h : Canonical separators text) (h' : Canonical separators text') :
    Canonical separators (text ++ text') := by
  induction h with
  | nil => exact h'
  | plain hc _ ih => exact .plain hc ih
  | escape hhigh hlow _ ih => exact .escape hhigh hlow ih
  | separator hc _ ih => exact .separator hc ih

theorem mono (h : Canonical separators text) (hsub : separators ⊆ separators') :
    Canonical separators' text := by
  induction h with
  | nil => exact .nil
  | plain hc _ ih => exact .plain hc ih
  | escape hhigh hlow _ ih => exact .escape hhigh hlow ih
  | separator hc _ ih => exact .separator (hsub hc) ih

theorem intercalate (hc : c ∈ separators) (h : ∀ piece ∈ pieces, Canonical separators piece) :
    Canonical separators ([c].intercalate pieces) := by
  induction pieces with
  | nil => exact .nil
  | cons piece pieces ih =>
    obtain ⟨hpiece, hpieces⟩ := List.forall_mem_cons.1 h
    cases pieces with
    | nil => simpa using hpiece
    | cons next pieces =>
      rw [List.intercalate_cons_cons]
      exact (hpiece.append (.separator hc .nil)).append (ih hpieces)

end Canonical

/-- A character that is neither plain nor a percent sign has to be one of the separators. -/
theorem mem_separators_of_mem {separators : List Char} (h : Canonical separators text) (hmem : c ∈ text)
    (hplain : ¬ IsPlain c) (hdigit : ¬ IsUpperDigit c) (hpercent : c ≠ '%') : c ∈ separators := by
  induction h with
  | nil => cases hmem
  | plain hc _ ih =>
    rcases List.mem_cons.1 hmem with rfl | hmem
    · exact absurd hc hplain
    · exact ih hmem
  | escape hhigh hlow _ ih =>
    simp only [List.mem_cons] at hmem
    rcases hmem with rfl | rfl | rfl | hmem
    · exact absurd rfl hpercent
    · exact absurd hhigh hdigit
    · exact absurd hlow hdigit
    · exact ih hmem
  | separator hc _ ih =>
    rcases List.mem_cons.1 hmem with rfl | hmem
    · exact hc
    · exact ih hmem

/-! ## Bytes -/

theorem isUpperDigit_hexDigitUpper {n : Nat} (h : n < 16) : IsUpperDigit (Text.hexDigitUpper n) := by
  have hall : ∀ m < 16, IsUpperDigit (Text.hexDigitUpper m) := by
    unfold IsUpperDigit
    decide
  exact hall n h

theorem isPlain_of_isUnreserved (h : isUnreserved b = true) : IsPlain (Char.ofNat b.toNat) := by
  simpa [isUnreserved, IsPlain, or_assoc] using h

theorem canonical_canonicalByte (b : UInt8) : Canonical [] (canonicalByte b) := by
  unfold canonicalByte
  split
  · rename_i hplain
    exact .plain (isPlain_of_isUnreserved hplain) .nil
  · have hb := b.toNat_lt
    exact .escape (isUpperDigit_hexDigitUpper (by omega)) (isUpperDigit_hexDigitUpper (by omega)) .nil

theorem hexDigitUpper_inj {m n : Nat} (hm : m < 16) (hn : n < 16)
    (h : Text.hexDigitUpper m = Text.hexDigitUpper n) : m = n := by
  have hvalue := congrArg Text.hexValue? h
  rw [Text.hexValue?_hexDigitUpper hm, Text.hexValue?_hexDigitUpper hn] at hvalue
  exact Option.some.inj hvalue

theorem escapeByte_append_inj (h : Url.escapeByte b ++ rest = Url.escapeByte b' ++ rest') :
    b = b' ∧ rest = rest' := by
  have hb := b.toNat_lt
  have hb' := b'.toNat_lt
  simp only [Url.escapeByte, List.cons_append, List.nil_append, List.cons.injEq, true_and] at h
  obtain ⟨hhigh, hlow, hrest⟩ := h
  have hdiv := hexDigitUpper_inj (by omega) (by omega) hhigh
  have hmod := hexDigitUpper_inj (by omega) (by omega) hlow
  exact ⟨UInt8.toNat_inj.1 (by omega), hrest⟩

theorem toNat_char (b : UInt8) : (Char.ofNat b.toNat).toNat = b.toNat := by
  have hb := b.toNat_lt
  have hvalid : b.toNat.isValidChar := .inl (by omega)
  rw [Char.ofNat, dif_pos hvalid]
  rfl

/-- An escape begins with a percent sign and a plain character is none, so the first character tells how
far the form of the first byte goes. -/
theorem canonicalByte_append_inj (h : canonicalByte b ++ rest = canonicalByte b' ++ rest') :
    b = b' ∧ rest = rest' := by
  have hpercent : ¬ IsPlain '%' := by
    unfold IsPlain
    decide
  unfold canonicalByte at h
  split at h <;> split at h
  · obtain ⟨hchar, hrest⟩ := List.cons.inj h
    have hnat := congrArg Char.toNat hchar
    rw [toNat_char, toNat_char] at hnat
    exact ⟨UInt8.toNat_inj.1 hnat, hrest⟩
  · rename_i hplain _
    exact absurd ((List.cons.inj h).1 ▸ isPlain_of_isUnreserved hplain) hpercent
  · rename_i hplain
    exact absurd ((List.cons.inj h).1 ▸ isPlain_of_isUnreserved hplain) hpercent
  · exact escapeByte_append_inj h

theorem canonicalByte_ne_nil (b : UInt8) : canonicalByte b ≠ [] := by
  unfold canonicalByte
  split <;> simp [Url.escapeByte]

theorem flatMap_canonicalByte_inj (h : bytes.flatMap canonicalByte = bytes'.flatMap canonicalByte) :
    bytes = bytes' := by
  induction bytes generalizing bytes' with
  | nil =>
    cases bytes' with
    | nil => rfl
    | cons b' bytes' => simp [canonicalByte_ne_nil] at h
  | cons b bytes ih =>
    cases bytes' with
    | nil => simp [canonicalByte_ne_nil] at h
    | cons b' bytes' =>
      rw [List.flatMap_cons, List.flatMap_cons] at h
      obtain ⟨rfl, hrest⟩ := canonicalByte_append_inj h
      rw [ih hrest]

/-! ## Texts -/

theorem utf8Of_injective : Function.Injective Text.utf8Of := by
  intro s t h
  have hencoded : s.toList.utf8Encode = t.toList.utf8Encode := congrArg List.toByteArray h
  have hdecoded := congrArg ByteArray.utf8Decode? hencoded
  rw [List.utf8Decode?_utf8Encode, List.utf8Decode?_utf8Encode] at hdecoded
  exact String.toList_inj.1 (by simpa using hdecoded)

theorem canonicalText_injective : Function.Injective canonicalText := by
  intro s t h
  exact utf8Of_injective (flatMap_canonicalByte_inj (String.ofList_injective h))

theorem canonical_canonicalText (s : String) : Canonical [] (canonicalText s).toList := by
  rw [canonicalText, String.toList_ofList]
  induction Text.utf8Of s with
  | nil => exact .nil
  | cons b bytes ih => exact (canonical_canonicalByte b).append ih

theorem separator_notMem_canonicalText (hc : c ∈ ['=', '&']) (s : String) :
    c ∉ (canonicalText s).toList := by
  intro hmem
  have hother : ¬ IsPlain c ∧ ¬ IsUpperDigit c ∧ c ≠ '%' := by
    obtain rfl | rfl : c = '=' ∨ c = '&' := by simpa using hc
    all_goals
      unfold IsPlain IsUpperDigit
      decide
  obtain ⟨hplain, hdigit, hpercent⟩ := hother
  cases mem_separators_of_mem (canonical_canonicalText s) hmem hplain hdigit hpercent

/-! ## Pairs -/

/-- A pair in canonical form. -/
def pairForm (pair : String × String) : List Char :=
  (canonicalText pair.1).toList ++ '=' :: (canonicalText pair.2).toList

theorem pairForm_injective : Function.Injective pairForm := by
  intro pair pair' h
  have hequals : ∀ s, '=' ∉ (canonicalText s).toList := separator_notMem_canonicalText (by simp)
  obtain ⟨hname, -, hvalue⟩ := (List.append_cons_inj_of_notMem (hequals _) (hequals _)).1 h
  rw [String.toList_inj] at hname hvalue
  exact Prod.ext (canonicalText_injective hname) (canonicalText_injective hvalue)

theorem canonical_pairForm (pair : String × String) : Canonical ['=', '&'] (pairForm pair) := by
  have hpart : ∀ s, Canonical ['=', '&'] (canonicalText s).toList := fun s =>
    (canonical_canonicalText s).mono (List.nil_subset _)
  exact (hpart pair.1).append (.separator (by simp) (hpart pair.2))

theorem ampersand_notMem_pairForm (pair : String × String) : '&' ∉ pairForm pair := by
  have hampersand : ∀ s, '&' ∉ (canonicalText s).toList := separator_notMem_canonicalText (by simp)
  simp [pairForm, hampersand]

theorem pairForm_ne_nil (pair : String × String) : pairForm pair ≠ [] := by
  simp [pairForm]

/-! ## Queries -/

/-- The pairs of a query with their parts in canonical form, sorted. -/
def sortedPairs (pairs : List (String × String)) : List (String × String) :=
  (pairs.map fun pair => (canonicalText pair.1, canonicalText pair.2)).mergeSort pairNotAfter

theorem sortedPairs_perm (pairs : List (String × String)) :
    (sortedPairs pairs).Perm (pairs.map fun pair => (canonicalText pair.1, canonicalText pair.2)) :=
  List.mergeSort_perm _ _

theorem pairNotAfter_iff {pair pair' : String × String} :
    pairNotAfter pair pair' = true ↔ toLex pair ≤ toLex pair' := by
  simp [pairNotAfter, Prod.Lex.toLex_le_toLex]

theorem pairwise_sortedPairs (pairs : List (String × String)) :
    (sortedPairs pairs).Pairwise fun pair later => toLex pair ≤ toLex later := by
  simp only [← pairNotAfter_iff]
  refine List.pairwise_mergeSort (fun a b c => ?_) (fun a b => ?_) _
  · simpa only [pairNotAfter_iff] using le_trans
  · simpa only [Bool.or_eq_true, pairNotAfter_iff] using le_total _ _

/-- Sorting leaves nothing of the order that the pairs had. -/
theorem sortedPairs_of_perm (h : pairs.Perm pairs') : sortedPairs pairs = sortedPairs pairs' := by
  refine List.Perm.eq_of_pairwise (fun a b _ _ hab hba => toLex.injective (le_antisymm hab hba))
    (pairwise_sortedPairs pairs) (pairwise_sortedPairs pairs') ?_
  exact (sortedPairs_perm pairs).trans ((h.map _).trans (sortedPairs_perm pairs').symm)

/-- The pairs of a query in canonical form, in their order there. -/
def pairForms (pairs : List (String × String)) : List (List Char) :=
  (sortedPairs pairs).map fun pair => pair.1.toList ++ '=' :: pair.2.toList

theorem pairForms_perm (pairs : List (String × String)) :
    (pairForms pairs).Perm (pairs.map pairForm) := by
  have hmap := (sortedPairs_perm pairs).map fun pair => pair.1.toList ++ '=' :: pair.2.toList
  rwa [List.map_map] at hmap

theorem exists_of_mem_pairForms {piece : List Char} (h : piece ∈ pairForms pairs) :
    ∃ pair, pairForm pair = piece := by
  obtain ⟨pair, -, hpair⟩ := List.mem_map.1 ((pairForms_perm pairs).mem_iff.1 h)
  exact ⟨pair, hpair⟩

theorem toList_canonicalQuery (pairs : List (String × String)) :
    (canonicalQuery pairs).toList = ['&'].intercalate (pairForms pairs) := by
  rw [canonicalQuery, String.toList_intercalate, List.map_map]
  congr 2
  funext pair
  simp

/-- Pieces that are not empty and do not hold the separator are told apart again where they are joined. -/
theorem intercalate_inj (h : ∀ piece ∈ pieces, c ∉ piece ∧ piece ≠ [])
    (h' : ∀ piece ∈ pieces', c ∉ piece ∧ piece ≠ [])
    (heq : [c].intercalate pieces = [c].intercalate pieces') : pieces = pieces' := by
  -- joining no pieces gives the text that splits into one empty piece, and none of the pieces is empty
  have hsplit : ∀ {list : List (List Char)}, (∀ piece ∈ list, c ∉ piece ∧ piece ≠ []) →
      ([c].intercalate list).splitOn c = if list = [] then [[]] else list := by
    intro list hlist
    split
    · rename_i hnil
      rw [hnil]
      rfl
    · rename_i hne
      exact List.splitOn_intercalate c (fun piece hpiece => (hlist piece hpiece).1) hne
  have hboth := hsplit h
  rw [heq, hsplit h'] at hboth
  split at hboth <;> split at hboth
  · simp_all
  · exact absurd rfl (h [] (hboth ▸ List.mem_cons_self)).2
  · exact absurd rfl (h' [] (hboth ▸ List.mem_cons_self)).2
  · exact hboth.symm

/-- Queries have one canonical form if their pairs are the same up to order, and only then. -/
theorem canonicalQuery_eq_iff : canonicalQuery pairs = canonicalQuery pairs' ↔ pairs.Perm pairs' := by
  rw [← String.toList_inj, toList_canonicalQuery, toList_canonicalQuery]
  constructor
  · intro h
    have hpieces : ∀ {list : List (String × String)}, ∀ piece ∈ pairForms list, '&' ∉ piece ∧ piece ≠ [] := by
      intro list piece hpiece
      obtain ⟨pair, rfl⟩ := exists_of_mem_pairForms hpiece
      exact ⟨ampersand_notMem_pairForm pair, pairForm_ne_nil pair⟩
    have hforms := intercalate_inj hpieces hpieces h
    refine (List.map_perm_map_iff pairForm_injective).1 ?_
    exact (pairForms_perm pairs).symm.trans (hforms ▸ pairForms_perm pairs')
  · intro h
    rw [pairForms, pairForms, sortedPairs_of_perm h]

theorem canonical_canonicalQuery (pairs : List (String × String)) :
    Canonical ['=', '&'] (canonicalQuery pairs).toList := by
  rw [toList_canonicalQuery]
  refine .intercalate (by simp) fun piece hpiece => ?_
  obtain ⟨pair, rfl⟩ := exists_of_mem_pairForms hpiece
  exact canonical_pairForm pair

/-! ## Signatures -/

/-- The order of the pairs of a query does not matter to the signature. -/
theorem sign_of_perm {url : Url} {query : Option String}
    (h : (Url.readForm (url.query.getD "")).Perm (Url.readForm (query.getD ""))) (signer : Signer)
    (method : String) (body : Bytes) (now : Int) :
    signer.sign method { url with query } body now = signer.sign method url body now := by
  have hquery := canonicalQuery_eq_iff.2 h
  simp only [sign, coveredHeaders, canonicalRequest, hquery]
  rfl

/-- The canonical form of a query tells its pairs up to their order, and nothing about that order. It has
no characters but plain ones, escapes with uppercase digits and the two separators. So requests that differ
in the order of the pairs only are signed alike. -/
theorem canonicalQuery_exact :
    (∀ pairs pairs', canonicalQuery pairs = canonicalQuery pairs' ↔ pairs.Perm pairs') ∧
      (∀ pairs, Canonical ['=', '&'] (canonicalQuery pairs).toList) ∧
      ∀ (signer : Signer) (method : String) (url : Url) (query : Option String) (body : Bytes) (now : Int),
        (Url.readForm (url.query.getD "")).Perm (Url.readForm (query.getD "")) →
          signer.sign method { url with query } body now = signer.sign method url body now :=
  ⟨fun _ _ => canonicalQuery_eq_iff, canonical_canonicalQuery,
    fun signer method _ _ body now h => sign_of_perm h signer method body now⟩

/-- Two ways to ask for a table in JSON. -/
theorem canonicalQuery_exact_of_table :
    let url : Url :=
      { scheme := "https", host := some (.name "a.example"), path := .segments ["_cat", "indices"],
        query := some "v=true&format=json" }
    let signer : Signer :=
      { accessKey := "key", secretKey := "secret", sessionToken := none, region := "eu-west-1" }
    (Url.readForm "v=true&format=json").Perm (Url.readForm "format=json&v=true") ∧
      signer.sign "GET" { url with query := some "format=json&v=true" } [] 0 = signer.sign "GET" url [] 0 := by
  intro url signer
  have hperm : (Url.readForm "v=true&format=json").Perm (Url.readForm "format=json&v=true") := by
    have hread : Url.readForm "v=true&format=json" = [("v", "true"), ("format", "json")] := by
      decide +kernel
    have hread' : Url.readForm "format=json&v=true" = [("format", "json"), ("v", "true")] := by
      decide +kernel
    rw [hread, hread']
    exact .swap _ _ _
  exact ⟨hperm, canonicalQuery_exact.2.2 signer "GET" url (some "format=json&v=true") [] 0 hperm⟩

/-- No pair and a pair of empty texts are told apart. -/
example : canonicalQuery [] = "" ∧ canonicalQuery [("", "")] = "=" := by decide +kernel

end SiteSearch.Signer
