import SiteSearch.Engine.Memory.Condition
import SiteSearch.Proofs.Memory.Stars
import SiteSearch.Proofs.Query.Clauses

/-!
# What the terms of a query ask of a document

A term is in a text as a word, as an end, a start or a part of one, or, for a phrase, as words in a row
(`Query.Term.IsIn`). A document has the term where one of its fields with text has it, or the field that
the term is limited to (`Query.Term.FoundIn`).

The engine looks at clauses instead. A clause with a sign is met where the term is found
(`Query.Term.met_clause_of_signed`), and so is the clause of a phrase
(`Query.Term.met_clause_of_quoted`). What becomes of a document then depends on all clauses together:
`Clause.isSome_scoreClauses` says which documents they admit.
-/

namespace SiteSearch

/-! ## Runs of words -/

namespace Condition

theorem hasRun_iff {run : List (List Char)} :
    ∀ {words : List (List Char)}, hasRun run words = true ↔ run <:+: words
  | [] => by simp [hasRun]
  | word :: words => by
    rw [hasRun, Bool.or_eq_true, hasRun_iff, List.infix_cons_iff, List.isPrefixOf_iff_prefix]

end Condition

/-! ## Terms -/

namespace Query.Term

/-- A word is what is wanted, or ends, begins or does both with it where it is open there. -/
def WordFits (openLeft openRight : Bool) (wanted word : List Char) : Prop :=
  match openLeft, openRight with
  | false, false => word = wanted
  | false, true => wanted <+: word
  | true, false => wanted <:+ word
  | true, true => wanted <:+: word

/-- A text has a term: for a phrase, its words in a row, else one word that fits. Case does not
count. -/
def IsIn (term : Term) (text : List Char) : Prop :=
  let wanted := Text.lowercase term.text.toList
  let words := Text.words (Text.lowercase text)
  if term.isQuoted then Text.words wanted ≠ [] ∧ Text.words wanted <:+: words
  else ∃ word ∈ words, WordFits term.openLeft term.openRight wanted word

/-- A document has a term in one of its fields with text, or in the one that the term is limited to. -/
def FoundIn (names : FieldNames) (document : Json) (term : Term) : Prop :=
  ∃ field ∈ Condition.textFields document,
    (∀ handle ∈ term.scope, field.1 = names.ofHandle handle) ∧ term.IsIn field.2.toList

/-- A document has a term as it is written with a star in front of its sign: star and sign belong to the
word, or else to the name of the field. -/
def FoundStarred (names : FieldNames) (document : Json) (term : Term) : Prop :=
  let wanted := Text.lowercase term.text.toList
  ∃ field ∈ Condition.textFields document,
    match term.scope with
    | none => ∃ word ∈ Text.words (Text.lowercase field.2.toList),
        WordFits true term.openRight (term.sign :: wanted) word
    | some handle => field.1 = term.starredField names handle ∧
        ∃ word ∈ Text.words (Text.lowercase field.2.toList),
          WordFits false term.openRight wanted word

instance (openLeft openRight : Bool) (wanted word : List Char) :
    Decidable (WordFits openLeft openRight wanted word) :=
  match openLeft, openRight with
  | false, false => inferInstanceAs (Decidable (word = wanted))
  | false, true => inferInstanceAs (Decidable (wanted <+: word))
  | true, false => inferInstanceAs (Decidable (wanted <:+ word))
  | true, true => inferInstanceAs (Decidable (wanted <:+: word))

instance (term : Term) (text : List Char) : Decidable (term.IsIn text) :=
  inferInstanceAs (Decidable (ite (term.isQuoted = true) (Text.words (Text.lowercase _) ≠ [] ∧ _ <:+: _)
    (∃ word ∈ Text.words (Text.lowercase text), WordFits term.openLeft term.openRight _ word)))

instance (names : FieldNames) (document : Json) (term : Term) : Decidable (term.FoundIn names document) :=
  inferInstanceAs (Decidable (∃ field ∈ Condition.textFields document,
    (∀ handle ∈ term.scope, field.1 = names.ofHandle handle) ∧ term.IsIn field.2.toList))

end Query.Term

/-! ## Clauses -/

namespace Clause

/-- A document meets a clause in one of its fields with text, or in the one that the clause names. -/
def MetBy (document : Json) (clause : Clause) : Prop :=
  ∃ field ∈ Condition.textFields document,
    (∀ name ∈ clause.field, field.1 = name) ∧ Condition.textMeets clause field.2 = true

/-- A document that some clauses admit: it meets those that have to be met and none that must not be,
and where none has to be met, it meets one of those that may be. -/
structure Admit (document : Json) (clauses : List Clause) : Prop where
  asked : clauses ≠ []
  required : ∀ clause ∈ clauses, clause.occur = .must → clause.MetBy document
  excluded : ∀ clause ∈ clauses, clause.occur = .mustNot → ¬ clause.MetBy document
  optional : (∃ clause ∈ clauses, clause.occur = .should) →
    (∃ clause ∈ clauses, clause.occur = .must) ∨
      ∃ clause ∈ clauses, clause.occur = .should ∧ clause.MetBy document

end Clause

namespace Condition

variable {weights : List FieldWeight} {document : Json} {clauses : List Clause}

theorem isSome_clauseScore {clause : Clause} :
    (clauseScore weights (textFields document) clause).isSome = true ↔ clause.MetBy document := by
  have hfold : ∀ (f : Option Binary64 → String × String → Binary64) (found : List (String × String))
      (top : Option Binary64), (found.foldl (fun top field => some (f top field)) top).isSome = true ↔
        top.isSome = true ∨ found ≠ [] := by
    intro f found
    induction found with
    | nil => simp
    | cons field found ih => simp [ih]
  rw [clauseScore, hfold, Clause.MetBy]
  simp only [Option.isSome_none, Bool.false_eq_true, false_or, ne_eq, List.filter_eq_nil_iff,
    Bool.and_eq_true, Classical.not_forall, Decidable.not_not, exists_prop]
  refine exists_congr fun field => and_congr_right fun _ => and_congr_left fun _ => ?_
  cases clause.field <;> simp [eq_comm]

section

variable {score : Clause → Option Binary64} {tally tally' : Tally}

/-- A tally is kept as long as no clause rules the document out. -/
theorem exists_foldlM_add? :
    (∃ tally', clauses.foldlM (Tally.add? score) tally = some tally') ↔
      ∀ clause ∈ clauses, (clause.occur = .must → (score clause).isSome = true) ∧
        (clause.occur = .mustNot → (score clause).isSome = false) := by
  induction clauses generalizing tally with
  | nil => simp
  | cons clause clauses ih =>
    rw [List.forall_mem_cons, List.foldlM_cons]
    cases hoccur : clause.occur <;> cases hscore : score clause <;>
      simp [Tally.add?, hoccur, hscore, ih]

/-- A tally knows whether a clause that may be met was. -/
theorem anyShould_foldlM_add? (h : clauses.foldlM (Tally.add? score) tally = some tally') :
    tally'.anyShould = true ↔ tally.anyShould = true ∨
      ∃ clause ∈ clauses, clause.occur = .should ∧ (score clause).isSome = true := by
  induction clauses generalizing tally with
  | nil =>
    obtain rfl := Option.some.inj h
    simp
  | cons clause clauses ih =>
    obtain ⟨next, hnext, h⟩ := Option.bind_eq_some_iff.1 (List.foldlM_cons.symm.trans h)
    rw [ih h]
    cases hoccur : clause.occur <;> cases hscore : score clause <;>
      simp [Tally.add?, hoccur, hscore] at hnext <;> simp [hoccur, hscore, ← hnext]

end

/-- The documents that some clauses admit are those that have a score. -/
theorem isSome_scoreClauses :
    (scoreClauses weights document clauses).isSome = true ↔ Clause.Admit document clauses := by
  have hmet : ∀ clause : Clause, (clauseScore weights (textFields document) clause).isSome = true ↔
      clause.MetBy document := fun _ => isSome_clauseScore
  have hunmet : ∀ clause : Clause, (clauseScore weights (textFields document) clause).isSome = false ↔
      ¬ clause.MetBy document := fun clause => by rw [← hmet, Bool.not_eq_true]
  unfold scoreClauses
  cases hfold : clauses.foldlM (Tally.add? (clauseScore weights (textFields document))) ⟨.zero, false⟩ with
  | none =>
    refine iff_of_false (by simp [hfold]) fun h => ?_
    obtain ⟨tally, htally⟩ := exists_foldlM_add?.2 fun clause hclause =>
      ⟨fun hmust => (hmet clause).2 (h.required clause hclause hmust),
        fun hmust => (hunmet clause).2 (h.excluded clause hclause hmust)⟩
    rw [hfold] at htally
    cases htally
  | some tally =>
    have hclauses := exists_foldlM_add?.1 ⟨tally, hfold⟩
    have hshould := anyShould_foldlM_add? hfold
    simp only [hmet, Bool.false_eq_true, false_or] at hshould
    simp only [hfold, Option.bind_eq_bind, Option.bind_some, Option.isSome_ite', Bool.or_eq_true,
      Bool.and_eq_true, Bool.not_eq_true', List.isEmpty_iff, List.any_eq_true, List.any_eq_false,
      decide_eq_true_eq, not_or]
    constructor
    · rintro ⟨hne, hany⟩
      refine ⟨hne, fun clause hclause hmust => (hmet clause).1 ((hclauses clause hclause).1 hmust),
        fun clause hclause hmust => (hunmet clause).1 ((hclauses clause hclause).2 hmust), fun hsome => ?_⟩
      rw [← hshould]
      grind
    · intro h
      refine ⟨h.asked, fun hnone => ?_⟩
      have hoptional := h.optional hnone.1.2
      rw [← hshould] at hoptional
      grind

end Condition

/-! ## Terms and their clauses -/

namespace Query.Term

variable {names : FieldNames} {term : Term} {document : Json} {text word : List Char}

/-- Stars stand for open ends. -/
theorem covers_star (h : '*' ∉ text) :
    Glob.covers (text ++ term.star) word = true ↔ WordFits false term.openRight text word := by
  rw [star]
  cases term.openRight with
  | true => exact Glob.covers_openRight h
  | false => simpa [WordFits] using Glob.covers_closed h

theorem covers_starred (h : '*' ∉ text) :
    Glob.covers ('*' :: text ++ term.star) word = true ↔ WordFits true term.openRight text word := by
  rw [star]
  cases term.openRight with
  | true => exact Glob.covers_openBoth h
  | false => simpa [WordFits] using Glob.covers_openLeft h

/-- A phrase is looked for as it is meant, but for its sign. -/
theorem met_clause_of_quoted (hq : term.isQuoted = true) :
    (term.clause names).MetBy document ↔ term.FoundIn names document := by
  rw [clause, if_pos hq, Clause.MetBy, FoundIn]
  refine exists_congr fun field => and_congr_right fun _ => and_congr (by simp) ?_
  rw [IsIn, if_pos hq, Condition.textMeets]
  simp [Condition.wordsOf, Text.lowercase_lowercase, Condition.hasRun_iff]

theorem Legible.star_not_mem (h : term.Legible names) (hq : term.isQuoted = false) :
    '*' ∉ Text.lowercase term.text.toList :=
  Text.star_not_mem_lowercase fun hstar =>
    ne_of_isAlphanumeric (h.alphanumeric hq _ hstar) (by decide +kernel) rfl

/-- A term with a sign is looked for as it is meant. -/
theorem Legible.met_clause_of_signed (h : term.Legible names) (hsigned : term.isSigned = true) :
    (term.clause names).MetBy document ↔ term.FoundIn names document := by
  obtain ⟨hq, hl⟩ : term.isQuoted = false ∧ term.openLeft = false := by simpa [isSigned] using hsigned
  rw [clause, hq, hl, Clause.MetBy, FoundIn]
  refine exists_congr fun field => and_congr_right fun _ => and_congr (by simp) ?_
  rw [IsIn, hq, hl, Condition.textMeets]
  simp [Condition.wordsOf, covers_star (h.star_not_mem hq)]

/-- A term with a star in front of its sign is looked for as it is written. -/
theorem Legible.met_clause_of_starred (h : term.Legible names) (hq : term.isQuoted = false)
    (hl : term.openLeft = true) :
    (term.clause names).MetBy document ↔ term.FoundStarred names document := by
  have hstar := h.star_not_mem hq
  have hsign : '*' ∉ term.sign :: Text.lowercase term.text.toList := by
    have hne : '*' ≠ term.sign := by
      unfold sign
      split <;> decide
    simp [hne, hstar]
  rw [clause, hq, hl, Clause.MetBy, FoundStarred]
  refine exists_congr fun field => and_congr_right fun _ => ?_
  cases term.scope with
  | none => simp [Condition.textMeets, Condition.wordsOf, ← covers_starred hsign]
  | some handle =>
    simp [Condition.textMeets, Condition.wordsOf, ← covers_star hstar]

/-- The sign of a term tells what its clause is for. -/
theorem occur_clause : ((term.clause names).occur = .must ↔ term.isSigned = true ∧ term.exclude = false) ∧
    ((term.clause names).occur = .mustNot ↔ term.isSigned = true ∧ term.exclude = true) ∧
    ((term.clause names).occur = .should ↔ term.isSigned = false) := by
  rw [clause, isSigned]
  cases term.isQuoted <;> cases term.openLeft <;> cases term.scope <;> cases term.exclude <;> simp

/-- A document has a term that has no sign where the engine looks for one. -/
def FoundUnsigned (names : FieldNames) (document : Json) (term : Term) : Prop :=
  if term.isQuoted then term.FoundIn names document else term.FoundStarred names document

theorem Legible.met_clause_of_unsigned (h : term.Legible names) (hsigned : term.isSigned = false) :
    (term.clause names).MetBy document ↔ term.FoundUnsigned names document := by
  rw [FoundUnsigned]
  split
  · rename_i hq
    exact met_clause_of_quoted hq
  · rename_i hq
    exact h.met_clause_of_starred (by simpa using hq) (by simpa [isSigned, hq] using hsigned)

end Query.Term

/-! ## Queries -/

namespace Query

variable {names : FieldNames} {document : Json} {terms : List Term}

/-- What a query finds: documents that have every term with a plus sign and none with a minus sign.
Terms without a sign count only where no term has a plus sign: then one of them has to be there,
excluded or not. -/
structure Selects (names : FieldNames) (document : Json) (terms : List Term) : Prop where
  asked : terms ≠ []
  required : ∀ term ∈ terms, term.isSigned = true → term.exclude = false →
    term.FoundIn names document
  excluded : ∀ term ∈ terms, term.isSigned = true → term.exclude = true →
    ¬ term.FoundIn names document
  optional : (∃ term ∈ terms, term.isSigned = false) →
    (∃ term ∈ terms, term.isSigned = true ∧ term.exclude = false) ∨
      ∃ term ∈ terms, term.isSigned = false ∧ term.FoundUnsigned names document

/-- Where every term has a sign, a query selects the documents that have the terms with a plus sign and
no others of them. -/
theorem selects_iff_of_signed (hsigned : ∀ term ∈ terms, term.isSigned = true) :
    Selects names document terms ↔
      terms ≠ [] ∧ ∀ term ∈ terms, term.FoundIn names document ↔ term.exclude = false := by
  constructor
  · intro h
    refine ⟨h.asked, fun term hterm => ?_⟩
    cases hexclude : term.exclude with
    | false => simpa using h.required term hterm (hsigned term hterm) hexclude
    | true => simpa using h.excluded term hterm (hsigned term hterm) hexclude
  · rintro ⟨hasked, hterms⟩
    refine ⟨hasked, fun term hterm _ hexclude => (hterms term hterm).2 hexclude,
      fun term hterm _ hexclude => ?_, ?_⟩
    · rw [hterms term hterm, hexclude]
      decide
    · rintro ⟨term, hterm, hunsigned⟩
      rw [hsigned term hterm] at hunsigned
      cases hunsigned

/-- The clauses of a query admit what the query selects. -/
theorem admit_clauses_iff (h : ∀ term ∈ terms, term.Legible names) :
    Clause.Admit document (terms.map (Term.clause names)) ↔ Selects names document terms := by
  have hsigned : ∀ term ∈ terms, term.isSigned = true →
      ((term.clause names).MetBy document ↔ term.FoundIn names document) :=
    fun term hterm => (h term hterm).met_clause_of_signed
  have hunsigned : ∀ term ∈ terms, term.isSigned = false →
      ((term.clause names).MetBy document ↔ term.FoundUnsigned names document) :=
    fun term hterm => (h term hterm).met_clause_of_unsigned
  have hoccur : ∀ term : Term, ((term.clause names).occur = .must ↔ _) ∧
      ((term.clause names).occur = .mustNot ↔ _) ∧ ((term.clause names).occur = .should ↔ _) :=
    fun _ => Term.occur_clause
  constructor
  · intro hclauses
    refine ⟨by simpa using hclauses.asked, fun term hterm hs he => ?_, fun term hterm hs he => ?_, ?_⟩
    · have hmust := (hoccur term).1.2 ⟨hs, he⟩
      exact (hsigned term hterm hs).1 (hclauses.required _ (List.mem_map_of_mem hterm) hmust)
    · have hmustNot := (hoccur term).2.1.2 ⟨hs, he⟩
      rw [← hsigned term hterm hs]
      exact hclauses.excluded _ (List.mem_map_of_mem hterm) hmustNot
    · rintro ⟨term, hterm, hs⟩
      have hshould := (hoccur term).2.2.2 hs
      obtain ⟨_, hmem, hmust⟩ | ⟨_, hmem, hmay, hmet⟩ :=
        hclauses.optional ⟨_, List.mem_map_of_mem hterm, hshould⟩
      · obtain ⟨other, hother, rfl⟩ := List.mem_map.1 hmem
        exact .inl ⟨other, hother, (hoccur _).1.1 hmust⟩
      · obtain ⟨other, hother, rfl⟩ := List.mem_map.1 hmem
        have hs' := (hoccur _).2.2.1 hmay
        exact .inr ⟨other, hother, hs', (hunsigned other hother hs').1 hmet⟩
  · intro hselects
    refine ⟨by simpa using hselects.asked, ?_, ?_, ?_⟩
    · rintro _ hmem hmust
      obtain ⟨term, hterm, rfl⟩ := List.mem_map.1 hmem
      obtain ⟨hs, he⟩ := (hoccur _).1.1 hmust
      exact (hsigned term hterm hs).2 (hselects.required term hterm hs he)
    · rintro _ hmem hmustNot
      obtain ⟨term, hterm, rfl⟩ := List.mem_map.1 hmem
      obtain ⟨hs, he⟩ := (hoccur _).2.1.1 hmustNot
      rw [hsigned term hterm hs]
      exact hselects.excluded term hterm hs he
    · rintro ⟨_, hmem, hmay⟩
      obtain ⟨term, hterm, rfl⟩ := List.mem_map.1 hmem
      obtain ⟨other, hother, hs⟩ | ⟨other, hother, hs, hfound⟩ :=
        hselects.optional ⟨term, hterm, (hoccur _).2.2.1 hmay⟩
      · exact .inl ⟨_, List.mem_map_of_mem hother, (hoccur _).1.2 hs⟩
      · exact .inr ⟨_, List.mem_map_of_mem hother, (hoccur _).2.2.2 hs,
          (hunsigned other hother hs).2 hfound⟩

/-- One more term does not widen a query, unless the terms there are have no plus sign among them and
some of them have none at all: then only a term with a minus sign does not. -/
theorem Selects.of_insert {before behind : List Term} {term : Term}
    (h : Selects names document (before ++ term :: behind)) (hasked : before ++ behind ≠ [])
    (hnarrows : (∃ other ∈ before ++ behind, other.isSigned = false) →
      (∃ other ∈ before ++ behind, other.isSigned = true ∧ other.exclude = false) ∨
        term.isSigned = true ∧ term.exclude = true) :
    Selects names document (before ++ behind) := by
  have hkept : ∀ other ∈ before ++ behind, other ∈ before ++ term :: behind := by
    intro other hother
    simp only [List.mem_append, List.mem_cons] at hother ⊢
    grind
  have hback : ∀ other ∈ before ++ term :: behind, other = term ∨ other ∈ before ++ behind := by
    intro other hother
    simp only [List.mem_append, List.mem_cons] at hother ⊢
    grind
  refine ⟨hasked, fun other hother => h.required other (hkept other hother),
    fun other hother => h.excluded other (hkept other hother), fun hsome => ?_⟩
  obtain hrequired | ⟨hs, he⟩ := hnarrows hsome
  · exact .inl hrequired
  -- the new term has a minus sign, so it is not the one that has to be there
  obtain ⟨other, hother, hunsigned⟩ := hsome
  obtain ⟨found, hfound, hsign, hplus⟩ | ⟨found, hfound, hsign, hthere⟩ :=
    h.optional ⟨other, hkept other hother, hunsigned⟩
  · obtain rfl | hfound := hback found hfound
    · rw [hplus] at he
      cases he
    · exact .inl ⟨found, hfound, hsign, hplus⟩
  · obtain rfl | hfound := hback found hfound
    · rw [hsign] at hs
      cases hs
    · exact .inr ⟨found, hfound, hsign, hthere⟩

end Query

end SiteSearch
