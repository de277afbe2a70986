import SiteSearch.Engine.Memory.Clause
import SiteSearch.Proofs.Engine.Run
import SiteSearch.Proofs.Text.LetterCase
import SiteSearch.Query.Rendering

/-!
# Query strings that the engine reads back

A query is written for the engine term by term and joined with blanks. The engine cuts it at blanks
outside of quotations and reads a clause from each piece. For terms of letters, digits and hyphens
both ways fit together: the pieces are the written terms, and each is read as the clause that
`Query.Term.clause` tells or is refused (`Query.Term.Legible.read_render_iff`).

That clause is not always what the term asks for. A phrase has no sign, so it is a clause that may be
met even where it should be left out; and where a star comes in front of the sign, star and sign become
part of the word, or of the field name.
-/

namespace SiteSearch

namespace Query

/-- The term of a token that is written. -/
def Token.term? : Token → Option Term
  | .term t => some t
  | .group _ => none

/-- The terms of a query that are written. -/
def writtenTerms (tokens : List Token) : List Term :=
  tokens.filterMap Token.term?

namespace Term

/-- The sign that a term is written with, unless it is quoted. -/
def sign (term : Term) : Char := if term.exclude then '-' else '+'

/-- The star behind a term that is open there. -/
def star (term : Term) : List Char := if term.openRight then ['*'] else []

/-- Whether a term has a sign where the engine looks for it. -/
def isSigned (term : Term) : Bool := !term.isQuoted && !term.openLeft

/-- The name of the field that a term with a star in front of its sign is looked for in. -/
def starredField (names : FieldNames) (term : Term) (handle : String) : String :=
  String.ofList ('*' :: term.sign :: (names.ofHandle handle).toList)

/-- The clause that the engine reads from the written form of a term. -/
def clause (names : FieldNames) (term : Term) : Clause :=
  let text := Text.lowercase term.text.toList
  if term.isQuoted then ⟨.should, term.scope.map names.ofHandle, text, true⟩
  else if term.openLeft then
    match term.scope with
    | none => ⟨.should, none, '*' :: term.sign :: text ++ term.star, false⟩
    | some handle => ⟨.should, some (term.starredField names handle), text ++ term.star, false⟩
  else
    ⟨if term.exclude then .mustNot else .must, term.scope.map names.ofHandle, text ++ term.star, false⟩

end Term

/-- A text that does not end a piece and quotes nothing. -/
def Bare (text : List Char) : Prop :=
  ∀ c ∈ text, Text.isBlank c = false ∧ c ≠ '"'

/-- A bare text that does not end a field name either. -/
def Unreserved (text : List Char) : Prop :=
  Bare text ∧ ':' ∉ text

/-- A text without parentheses. -/
def Flat (text : List Char) : Prop :=
  ∀ c ∈ text, c ≠ '(' ∧ c ≠ ')'

instance (text : List Char) : Decidable (Bare text) :=
  List.decidableBAll _ text

instance (text : List Char) : Decidable (Unreserved text) :=
  inferInstanceAs (Decidable (_ ∧ _))

instance (text : List Char) : Decidable (Flat text) :=
  List.decidableBAll _ text

/-- A term of letters, digits, hyphens and, inside of a phrase, blanks; where it is limited to a field,
the name of that field can be written. -/
structure Term.Legible (names : FieldNames) (term : Term) : Prop where
  letters : ∀ c ∈ term.text.toList,
    Text.isAlphanumeric c = true ∨ c = '-' ∨ term.phrase = true ∧ c = ' '
  trimmed : Text.trim term.text.toList = term.text.toList
  scope : ∀ handle, term.scope = some handle → Unreserved (names.ofHandle handle).toList
  /-- In front of a quotation a name does not begin with a sign. -/
  unsigned : ∀ handle, term.scope = some handle → term.isQuoted = true →
    ∀ c ∈ (names.ofHandle handle).toList.head?, c ≠ '+' ∧ c ≠ '-'

end Query

/-! ## Texts without marks -/

namespace Query

variable {text rest : List Char}

theorem Bare.append (h : Bare text) (hrest : Bare rest) : Bare (text ++ rest) := fun c hc => by
  rcases List.mem_append.1 hc with hc | hc
  · exact h c hc
  · exact hrest c hc

theorem Bare.staysWhole (h : Bare text) : Text.StaysWhole false text :=
  Text.Solid.staysWhole (fun c hc => (h c hc).1) fun c hc => (h c hc).2

theorem Flat.append (h : Flat text) (hrest : Flat rest) : Flat (text ++ rest) := fun c hc => by
  rcases List.mem_append.1 hc with hc | hc
  · exact h c hc
  · exact hrest c hc

theorem Unreserved.solid (h : Unreserved text) : Text.Solid text := fun c hc => (h.1 c hc).1

theorem Unreserved.append (h : Unreserved text) (hrest : Unreserved rest) :
    Unreserved (text ++ rest) :=
  ⟨h.1.append hrest.1, fun hc => (List.mem_append.1 hc).elim h.2 hrest.2⟩

theorem Unreserved.passes (h : Unreserved text) : ∀ c ∈ text, (c != ':' && c != '"') = true := by
  intro c hc
  have hcolon : c ≠ ':' := by
    rintro rfl
    exact h.2 hc
  simp [hcolon, (h.1 c hc).2]

theorem ne_of_isAlphanumeric {c d : Char} (hc : Text.isAlphanumeric c = true)
    (hd : Text.isAlphanumeric d = false) : c ≠ d := by
  rintro rfl
  rw [hc] at hd
  cases hd

/-- Letters and digits mark nothing. -/
theorem unreserved_of_isAlphanumeric (h : ∀ c ∈ text, Text.isAlphanumeric c = true) :
    Unreserved text := by
  refine ⟨fun c hc => ⟨Text.isBlank_of_isAlphanumeric (h c hc), ?_⟩, fun hc => ?_⟩
  · exact ne_of_isAlphanumeric (h c hc) (by decide +kernel)
  · exact ne_of_isAlphanumeric (h _ hc) (by decide +kernel) rfl

theorem flat_of_isAlphanumeric (h : ∀ c ∈ text, Text.isAlphanumeric c = true) : Flat text := by
  intro c hc
  constructor
  · exact ne_of_isAlphanumeric (h c hc) (by decide +kernel)
  · exact ne_of_isAlphanumeric (h c hc) (by decide +kernel)

end Query

/-! ## Single pieces -/

namespace Clause

variable {query : String} {piece name rest text : List Char} {occur : Occur} {field : Option String}

/-- A clause without text is refused. -/
def orRefused (query : String) (clause : Clause) : Except EngineError Clause :=
  if clause.text = [] then .error (refusal query ": Encountered <EOF>") else .ok clause

theorem orRefused_eq_ok {clause read : Clause} :
    orRefused query clause = .ok read ↔ clause.text ≠ [] ∧ read = clause := by
  unfold orRefused
  split
  · rename_i hnone
    simp [hnone]
  · rename_i hsome
    simp [hsome, eq_comm]

theorem hasOpenParenthesis_of_flat (h : Query.Flat piece) (quoted : Bool) :
    hasOpenParenthesis quoted piece = false := by
  induction piece generalizing quoted with
  | nil => rfl
  | cons c piece ih =>
    obtain ⟨hopen, hclose⟩ := h c List.mem_cons_self
    have ih := ih fun d hd => h d (List.mem_cons_of_mem _ hd)
    rw [hasOpenParenthesis]
    split
    · exact ih _
    · simp [hopen, hclose, ih]

/-- In front of the first quotation mark every parenthesis is open. -/
theorem hasOpenParenthesis_of_bare (hbare : Query.Bare name) (h : ¬ Query.Flat name) :
    hasOpenParenthesis false (name ++ rest) = true := by
  induction name with
  | nil => exact absurd (by simp [Query.Flat]) h
  | cons c name ih =>
    have hquote : c ≠ '"' := (hbare c List.mem_cons_self).2
    by_cases hc : c = '(' ∨ c = ')'
    · simp [hasOpenParenthesis, hquote, hc]
    · have ih := ih (fun d hd => hbare d (List.mem_cons_of_mem _ hd)) fun hflat => h fun d hd => by
        rcases List.mem_cons.1 hd with rfl | hd
        · simpa using hc
        · exact hflat d hd
      simp [hasOpenParenthesis, hquote, ih]

theorem read_of_hasOpenParenthesis (hoccur : readOccur piece = (occur, rest))
    (h : hasOpenParenthesis false rest = true) : read query piece = .error (refusal query "") := by
  simp [read, hoccur, h]

/-- The field name ends at the first colon. -/
theorem readField_named (h : Query.Unreserved name) :
    readField (name ++ ':' :: text) = (some (String.ofList name), text) := by
  rw [readField, List.dropWhile_append_of_pos h.passes, List.takeWhile_append_of_pos h.passes]
  simp

theorem readField_unnamed (h : Query.Unreserved text) : readField text = (none, text) := by
  have hnone : text.dropWhile (fun c => c != ':' && c != '"') = [] := by
    rw [← List.append_nil text, List.dropWhile_append_of_pos h.passes]
    rfl
  rw [readField, hnone]

/-- A piece without quotation marks is read as its sign, its field and its text. -/
theorem read_bare (hoccur : readOccur piece = (occur, rest)) (hrest : Query.Bare rest)
    (hflat : Query.Flat rest) (hfield : readField rest = (field, text)) :
    read query piece = orRefused query ⟨occur, field, Text.lowercase text, false⟩ := by
  have hparens := hasOpenParenthesis_of_flat hflat false
  have hplain : '"' ∉ rest := fun hc => (hrest _ hc).2 rfl
  simp [read, orRefused, hoccur, hfield, hparens, Text.leavesOpen, hrest.staysWhole.leavesOpen, hplain,
    Text.lowercase_eq_nil]

/-- A piece that is quoted behind its field is read as the field and what is quoted. -/
theorem read_quoted (hoccur : readOccur piece = (occur, rest)) (hwhole : Text.StaysWhole false rest)
    (hflat : Query.Flat rest) (hfield : readField rest = (field, '"' :: text ++ ['"'])) (hquote : '"' ∈ rest)
    (htext : ∀ c ∈ text, c ≠ '"') :
    read query piece = orRefused query ⟨occur, field, Text.lowercase text, true⟩ := by
  have hparens := hasOpenParenthesis_of_flat hflat false
  have htrim : Text.trimEnd (fun c => decide (c = '"'))
      (Text.trimStart (fun c => decide (c = '"')) ('"' :: text ++ ['"'])) = text :=
    Text.trim_enclosed (by simp) (by simpa using htext)
  rw [List.cons_append] at htrim
  simp [read, orRefused, hoccur, hfield, hparens, Text.leavesOpen, hwhole.leavesOpen, hquote,
    Text.lowercase_eq_nil, htrim]

theorem readOccur_of_unsigned (h : ∀ c ∈ piece.head?, c ≠ '+' ∧ c ≠ '-') :
    readOccur piece = (.should, piece) := by
  unfold readOccur
  split
  · exact absurd rfl (h '+' rfl).1
  · exact absurd rfl (h '-' rfl).2
  · rfl

end Clause

/-! ## Written terms -/

namespace Query

namespace Term

variable {names : FieldNames} {term : Term}

theorem unreserved_star : Unreserved term.star := by
  unfold star
  split <;> decide

theorem unreserved_sign : Unreserved [term.sign] := by
  unfold sign
  split <;> decide

theorem flat_star : Flat term.star := by
  unfold star
  split <;> decide

theorem flat_sign : Flat [term.sign] := by
  unfold sign
  split <;> decide

/-- The engine takes the sign for what a clause is for. -/
theorem readOccur_sign (rest : List Char) : Clause.readOccur ([term.sign] ++ rest) =
    (if term.exclude then .mustNot else .must, rest) := by
  unfold sign
  cases term.exclude <;> rfl

/-- A term that is not quoted is a word of letters and digits. -/
theorem Legible.alphanumeric (h : term.Legible names) (hq : term.isQuoted = false) :
    ∀ c ∈ term.text.toList, Text.isAlphanumeric c = true := by
  intro c hc
  obtain ⟨hphrase, hhyphen⟩ : term.phrase = false ∧ '-' ∉ term.text.toList := by
    simpa [isQuoted] using hq
  rcases h.letters c hc with hc | rfl | ⟨htrue, -⟩
  · exact hc
  · exact absurd hc hhyphen
  · rw [hphrase] at htrue
    cases htrue

theorem Legible.unreserved (h : term.Legible names) (hq : term.isQuoted = false) :
    Unreserved (term.text.toList ++ term.star) :=
  (unreserved_of_isAlphanumeric (h.alphanumeric hq)).append unreserved_star

/-- Nothing in a term opens or closes anything. -/
theorem Legible.spelled (h : term.Legible names) :
    (∀ c ∈ term.text.toList, c ≠ '"') ∧ Flat term.text.toList := by
  have hspelled : ∀ c ∈ term.text.toList, c ≠ '"' ∧ c ≠ '(' ∧ c ≠ ')' := by
    intro c hc
    rcases h.letters c hc with hletter | rfl | ⟨-, rfl⟩
    · have hword : ∀ d ∈ [c], Text.isAlphanumeric d = true := by simpa using hletter
      exact ⟨((unreserved_of_isAlphanumeric hword).1 c List.mem_cons_self).2,
        flat_of_isAlphanumeric hword c List.mem_cons_self⟩
    · decide
    · decide
  exact ⟨fun c hc => (hspelled c hc).1, fun c hc => (hspelled c hc).2⟩

theorem Legible.bare_scopeText (h : term.Legible names) : Bare (term.scopeText names) := by
  unfold scopeText
  split
  · decide
  · rename_i handle hscope
    exact (h.scope handle hscope).1.append (by decide)

/-- The written form of a term, with what stands in front of its text. -/
theorem Legible.render_eq (h : term.Legible names) :
    term.render names =
      if term.isQuoted then term.scopeText names ++ ('"' :: term.text.toList ++ ['"'])
      else (if term.openLeft then ['*'] else []) ++ ([term.sign] ++ (term.scopeText names
        ++ (term.text.toList ++ term.star))) := by
  simp [render, h.trimmed, star, sign]

theorem Legible.quotation_staysWhole (h : term.Legible names) :
    Text.StaysWhole false (term.scopeText names ++ ('"' :: term.text.toList ++ ['"'])) :=
  h.bare_scopeText.staysWhole.append (Text.staysWhole_quoted h.spelled.1)

/-- The written form of a term is one piece. -/
theorem Legible.render_staysWhole (h : term.Legible names) :
    term.render names ≠ [] ∧ Text.StaysWhole false (term.render names) := by
  rw [h.render_eq]
  split
  · exact ⟨by simp, h.quotation_staysWhole⟩
  · rename_i hq
    have hword := (h.unreserved (by simpa using hq)).1
    have hlead : Bare (if term.openLeft then ['*'] else []) := by
      split <;> decide
    exact ⟨by simp, (hlead.append (unreserved_sign.1.append (h.bare_scopeText.append hword))).staysWhole⟩

/-- The field in front of a text is found again, with what stands in front of it. -/
theorem Legible.readField (h : term.Legible names) (lead : List Char) {body : List Char}
    (hlead : Unreserved lead)
    (hbody : term.scope = none → Clause.readField (lead ++ body) = (none, lead ++ body)) :
    Clause.readField (lead ++ (term.scopeText names ++ body)) =
      match term.scope with
      | none => (none, lead ++ body)
      | some handle => (some (String.ofList (lead ++ (names.ofHandle handle).toList)), body) := by
  cases hscope : term.scope with
  | none =>
    simp only [scopeText, hscope, List.nil_append]
    exact hbody hscope
  | some handle =>
    simp only [scopeText, hscope]
    rw [List.append_assoc, List.singleton_append, ← List.append_assoc]
    exact Clause.readField_named (hlead.append (h.scope handle hscope))

/-- A quotation does not begin with a sign. -/
theorem Legible.unsigned_quotation (h : term.Legible names) (hq : term.isQuoted = true) :
    ∀ c ∈ (term.scopeText names ++ ('"' :: term.text.toList ++ ['"'])).head?, c ≠ '+' ∧ c ≠ '-' := by
  intro c hc
  cases hscope : term.scope with
  | none =>
    obtain rfl : '"' = c := by simpa [scopeText, hscope] using hc
    decide
  | some handle =>
    cases hname : (names.ofHandle handle).toList with
    | nil =>
      obtain rfl : ':' = c := by simpa [scopeText, hscope, hname] using hc
      decide
    | cons d name =>
      obtain rfl : d = c := by simpa [scopeText, hscope, hname] using hc
      exact h.unsigned handle hscope hq d (by simp [hname])

/-- A phrase is read without a sign. -/
theorem Legible.read_quotation (h : term.Legible names) (hflat : Flat (term.scopeText names))
    (hq : term.isQuoted = true) (query : String) :
    Clause.read query (term.scopeText names ++ ('"' :: term.text.toList ++ ['"'])) =
      Clause.orRefused query (term.clause names) := by
  have hquoted : Flat ('"' :: term.text.toList ++ ['"']) := by
    have hmark : Flat ['"'] := by decide
    exact hmark.append (h.spelled.2.append hmark)
  have hfield : Clause.readField (term.scopeText names ++ ('"' :: term.text.toList ++ ['"'])) =
      (term.scope.map names.ofHandle, '"' :: term.text.toList ++ ['"']) := by
    refine (h.readField [] (by decide) fun _ => rfl).trans ?_
    cases term.scope <;> simp
  rw [Clause.read_quoted (Clause.readOccur_of_unsigned (h.unsigned_quotation hq)) h.quotation_staysWhole
    (hflat.append hquoted) hfield (by simp) h.spelled.1, clause, if_pos hq]

/-- Stars and signs end what lowercasing looks at. -/
theorem lowercase_append_star : ∀ text : List Char,
    Text.lowercase (text ++ term.star) = Text.lowercase text ++ term.star := by
  intro text
  unfold star
  split
  · exact Text.breaks_star.lowercase_append _
  · rw [List.append_nil, List.append_nil]

theorem lowercase_star_sign (text : List Char) :
    Text.lowercase ('*' :: term.sign :: text) = '*' :: term.sign :: Text.lowercase text := by
  have hsign : Text.Breaks term.sign := by
    unfold sign
    split
    · exact ⟨by decide +kernel, by decide +kernel, by decide +kernel⟩
    · exact ⟨by decide +kernel, by decide +kernel, by decide +kernel⟩
  rw [← List.nil_append ('*' :: _), Text.breaks_star.lowercase_append, ← List.nil_append (term.sign :: _),
    hsign.lowercase_append]
  rfl

/-- A term with a star in front of its sign is read without a sign. -/
theorem Legible.read_starred (h : term.Legible names) (hflat : Flat (term.scopeText names))
    (hq : term.isQuoted = false) (hl : term.openLeft = true) (query : String) :
    Clause.read query (['*'] ++ ([term.sign] ++ (term.scopeText names
      ++ (term.text.toList ++ term.star)))) = Clause.orRefused query (term.clause names) := by
  have hword := h.unreserved hq
  have hstar : Unreserved ['*'] := by decide
  have hlead : Unreserved ['*', term.sign] := hstar.append unreserved_sign
  have hfield := h.readField ['*', term.sign] hlead fun _ => Clause.readField_unnamed (hlead.append hword)
  have hrest : Bare (['*', term.sign] ++ (term.scopeText names ++ (term.text.toList ++ term.star))) :=
    hlead.1.append (h.bare_scopeText.append hword.1)
  have hplain : Flat (['*', term.sign] ++ (term.scopeText names ++ (term.text.toList ++ term.star))) := by
    have hstar : Flat ['*'] := by decide
    exact (hstar.append flat_sign).append (hflat.append (h.spelled.2.append flat_star))
  have hoccur : Clause.readOccur (['*', term.sign] ++ (term.scopeText names
      ++ (term.text.toList ++ term.star))) = (.should, _) :=
    Clause.readOccur_of_unsigned (by simp)
  show Clause.read query (['*', term.sign] ++ _) = _
  cases hscope : term.scope with
  | none =>
    rw [hscope] at hfield
    rw [Clause.read_bare hoccur hrest hplain hfield, clause, hq, hl, hscope]
    simp [lowercase_star_sign, lowercase_append_star]
  | some handle =>
    rw [hscope] at hfield
    rw [Clause.read_bare hoccur hrest hplain hfield, clause, hq, hl, hscope]
    simp [lowercase_append_star, starredField]

/-- A term with a sign is read as it is meant. -/
theorem Legible.read_signed (h : term.Legible names) (hflat : Flat (term.scopeText names))
    (hq : term.isQuoted = false) (hl : term.openLeft = false) (query : String) :
    Clause.read query ([term.sign] ++ (term.scopeText names ++ (term.text.toList ++ term.star))) =
      Clause.orRefused query (term.clause names) := by
  have hword := h.unreserved hq
  have hfield : Clause.readField (term.scopeText names ++ (term.text.toList ++ term.star)) =
      (term.scope.map names.ofHandle, term.text.toList ++ term.star) := by
    refine (h.readField [] (by decide) fun _ => Clause.readField_unnamed hword).trans ?_
    cases term.scope <;> simp
  rw [Clause.read_bare (readOccur_sign _) (h.bare_scopeText.append hword.1)
    (hflat.append (h.spelled.2.append flat_star)) hfield, clause, hq, hl]
  simp [lowercase_append_star]

/-- A term is not read where the name of its field has a parenthesis. -/
theorem Legible.read_refused (h : term.Legible names) (hflat : ¬ Flat (term.scopeText names))
    (query : String) : Clause.read query (term.render names) = .error (Clause.refusal query "") := by
  rw [h.render_eq]
  cases hq : term.isQuoted with
  | true =>
    exact Clause.read_of_hasOpenParenthesis (Clause.readOccur_of_unsigned (h.unsigned_quotation hq))
      (Clause.hasOpenParenthesis_of_bare h.bare_scopeText hflat)
  | false =>
    cases hl : term.openLeft with
    | true =>
      have hbare : Bare (['*'] ++ ([term.sign] ++ term.scopeText names)) := by
        have hstar : Bare ['*'] := by decide
        exact hstar.append (unreserved_sign.1.append h.bare_scopeText)
      have hnot : ¬ Flat (['*'] ++ ([term.sign] ++ term.scopeText names)) := fun hall =>
        hflat fun c hc => hall c (by simp [hc])
      have hoccur : Clause.readOccur (['*'] ++ ([term.sign] ++ term.scopeText names)
          ++ (term.text.toList ++ term.star)) = (.should, _) :=
        Clause.readOccur_of_unsigned (by simp)
      have hrefused : Clause.read query (['*'] ++ ([term.sign] ++ term.scopeText names)
          ++ (term.text.toList ++ term.star)) = _ :=
        Clause.read_of_hasOpenParenthesis hoccur (Clause.hasOpenParenthesis_of_bare hbare hnot)
      simpa using hrefused
    | false =>
      exact Clause.read_of_hasOpenParenthesis (readOccur_sign _)
        (Clause.hasOpenParenthesis_of_bare h.bare_scopeText hflat)

/-- The engine reads a written term as the clause of the term, unless the name of its field has a
parenthesis or the clause has no text. -/
theorem Legible.read_render_iff {query : String} {read : Clause} (h : term.Legible names) :
    Clause.read query (term.render names) = .ok read ↔
      (Flat (term.scopeText names) ∧ (term.clause names).text ≠ []) ∧ read = term.clause names := by
  by_cases hflat : Flat (term.scopeText names)
  · have hread : Clause.read query (term.render names) = Clause.orRefused query (term.clause names) := by
      rw [h.render_eq]
      cases hq : term.isQuoted with
      | true => exact h.read_quotation hflat hq query
      | false =>
        cases hl : term.openLeft with
        | true => exact h.read_starred hflat hq hl query
        | false => exact h.read_signed hflat hq hl query
    simp [hread, Clause.orRefused_eq_ok, hflat]
  · simp [h.read_refused hflat, hflat]

end Term

/-! ## Whole queries -/

section

variable {names : FieldNames} {tokens : List Token}

theorem filterMap_render? : tokens.filterMap (Token.render? names) =
    (writtenTerms tokens).map (Term.render names) := by
  rw [writtenTerms, List.map_filterMap]
  congr 1
  funext token
  cases token <;> rfl

/-- The engine finds the written terms again. -/
theorem pieces_queryString (h : ∀ term ∈ writtenTerms tokens, term.Legible names) :
    Text.unquotedPieces (queryString names tokens).toList =
      (writtenTerms tokens).map (Term.render names) := by
  rw [queryString, String.toList_ofList, filterMap_render?]
  refine Text.unquotedPieces_joinWith fun piece hpiece => ?_
  obtain ⟨term, hterm, rfl⟩ := List.mem_map.1 hpiece
  exact (h term hterm).render_staysWhole

/-- The engine reads one clause for each written term, in their order, or it refuses the query. -/
theorem readAll_queryString_iff {clauses : List Clause}
    (h : ∀ term ∈ writtenTerms tokens, term.Legible names) :
    Clause.readAll (queryString names tokens) = .ok clauses ↔
      (∀ term ∈ writtenTerms tokens, Flat (term.scopeText names) ∧ (term.clause names).text ≠ []) ∧
        clauses = (writtenTerms tokens).map (Term.clause names) := by
  rw [Clause.readAll, pieces_queryString h, List.mapM_map]
  exact mapM_eq_ok_iff_map fun term hterm clause => (h term hterm).read_render_iff

end

end Query

end SiteSearch
