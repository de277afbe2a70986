import SiteSearch.Proofs.Collection.Generation
import SiteSearch.Proofs.Query.Answering
import SiteSearch.Proofs.Query.Reading

/-!
# Which texts the engine can read

The query that a service writes for a text is not always one that the engine can read. The service takes
the quotation marks off the ends of a phrase and writes new ones around it, but a mark that stands inside
of a term is written as it is. So a query is balanced where the texts of its terms have an even number of
marks together, and if not it is refused (`Query.readable_iff`).

Where no term has a quotation mark left, there is one more way to a refusal: a term that ends at its
first colon is written as the name of a field without a text (`Query.Term.StopsAtColon`).
-/

namespace SiteSearch

/-! ## Pieces that can be read -/

namespace Clause

variable {query : String} {piece : List Char} {c : Char}

/-- Behind its sign and its field, a piece has more than quotation marks. -/
def HasText (piece : List Char) : Prop := ∃ c ∈ (readField (readOccur piece).2).2, c ≠ '"'

theorem exists_eq_readOccur (piece : List Char) :
    ∃ sign, piece = sign ++ (readOccur piece).2 ∧ '"' ∉ sign := by
  unfold readOccur
  split
  · exact ⟨['+'], rfl, by decide⟩
  · exact ⟨['-'], rfl, by decide⟩
  · exact ⟨[], rfl, by simp⟩

theorem mem_of_mem_readField (h : c ∈ (readField piece).2) : c ∈ piece := by
  unfold readField at h
  split at h
  · rename_i rest hrest
    have hbehind : c ∈ piece.dropWhile fun c => c != ':' && c != '"' := by
      rw [hrest]
      exact List.mem_cons_of_mem _ h
    exact (List.dropWhile_sublist _).subset hbehind
  · exact h

/-- A piece without parentheses is read where it closes its quotations and has text. -/
theorem exists_read_iff (hflat : Query.Flat piece) :
    (∃ clause, read query piece = .ok clause) ↔ Text.leavesOpen piece = false ∧ HasText piece := by
  obtain ⟨sign, hpiece, hsign⟩ := exists_eq_readOccur piece
  have hrest : Query.Flat (readOccur piece).2 := fun c hc => hflat c (hpiece ▸ List.mem_append_right _ hc)
  have hopen : Text.leavesOpen piece = Text.leavesOpen (readOccur piece).2 := by
    conv => lhs; rw [hpiece, Text.leavesOpen_append hsign]
  unfold HasText
  rw [hopen, read]
  generalize readOccur piece = signed at hrest
  obtain ⟨occur, rest⟩ := signed
  dsimp only at hrest ⊢
  rw [if_neg (by simp [hasOpenParenthesis_of_flat hrest])]
  cases hleft : Text.leavesOpen rest with
  | true => simp
  | false =>
    -- what is trimmed off or, without quotation marks, not there at all
    have htext : (if rest.contains '"' then
        Text.trimEnd (· = '"') (Text.trimStart (· = '"') (readField rest).2)
        else (readField rest).2) ≠ [] ↔ ∃ c ∈ (readField rest).2, c ≠ '"' := by
      split
      · rw [Text.trimmed_ne_nil_iff]
        simp
      · rename_i hplain
        constructor
        · intro hne
          obtain ⟨c, hc⟩ := List.exists_mem_of_ne_nil _ hne
          refine ⟨c, hc, ?_⟩
          rintro rfl
          exact hplain (by simpa using mem_of_mem_readField hc)
        · rintro ⟨c, hc, -⟩
          exact List.ne_nil_of_mem hc
    rw [← htext, if_neg Bool.false_ne_true]
    generalize (if rest.contains '"' then _ else _ : List Char) = text
    cases text <;> simp

/-- What stands behind a quotation mark is read as text. -/
theorem hasText_of_mem_quotation {lead body : List Char} (hc : c ∈ body) (hplain : c ≠ '"') :
    HasText (lead ++ '"' :: body) := by
  obtain ⟨unsigned, hunsigned⟩ : ∃ unsigned, (readOccur (lead ++ '"' :: body)).2 = unsigned ++ '"' :: body := by
    cases lead with
    | nil => exact ⟨[], rfl⟩
    | cons d lead =>
      rw [List.cons_append]
      unfold readOccur
      split
      · rename_i heq
        exact ⟨lead, (List.cons.inj heq).2.symm⟩
      · rename_i heq
        exact ⟨lead, (List.cons.inj heq).2.symm⟩
      · exact ⟨d :: lead, rfl⟩
  obtain ⟨skipped, hskipped⟩ : ∃ skipped,
      (unsigned ++ '"' :: body).dropWhile (fun c => c != ':' && c != '"') = skipped ++ '"' :: body := by
    generalize unsigned = front
    induction front with
    | nil => exact ⟨[], rfl⟩
    | cons d front ih =>
      rw [List.cons_append, List.dropWhile_cons]
      split
      · exact ih
      · exact ⟨d :: front, rfl⟩
  refine ⟨c, ?_, hplain⟩
  rw [hunsigned, readField, hskipped]
  split
  · rename_i rest hcolon
    cases skipped with
    | nil => cases hcolon
    | cons d skipped =>
      obtain ⟨-, rfl⟩ := List.cons.inj hcolon
      simp [hc]
  · simp [hc]

/-- A query without parentheses is read where it closes its quotations and all of its pieces have text. -/
theorem exists_readAll_iff (hflat : Query.Flat query.toList) :
    (∃ clauses, readAll query = .ok clauses) ↔
      Text.leavesOpen query.toList = false ∧ ∀ piece ∈ Text.unquotedPieces query.toList, HasText piece := by
  have hpieces : ∀ piece ∈ Text.unquotedPieces query.toList, (∃ clause, read query piece = .ok clause) ↔
      Text.leavesOpen piece = false ∧ HasText piece :=
    fun piece hpiece => exists_read_iff fun c hc => hflat c (Text.mem_of_mem_unquotedPieces hpiece hc)
  rw [← Text.forall_leavesOpen_iff]
  constructor
  · rintro ⟨clauses, hread⟩
    have hall : ∀ piece ∈ Text.unquotedPieces query.toList, ∃ clause, read query piece = .ok clause := by
      intro piece hpiece
      have hmem : read query piece ∈ clauses.map Except.ok :=
        mapM_eq_ok_iff.1 hread ▸ List.mem_map_of_mem hpiece
      obtain ⟨clause, -, hclause⟩ := List.mem_map.1 hmem
      exact ⟨clause, hclause.symm⟩
    exact ⟨fun piece hpiece => ((hpieces piece hpiece).1 (hall piece hpiece)).1,
      fun piece hpiece => ((hpieces piece hpiece).1 (hall piece hpiece)).2⟩
  · rintro ⟨hclosed, htext⟩
    exact exists_mapM_eq_ok fun piece hpiece =>
      (hpieces piece hpiece).2 ⟨hclosed piece hpiece, htext piece hpiece⟩

end Clause

/-! ## Names of fields -/

namespace Query

variable {names : FieldNames} {term : Term} {text rest : List Char}

/-- A text that stands for itself wherever it is written. -/
def Inert (text : List Char) : Prop := Unreserved text ∧ Flat text

instance (text : List Char) : Decidable (Inert text) :=
  inferInstanceAs (Decidable (_ ∧ _))

theorem Inert.append (h : Inert text) (hrest : Inert rest) : Inert (text ++ rest) :=
  ⟨h.1.append hrest.1, h.2.append hrest.2⟩

theorem inert_of_forall (h : ∀ c ∈ text, Inert [c]) : Inert text := by
  induction text with
  | nil => decide
  | cons c text ih =>
    obtain ⟨hc, hrest⟩ := List.forall_mem_cons.1 h
    exact hc.append (ih hrest)

theorem inert_of_isHandleChar {c : Char} (h : isHandleChar c = true) : Inert [c] := by
  unfold isHandleChar at h
  rcases (Bool.or_eq_true _ _).mp h with hletter | hline
  · have hword : ∀ d ∈ [c], Text.isAlphanumeric d = true := by simpa using hletter
    exact ⟨unreserved_of_isAlphanumeric hword, flat_of_isAlphanumeric hword⟩
  · obtain rfl := of_decide_eq_true hline
    decide

theorem inert_of_isDigit {c : Char} (h : c.isDigit = true) : Inert [c] := by
  have hdigits : ∀ n : Fin 10, Inert [Char.ofNat (48 + n)] := by decide
  obtain ⟨hlow, hhigh⟩ := Text.toNat_of_isDigit h
  have hc := hdigits ⟨c.toNat - 48, by omega⟩
  rwa [show 48 + (c.toNat - 48) = c.toNat by omega, Char.ofNat_toNat] at hc

/-- The name of the field of a handle stands for itself if the start of all names does. -/
theorem inert_ofHandle {handle : String} (hstart : Inert names.start.toList)
    (hhandle : ∀ c ∈ handle.toList, isHandleChar c = true) : Inert (names.ofHandle handle).toList := by
  unfold FieldNames.ofHandle
  split
  · rename_i field _
    have hdigits : Inert (Text.writeWord field.id).toList := by
      refine inert_of_forall fun c hc => inert_of_isDigit ?_
      rw [Text.writeWord, String.toList_ofList] at hc
      exact Text.isDigit_of_digitsWord? (Text.digitsWord?_decimal _) c hc
    rw [FieldNames.ofCustom, FieldNames.customStart, String.toList_append, String.toList_append]
    exact (hstart.append (by decide)).append hdigits
  · rw [FieldNames.ofAttribute, FieldNames.attributeStart, String.toList_append, String.toList_append]
    exact (hstart.append (by decide)).append (inert_of_forall fun c hc => inert_of_isHandleChar (hhandle c hc))

/-! ## Written terms -/

namespace Term

/-- The field that a term is limited to has a name that stands for itself. -/
def ScopeInert (names : FieldNames) (term : Term) : Prop :=
  ∀ handle, term.scope = some handle → Inert (names.ofHandle handle).toList

theorem ScopeInert.scopeText (h : term.ScopeInert names) :
    term.scope = none ∧ term.scopeText names = [] ∨
      ∃ name, term.scope ≠ none ∧ term.scopeText names = name ++ [':'] ∧ Inert name := by
  unfold Term.scopeText
  cases hscope : term.scope with
  | none => exact .inl ⟨rfl, rfl⟩
  | some handle => exact .inr ⟨_, nofun, rfl, h handle hscope⟩

theorem ScopeInert.bare (h : term.ScopeInert names) : Bare (term.scopeText names) := by
  rcases h.scopeText with ⟨-, heq⟩ | ⟨name, -, heq, hname⟩ <;> rw [heq]
  · decide
  · exact hname.1.1.append (by decide)

theorem ScopeInert.flat (h : term.ScopeInert names) : Flat (term.scopeText names) := by
  rcases h.scopeText with ⟨-, heq⟩ | ⟨name, -, heq, hname⟩ <;> rw [heq]
  · decide
  · exact hname.2.append (by decide)

/-- What stands in front of a term that is not quoted and not limited to a field. -/
def lead (term : Term) : List Char := (if term.openLeft then ['*'] else []) ++ [term.sign]

theorem render_eq : term.render names =
    if term.isQuoted then term.scopeText names ++ ('"' :: Text.trim term.text.toList ++ ['"'])
    else term.lead ++ (term.scopeText names ++ (Text.trim term.text.toList ++ term.star)) := by
  simp [render, lead, sign, star]

theorem inert_lead : Inert term.lead := by
  unfold lead sign
  cases term.openLeft <;> cases term.exclude <;> decide

theorem inert_star : Inert term.star := ⟨unreserved_star, flat_star⟩

theorem count_eq_zero_of_bare (h : Bare text) : text.count '"' = 0 :=
  List.count_eq_zero.2 fun hc => (h _ hc).2 rfl

/-- Besides the quotation marks of its text, a written term has two or none. -/
theorem ScopeInert.count_render (h : term.ScopeInert names) :
    (term.render names).count '"' = term.text.toList.count '"' + if term.isQuoted then 2 else 0 := by
  rw [render_eq]
  split
  · rw [List.count_append, count_eq_zero_of_bare h.bare, List.count_append, List.count_cons_self,
      Text.count_trim (by decide)]
    simp
  · rw [List.count_append, List.count_append, List.count_append, count_eq_zero_of_bare inert_lead.1.1,
      count_eq_zero_of_bare h.bare, count_eq_zero_of_bare inert_star.1.1, Text.count_trim (by decide)]
    simp

theorem ScopeInert.flat_render (h : term.ScopeInert names) (htext : Flat term.text.toList) :
    Flat (term.render names) := by
  have htrim : Flat (Text.trim term.text.toList) := fun c hc => htext c (Text.mem_of_mem_trimmed hc)
  have hmark : Flat ['"'] := by decide
  rw [render_eq]
  split
  · exact h.flat.append ((hmark.append htrim).append hmark)
  · exact inert_lead.2.append (h.flat.append (htrim.append flat_star))

/-- A term that ends at its first colon, with nothing written in front of it or behind it. -/
def StopsAtColon (term : Term) : Prop :=
  term.isQuoted = false ∧ term.scope = none ∧ term.openRight = false ∧
    term.text.toList.dropWhile (· != ':') = [':']

/-- A term without quotation marks, as a text writes it in the piece or as a phrase. -/
structure IsPlainText (term : Term) : Prop where
  plain : '"' ∉ term.text.toList
  inked : ∃ c ∈ term.text.toList, Text.isBlank c = false
  solid : term.phrase = false → Text.Solid term.text.toList

theorem phrase_of_isQuoted (h : term.isQuoted = false) : term.phrase = false := by
  unfold isQuoted at h
  exact (Bool.or_eq_false_iff.1 h).1

theorem IsPlainText.bare (h : term.IsPlainText) (hq : term.isQuoted = false) : Bare term.text.toList :=
  fun c hc => ⟨h.solid (phrase_of_isQuoted hq) c hc, fun heq => h.plain (heq ▸ hc)⟩

/-- The written form of a term without quotation marks is one piece. -/
theorem IsPlainText.render_staysWhole (h : term.IsPlainText) (hscope : term.ScopeInert names) :
    term.render names ≠ [] ∧ Text.StaysWhole false (term.render names) := by
  rw [render_eq]
  split
  · refine ⟨by simp, hscope.bare.staysWhole.append (Text.staysWhole_quoted fun c hc heq => h.plain ?_)⟩
    exact heq ▸ Text.mem_of_mem_trimmed hc
  · rename_i hq
    have hbare := h.bare (by simpa using hq)
    have htrim : Bare (Text.trim term.text.toList) := fun c hc => hbare c (Text.mem_of_mem_trimmed hc)
    exact ⟨by simp [lead], (inert_lead.1.1.append (hscope.bare.append
      (htrim.append unreserved_star.1))).staysWhole⟩

/-- The engine takes the sign of a term off, unless a star stands in front of it. -/
theorem exists_readOccur_lead (term : Term) :
    ∃ front, Inert front ∧ ∀ body, (Clause.readOccur (term.lead ++ body)).2 = front ++ body := by
  unfold lead sign
  cases term.openLeft with
  | true =>
    cases term.exclude with
    | true => exact ⟨['*', '-'], by decide, fun body => rfl⟩
    | false => exact ⟨['*', '+'], by decide, fun body => rfl⟩
  | false =>
    refine ⟨[], by decide, fun body => ?_⟩
    cases term.exclude <;> rfl

/-- Without a limit to a field the engine reads a term from behind its first colon. -/
theorem IsPlainText.exists_readField_iff {front : List Char} (h : term.IsPlainText)
    (hq : term.isQuoted = false) (hscope : term.scope = none) (hfront : Inert front) :
    (∃ c ∈ (Clause.readField (front ++ (term.text.toList ++ term.star))).2, c ≠ '"') ↔
      ¬ term.StopsAtColon := by
  have hbare := h.bare hq
  by_cases hcolon : ':' ∈ term.text.toList
  · obtain ⟨name, behind, htext, hname⟩ := List.eq_append_cons_of_mem hcolon
    have hunreserved : Unreserved name :=
      ⟨fun c hc => hbare c (htext ▸ List.mem_append_left _ hc), hname⟩
    have hfield : (Clause.readField (front ++ (term.text.toList ++ term.star))).2 = behind ++ term.star := by
      rw [htext, List.append_assoc, List.cons_append, ← List.append_assoc,
        Clause.readField_named (hfront.1.append hunreserved)]
    have hdrop : term.text.toList.dropWhile (· != ':') = ':' :: behind := by
      rw [htext, List.dropWhile_append_of_pos fun c hc => ?_]
      · simp
      · simpa using fun heq : c = ':' => hname (heq ▸ hc)
    have hrest : Bare (behind ++ term.star) :=
      Bare.append (fun c hc => hbare c (htext ▸ List.mem_append_right _ (List.mem_cons_of_mem _ hc)))
        unreserved_star.1
    have hstops : term.StopsAtColon ↔ behind ++ term.star = [] := by
      unfold StopsAtColon star
      cases term.openRight <;> simp [hq, hscope, hdrop]
    rw [hfield, hstops]
    constructor
    · rintro ⟨c, hc, -⟩
      exact List.ne_nil_of_mem hc
    · intro hne
      obtain ⟨c, hc⟩ := List.exists_mem_of_ne_nil _ hne
      exact ⟨c, hc, (hrest c hc).2⟩
  · have hword : Unreserved (front ++ (term.text.toList ++ term.star)) :=
      hfront.1.append (Unreserved.append ⟨hbare, hcolon⟩ unreserved_star)
    obtain ⟨c, hc, -⟩ := h.inked
    rw [Clause.readField_unnamed hword]
    refine iff_of_true ⟨c, by simp [hc], (hbare c hc).2⟩ ?_
    rintro ⟨-, -, -, hdrop⟩
    exact hcolon ((List.dropWhile_sublist _).subset (hdrop ▸ List.mem_cons_self))

/-- The written form of a term without quotation marks has text unless the term ends at its first
colon. -/
theorem IsPlainText.hasText_render_iff (h : term.IsPlainText) (hscope : term.ScopeInert names) :
    Clause.HasText (term.render names) ↔ ¬ term.StopsAtColon := by
  obtain ⟨c, hc, hink⟩ := h.inked
  rw [render_eq]
  split
  · rename_i hq
    refine iff_of_true ?_ fun hstops => ?_
    · exact Clause.hasText_of_mem_quotation (List.mem_append_left _ (Text.mem_trimmed hink hc))
        fun heq => h.plain (heq ▸ hc)
    · rw [hstops.1] at hq
      cases hq
  · rename_i hquoted
    have hq : term.isQuoted = false := by simpa using hquoted
    obtain ⟨front, hfront, hoccur⟩ := term.exists_readOccur_lead
    rw [Clause.HasText, hoccur, (h.solid (phrase_of_isQuoted hq)).trim]
    rcases hscope.scopeText with ⟨hnone, heq⟩ | ⟨name, hsome, heq, hname⟩
    · rw [heq, List.nil_append]
      exact h.exists_readField_iff hq hnone hfront
    · rw [heq, List.append_assoc, ← List.append_assoc, List.singleton_append,
        Clause.readField_named (hfront.1.append hname.1)]
      exact iff_of_true ⟨c, by simp [hc], fun heq => h.plain (heq ▸ hc)⟩ fun hstops => hsome hstops.2.1

end Term

/-! ## Queries of a text -/

section

variable {ends : OpenEnds} {tokens : List Token}

/-- The quotation marks inside of the terms of a query. -/
def quotesWithin (tokens : List Token) : Nat :=
  ((writtenTerms tokens).flatMap fun term => term.text.toList).count '"'

theorem exists_writtenIn_of_mem {text : String} (h : term ∈ writtenTerms (read ends text)) :
    ∃ piece ∈ Text.unquotedPieces text.toList, term.WrittenIn ends piece := by
  obtain ⟨token, htoken, hterm⟩ := List.mem_filterMap.1 h
  refine exists_writtenIn htoken ?_
  cases token with
  | term t =>
    obtain rfl := Option.some.inj hterm
    exact List.mem_singleton_self _
  | group terms => cases hterm

theorem scopeInert_of_mem {text : String} (hstart : Inert names.start.toList)
    (h : term ∈ writtenTerms (read ends text)) : term.ScopeInert names := by
  obtain ⟨piece, -, hwritten⟩ := exists_writtenIn_of_mem h
  exact fun handle hhandle => inert_ofHandle hstart (hwritten.handle handle hhandle)

/-- The marks that are written around terms come in pairs. -/
theorem count_queryString (h : ∀ term ∈ writtenTerms tokens, term.ScopeInert names) :
    (queryString names tokens).toList.count '"' % 2 = quotesWithin tokens % 2 := by
  rw [queryString, String.toList_ofList, filterMap_render?, Text.count_joinWith (by decide), quotesWithin]
  generalize writtenTerms tokens = terms at h
  induction terms with
  | nil => rfl
  | cons term terms ih =>
    obtain ⟨hterm, hrest⟩ := List.forall_mem_cons.1 h
    have hmarks := hterm.count_render
    have hlater := ih hrest
    rw [List.map_cons, List.flatten_cons, List.flatMap_cons, List.count_append, List.count_append, hmarks]
    split <;> omega

theorem flat_queryString (hscope : ∀ term ∈ writtenTerms tokens, term.ScopeInert names)
    (htext : ∀ term ∈ writtenTerms tokens, Flat term.text.toList) :
    Flat (queryString names tokens).toList := by
  intro c hc
  rw [queryString, String.toList_ofList, filterMap_render?] at hc
  rcases Text.mem_joinWith hc with rfl | ⟨piece, hpiece, hc⟩
  · decide
  · obtain ⟨term, hterm, rfl⟩ := List.mem_map.1 hpiece
    exact (hscope term hterm).flat_render (htext term hterm) c hc

theorem isPlainText_of_mem {text : String} (h : term ∈ writtenTerms (read ends text))
    (hplain : '"' ∉ term.text.toList) : term.IsPlainText := by
  obtain ⟨piece, hpiece, hwritten⟩ := exists_writtenIn_of_mem h
  have hsolid : term.phrase = false → Text.Solid term.text.toList := by
    intro hphrase c hc
    have hnone : '"' ∉ piece := fun hquote => hplain (hwritten.quoted hphrase hquote)
    exact Text.solid_of_mem_unquotedPieces hpiece hnone c (hwritten.letters c hc)
  refine ⟨hplain, ?_, hsolid⟩
  cases hphrase : term.phrase with
  | true => exact hwritten.inked hphrase
  | false =>
    obtain ⟨c, hc⟩ := List.exists_mem_of_ne_nil _ hwritten.nonempty
    exact ⟨c, hc, hsolid hphrase c hc⟩

/-- Without quotation marks inside of terms the engine finds the written terms again. -/
theorem pieces_of_plain {text : String} (hstart : Inert names.start.toList)
    (hplain : ∀ term ∈ writtenTerms (read ends text), '"' ∉ term.text.toList) :
    Text.unquotedPieces (queryString names (read ends text)).toList =
      (writtenTerms (read ends text)).map (Term.render names) := by
  rw [queryString, String.toList_ofList, filterMap_render?]
  refine Text.unquotedPieces_joinWith fun piece hpiece => ?_
  obtain ⟨term, hterm, rfl⟩ := List.mem_map.1 hpiece
  exact (isPlainText_of_mem hterm (hplain term hterm)).render_staysWhole (scopeInert_of_mem hstart hterm)

end

/-- **Which texts are readable.** The engine reads the query of a text without parentheses where the
quotation marks inside of its terms have an even number, which is where the query is balanced, and every
piece of the query has a text. Where no term has a quotation mark inside, it reads the query unless a
term stops at its colon, and so it does always where terms are open behind unless told otherwise. -/
theorem readable_iff (names : FieldNames) (ends : OpenEnds) (text : String)
    (hstart : Inert names.start.toList) (htext : Flat text.toList) :
    let tokens := read ends text
    let query := queryString names tokens
    let readable := ∃ clauses, Clause.readAll query = .ok clauses
    (Text.leavesOpen query.toList = false ↔ quotesWithin tokens % 2 = 0) ∧
      (readable ↔ quotesWithin tokens % 2 = 0 ∧
        ∀ piece ∈ Text.unquotedPieces query.toList, Clause.HasText piece) ∧
      (quotesWithin tokens = 0 → (readable ↔ ∀ term ∈ writtenTerms tokens, ¬ term.StopsAtColon)) ∧
      (quotesWithin tokens = 0 → ends.right = true → readable) := by
  intro tokens query readable
  have hscope : ∀ term ∈ writtenTerms tokens, term.ScopeInert names :=
    fun term hterm => scopeInert_of_mem hstart hterm
  have hflat : Flat query.toList := flat_queryString hscope fun term hterm c hc => by
    obtain ⟨piece, hpiece, hwritten⟩ := exists_writtenIn_of_mem hterm
    exact htext c (Text.mem_of_mem_unquotedPieces hpiece (hwritten.letters c hc))
  have hbalanced : Text.leavesOpen query.toList = false ↔ quotesWithin tokens % 2 = 0 := by
    rw [Text.leavesOpen_eq_false_iff, count_queryString hscope]
  have hread : readable ↔ quotesWithin tokens % 2 = 0 ∧
      ∀ piece ∈ Text.unquotedPieces query.toList, Clause.HasText piece := by
    rw [← hbalanced]
    exact Clause.exists_readAll_iff hflat
  have hplain : quotesWithin tokens = 0 → (readable ↔ ∀ term ∈ writtenTerms tokens, ¬ term.StopsAtColon) := by
    intro hnone
    have hterms : ∀ term ∈ writtenTerms tokens, '"' ∉ term.text.toList := by
      intro term hterm hmark
      exact List.count_eq_zero.1 hnone (List.mem_flatMap_of_mem hterm hmark)
    rw [hread, pieces_of_plain hstart hterms, hnone, and_iff_right rfl]
    constructor
    · intro h term hterm
      exact ((isPlainText_of_mem hterm (hterms term hterm)).hasText_render_iff (hscope term hterm)).1
        (h _ (List.mem_map_of_mem hterm))
    · intro h piece hpiece
      obtain ⟨term, hterm, rfl⟩ := List.mem_map.1 hpiece
      exact ((isPlainText_of_mem hterm (hterms term hterm)).hasText_render_iff (hscope term hterm)).2
        (h term hterm)
  refine ⟨hbalanced, hread, hplain, fun hnone hright => (hplain hnone).2 fun term hterm hstops => ?_⟩
  obtain ⟨piece, -, hwritten⟩ := exists_writtenIn_of_mem hterm
  have hopen := hwritten.openRight (Term.phrase_of_isQuoted hstops.1) hright
  rw [hstops.2.2.1] at hopen
  cases hopen

/-- A phrase, a word that is limited to an attribute and one that is left out can be read. -/
theorem readable_with_phrase :
    let names := World.shelf.service.fieldNames
    let query := queryString names (read {} "\"red car\" title:salad -27")
    query = "\"red car\" +craft_attribute_title:salad* -27*" ∧
      ∃ clauses, Clause.readAll query = .ok clauses := by
  intro names query
  have hreadable := (readable_iff names {} "\"red car\" title:salad -27" (by decide +kernel)
    (by decide +kernel)).2.2.2 (by decide +kernel) rfl
  exact ⟨by decide +kernel, hreadable⟩

/-- A mark that stands for inches is taken for an open quotation, and a search with it finds nothing. -/
theorem unreadable_with_inches :
    let names := World.shelf.service.fieldNames
    let query := queryString names (read {} "27\" monitor")
    names.start = "craft_" ∧ Flat "27\" monitor".toList ∧ query = "+27\" monitor*" ∧
      Clause.readAll query =
        .error (Clause.refusal query ": Lexical error, unterminated phrase") ∧
      World.shelf.found (read {} "red") (some .english) none = .ok [⟨1, .ofNat 1⟩] ∧
      World.shelf.found (read {} "red\"") (some .english) none = .ok [] := by
  refine ⟨by decide +kernel, by decide +kernel, by decide +kernel, by decide +kernel, by decide +kernel,
    by decide +kernel⟩

end Query

end SiteSearch
