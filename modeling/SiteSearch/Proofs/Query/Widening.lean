import SiteSearch.Proofs.Query.PlainTerms
import SiteSearch.Proofs.Query.Readable

/-!
# What an open end does to a term

A term that is open at an end should be found wherever it is found without. A star behind the term does
that, since it stands at the word: the clause that the engine reads gets the star too, and every word that
fits without it fits with it (`Glob.covers_append_star`). All that is asked is that the name of the field
leaves the last piece of the query a plain one (`Query.Term.EndsPlainly`).

A star in front stands in front of the sign. There the engine takes neither for what it is, and looks for
a word that ends with sign and term, or in a field whose name begins with star and sign
(`Query.Term.FoundStarred`). So that end narrows a query instead of widening it
(`Query.Term.widened_behind_only`).
-/

namespace SiteSearch

/-! ## Pieces -/

namespace Text

variable {quoted : Bool} {text tail : List Char}

/-- The last piece of a text that is cut at its blanks outside of quotations; behind a blank it is empty. -/
def lastPiece (text : List Char) : List Char :=
  (cutUnquoted false text).getLastD []

theorem cutUnquoted_bare (h : Query.Bare tail) (quoted : Bool) : cutUnquoted quoted tail = [tail] := by
  induction tail with
  | nil => rfl
  | cons c tail ih =>
    obtain ⟨hblank, hquote⟩ := h c List.mem_cons_self
    rw [cutUnquoted, if_neg hquote, hblank, Bool.false_and, if_neg Bool.false_ne_true,
      ih fun d hd => h d (List.mem_cons_of_mem _ hd), extendFirst]

/-- What is put behind a text and has no blanks or marks goes to the last piece. -/
theorem cutUnquoted_append_bare (h : Query.Bare tail) (quoted : Bool) (text : List Char) :
    cutUnquoted quoted (text ++ tail) =
      (cutUnquoted quoted text).dropLast ++ [(cutUnquoted quoted text).getLastD [] ++ tail] := by
  have hextend : ∀ (c : Char) (quoted : Bool) (text : List Char),
      extendFirst c ((cutUnquoted quoted text).dropLast ++
          [(cutUnquoted quoted text).getLastD [] ++ tail]) =
        (extendFirst c (cutUnquoted quoted text)).dropLast ++
          [(extendFirst c (cutUnquoted quoted text)).getLastD [] ++ tail] := by
    intro c quoted text
    obtain ⟨first, others, hcut, -⟩ := opensBehind_cutUnquoted quoted text
    rw [hcut]
    cases others <;> rfl
  induction text generalizing quoted with
  | nil => exact cutUnquoted_bare h quoted
  | cons c text ih =>
    rw [List.cons_append, cutUnquoted, cutUnquoted]
    split
    · rw [ih, hextend]
    · split
      · obtain ⟨first, others, hcut, -⟩ := opensBehind_cutUnquoted quoted text
        rw [ih, hcut]
        rfl
      · rw [ih, hextend]

theorem lastPiece_append_bare (h : Query.Bare tail) (text : List Char) :
    lastPiece (text ++ tail) = lastPiece text ++ tail := by
  rw [lastPiece, cutUnquoted_append_bare h, List.getLastD_concat, lastPiece]

/-- A text has the pieces of its beginning and the last one, if that is not empty. -/
theorem unquotedPieces_append_bare (h : Query.Bare tail) (hne : lastPiece text ++ tail ≠ []) :
    unquotedPieces (text ++ tail) =
      (cutUnquoted false text).dropLast.filter (!·.isEmpty) ++ [lastPiece text ++ tail] := by
  have hkept : [lastPiece text ++ tail].filter (!·.isEmpty) = [lastPiece text ++ tail] :=
    List.filter_eq_self.2 fun piece hpiece => by
      rw [List.mem_singleton.1 hpiece, Bool.not_eq_true', List.isEmpty_eq_false_iff]
      exact hne
  rw [unquotedPieces, cutUnquoted_append_bare h, List.filter_append, ← lastPiece, hkept]

end Text

/-! ## Clauses -/

namespace Clause

variable {query query' : String} {piece rest text : List Char} {clause : Clause} {document : Json}

/-- The clause with a star behind its text. -/
def starred (clause : Clause) : Clause :=
  { clause with text := clause.text ++ ['*'] }

theorem readOccur_append_star (piece : List Char) :
    readOccur (piece ++ ['*']) = ((readOccur piece).1, (readOccur piece).2 ++ ['*']) := by
  cases piece with
  | nil => rfl
  | cons c piece =>
    rw [List.cons_append]
    unfold readOccur
    split <;> simp_all

theorem head?_of_mustNot (h : (readOccur piece).1 = .mustNot) : piece.head? = some '-' := by
  unfold readOccur at h
  split at h
  · cases h
  · rfl
  · cases h

theorem hasOpenParenthesis_append_star (quoted : Bool) (piece : List Char) :
    hasOpenParenthesis quoted (piece ++ ['*']) = hasOpenParenthesis quoted piece := by
  induction piece generalizing quoted with
  | nil => simp [hasOpenParenthesis]
  | cons c piece ih => simp only [List.cons_append, hasOpenParenthesis, ih]

theorem readField_append_star (piece : List Char) :
    readField (piece ++ ['*']) = ((readField piece).1, (readField piece).2 ++ ['*']) := by
  let p (c : Char) : Bool := c != ':' && c != '"'
  have hname : ∀ c ∈ piece.takeWhile p, p c = true := List.all_eq_true.1 List.all_takeWhile
  have hpiece : piece ++ ['*'] = piece.takeWhile p ++ (piece.dropWhile p ++ ['*']) := by
    rw [← List.append_assoc, List.takeWhile_append_dropWhile]
  have hdrop : (piece ++ ['*']).dropWhile p = (piece.dropWhile p ++ ['*']).dropWhile p := by
    rw [hpiece, List.dropWhile_append_of_pos hname]
  have htake : (piece ++ ['*']).takeWhile p =
      piece.takeWhile p ++ (piece.dropWhile p ++ ['*']).takeWhile p := by
    conv => lhs; rw [hpiece, List.takeWhile_append_of_pos hname]
  have hhead := List.head?_dropWhile_not p piece
  rw [readField, readField, hdrop, htake]
  cases hrest : piece.dropWhile p with
  | nil => simp [p]
  | cons c rest =>
    rw [hrest] at hhead
    have hc : p c = false := by simpa using hhead
    have hstays : (c :: rest ++ ['*']).dropWhile p = c :: (rest ++ ['*']) ∧
        (c :: rest ++ ['*']).takeWhile p = [] := by simp [hc]
    rw [hstays.1, hstays.2, List.append_nil]
    split
    · rename_i heq
      obtain ⟨rfl, rfl⟩ := List.cons.inj heq
      rfl
    · rename_i hcolon
      split
      · rename_i heq
        exact absurd (congrArg (· ++ ['*']) heq) (hcolon _)
      · rfl

/-- The text of a piece behind its sign. What is quoted loses the quotation marks at its ends. -/
def pieceText (rest : List Char) : List Char :=
  if rest.contains '"' then Text.trimEnd (· = '"') (Text.trimStart (· = '"') (readField rest).2)
  else (readField rest).2

theorem read_eq_ok_iff : read query piece = .ok clause ↔
    (hasOpenParenthesis false (readOccur piece).2 = false ∧
      Text.leavesOpen (readOccur piece).2 = false ∧ pieceText (readOccur piece).2 ≠ []) ∧
    clause = ⟨(readOccur piece).1, (readField (readOccur piece).2).1,
      Text.lowercase (pieceText (readOccur piece).2), (readOccur piece).2.contains '"'⟩ := by
  rw [read]
  generalize readOccur piece = signed
  obtain ⟨occur, rest⟩ := signed
  dsimp only
  rw [← pieceText]
  simp only [List.isEmpty_iff]
  split
  · simp_all
  · split
    · simp_all
    · split
      · simp_all
      · rename_i hparens hquotes htext
        simp [hparens, hquotes, htext, eq_comm]

/-- Which clause a piece is read as does not depend on the query that it is from. -/
theorem read_of_read (h : read query piece = .ok clause) : read query' piece = .ok clause :=
  read_eq_ok_iff.2 (read_eq_ok_iff.1 h)

/-- A piece without quotation marks is read with a star at its end as it is read without. -/
theorem read_append_star (hplain : '"' ∉ piece) (h : read query piece = .ok clause) :
    read query' (piece ++ ['*']) = .ok clause.starred ∧ clause.phrase = false ∧
      clause.occur = (readOccur piece).1 := by
  obtain ⟨⟨hparens, hquotes, htext⟩, rfl⟩ := read_eq_ok_iff.1 h
  obtain ⟨sign, hpiece, -⟩ := exists_eq_readOccur piece
  have hrest : (readOccur piece).2.contains '"' = false := by
    have hnot : '"' ∉ (readOccur piece).2 := fun hmem => hplain (hpiece ▸ List.mem_append_right _ hmem)
    simpa using hnot
  have hrest' : ((readOccur piece).2 ++ ['*']).contains '"' = false := by simpa using hrest
  have htext' : pieceText ((readOccur piece).2 ++ ['*']) = pieceText (readOccur piece).2 ++ ['*'] := by
    rw [pieceText, pieceText, hrest, hrest', readField_append_star]
    rfl
  refine ⟨read_eq_ok_iff.2 ⟨?_, ?_⟩, hrest, rfl⟩
  · rw [readOccur_append_star, hasOpenParenthesis_append_star, htext']
    refine ⟨hparens, ?_, by simp⟩
    rw [← hquotes]
    simp [Text.leavesOpen]
  · rw [readOccur_append_star, htext', readField_append_star, hrest', starred, hrest,
      Text.breaks_star.lowercase_append]
    rfl

theorem MetBy.starred (hphrase : clause.phrase = false) (h : clause.MetBy document) :
    clause.starred.MetBy document := by
  obtain ⟨field, hfield, hname, hmeets⟩ := h
  refine ⟨field, hfield, hname, ?_⟩
  rw [Condition.textMeets, hphrase] at hmeets
  rw [Condition.textMeets, Clause.starred, hphrase]
  obtain ⟨word, hword, hcovers⟩ := List.any_eq_true.1 hmeets
  exact List.any_eq_true.2 ⟨word, hword, Glob.covers_append_star hcovers⟩

/-- Documents that some clauses admit are admitted still when one of these has a star more, unless it is
one that must not be met. -/
theorem Admit.starred {clauses : List Clause} (hphrase : clause.phrase = false)
    (hoccur : clause.occur ≠ .mustNot) (h : Admit document (clauses ++ [clause])) :
    Admit document (clauses ++ [clause.starred]) := by
  have hmet : clause.MetBy document → clause.starred.MetBy document := MetBy.starred hphrase
  have hsame : clause.starred.occur = clause.occur := rfl
  obtain ⟨-, hrequired, hexcluded, hoptional⟩ := h
  simp only [List.mem_append, List.mem_singleton, or_imp, forall_and, forall_eq, or_and_right, exists_or,
    exists_eq_left] at hrequired hexcluded hoptional
  constructor
  · simp
  all_goals
    simp only [List.mem_append, List.mem_singleton, or_imp, forall_and, forall_eq, or_and_right, exists_or,
      exists_eq_left, hsame]
    grind

/-- A single clause that may be met has to be. -/
theorem admit_singleton_iff (h : clause.occur = .should) :
    Admit document [clause] ↔ clause.MetBy document := by
  constructor
  · intro hadmit
    rcases hadmit.optional ⟨clause, by simp, h⟩ with ⟨other, hother, hmust⟩ | ⟨other, hother, -, hmet⟩
    · rw [List.mem_singleton.1 hother, h] at hmust
      cases hmust
    · rwa [List.mem_singleton.1 hother] at hmet
  · intro hmet
    exact ⟨by simp, by simp [h], by simp [h], fun _ => .inr ⟨clause, by simp, h, hmet⟩⟩

end Clause

/-! ## Terms -/

namespace Query.Term

variable {names : FieldNames} {weights : List FieldWeight} {document : String × Json} {term : Term}

/-- The engine finds a document by the query that a term makes by itself. -/
def Matches (names : FieldNames) (weights : List FieldWeight) (document : String × Json) (term : Term) :
    Prop :=
  ∃ score, Condition.score document.1 document.2
    (.queryString (queryString names [.term term]) weights) = .ok (some score)

/-- What is written for the field of a term ends in a piece without quotation marks that has no minus sign
in front. -/
def EndsPlainly (names : FieldNames) (term : Term) : Prop :=
  let last := Text.lastPiece ('+' :: term.scopeText names)
  '"' ∉ last ∧ last.head? ≠ some '-'

/-- A word of letters and digits that is asked for. -/
structure IsWord (term : Term) : Prop where
  letters : ∀ c ∈ term.text.toList, Text.isAlphanumeric c = true
  phrase : term.phrase = false
  exclude : term.exclude = false

theorem lastPiece_scopeText_ne_nil (names : FieldNames) (term : Term) :
    Text.lastPiece ('+' :: term.scopeText names) ≠ [] := by
  unfold scopeText
  split
  · decide
  · rw [← List.cons_append, Text.lastPiece_append_bare (by decide)]
    simp

/-- A document is found where it is admitted by the clauses that the engine reads. Neither its id nor the
weights of the fields matter. -/
theorem matches_iff : term.Matches names weights document ↔
    ∃ clauses, Clause.readAll (queryString names [.term term]) = .ok clauses ∧
      Clause.Admit document.2 clauses := by
  rw [Matches]
  simp only [Condition.score, bind, Except.bind]
  cases Clause.readAll (queryString names [.term term]) with
  | error e => simp
  | ok clauses =>
    have hscore : (∃ score, Condition.scoreClauses weights document.2 clauses = some score) ↔
        Clause.Admit document.2 clauses := by
      rw [← Option.isSome_iff_exists, Condition.isSome_scoreClauses]
    simpa using hscore

/-- A document has a term as it is written only if its clause has text. -/
theorem clause_text_ne_nil (hq : term.isQuoted = false) (hl : term.openLeft = true)
    (h : term.FoundStarred names document.2) : (term.clause names).text ≠ [] := by
  obtain ⟨field, -, hfound⟩ := h
  rw [clause, hq, hl]
  cases hscope : term.scope with
  | none => simp
  | some handle =>
    rw [hscope] at hfound
    obtain ⟨-, word, hword, hfits⟩ := hfound
    cases hr : term.openRight with
    | true => simp [star, hr]
    | false =>
      rw [hr] at hfits
      obtain rfl : word = _ := hfits
      simpa [star, hr] using (Text.mem_words hword).1

/-- A term with a star in front finds what has it as it is written. -/
theorem Legible.matches_starred_iff (h : term.Legible names) (hflat : Flat (term.scopeText names))
    (hq : term.isQuoted = false) (hl : term.openLeft = true) :
    term.Matches names weights document ↔ term.FoundStarred names document.2 := by
  have hshould : (term.clause names).occur = .should :=
    occur_clause.2.2.2 (by rw [isSigned, hl, Bool.not_true, Bool.and_false])
  have hread : ∀ clauses, Clause.readAll (queryString names [.term term]) = .ok clauses ↔
      (term.clause names).text ≠ [] ∧ clauses = [term.clause names] := by
    intro clauses
    have hwritten : writtenTerms [.term term] = [term] := rfl
    rw [readAll_queryString_iff (by simpa [hwritten] using h), hwritten]
    simp [hflat]
  rw [matches_iff]
  constructor
  · rintro ⟨clauses, hclauses, hadmit⟩
    obtain ⟨-, rfl⟩ := (hread clauses).1 hclauses
    exact (h.met_clause_of_starred hq hl).1 ((Clause.admit_singleton_iff hshould).1 hadmit)
  · intro hfound
    exact ⟨_, (hread _).2 ⟨clause_text_ne_nil hq hl hfound, rfl⟩,
      (Clause.admit_singleton_iff hshould).2 ((h.met_clause_of_starred hq hl).2 hfound)⟩

namespace IsWord

theorem bare (h : term.IsWord) : Bare term.text.toList :=
  (unreserved_of_isAlphanumeric h.letters).1

theorem not_isQuoted (h : term.IsWord) : term.isQuoted = false := by
  have hhyphen : '-' ∉ term.text.toList := fun hmem =>
    ne_of_isAlphanumeric (h.letters _ hmem) (by decide +kernel) rfl
  simp [isQuoted, h.phrase, hhyphen]

/-- Openness is not part of what makes a word. -/
theorem opened (h : term.IsWord) (openLeft openRight : Bool) :
    IsWord { term with openLeft, openRight } :=
  ⟨h.letters, h.phrase, h.exclude⟩

/-- The query of a word that is closed in front: sign, field and word, and a star where it is open. -/
theorem queryString_closed (h : term.IsWord) (openRight : Bool) :
    (queryString names [.term { term with openLeft := false, openRight }]).toList =
      '+' :: term.scopeText names ++ (term.text.toList ++ if openRight then ['*'] else []) := by
  have hquoted := (h.opened false openRight).not_isQuoted
  rw [queryString, String.toList_ofList]
  simp only [List.filterMap_cons, Token.render?, List.filterMap_nil, Text.joinWith, render, hquoted]
  rw [(unreserved_of_isAlphanumeric h.letters).solid.trim]
  simp [scopeText, h.exclude]

/-- The pieces of that query: some that the name of the field makes, and one that ends with the word. -/
theorem unquotedPieces_closed (h : term.IsWord) (names : FieldNames) : ∃ before, ∀ openRight,
    Text.unquotedPieces (queryString names [.term { term with openLeft := false, openRight }]).toList =
      before ++ [Text.lastPiece ('+' :: term.scopeText names) ++
        (term.text.toList ++ if openRight then ['*'] else [])] := by
  refine ⟨(Text.cutUnquoted false ('+' :: term.scopeText names)).dropLast.filter (!·.isEmpty),
    fun openRight => ?_⟩
  have hstar : Bare (if openRight then ['*'] else []) := by
    split <;> decide
  rw [h.queryString_closed, Text.unquotedPieces_append_bare (h.bare.append hstar)]
  exact List.append_ne_nil_of_left_ne_nil (lastPiece_scopeText_ne_nil names term) _

/-- What a word finds, it finds also where it is open behind. -/
theorem matches_openRight (h : term.IsWord) (hplain : term.EndsPlainly names)
    (hmatches : Matches names weights document { term with openLeft := false, openRight := false }) :
    Matches names weights document { term with openLeft := false, openRight := true } := by
  obtain ⟨before, hpieces⟩ := h.unquotedPieces_closed names
  obtain ⟨hquote, hminus⟩ := hplain
  obtain ⟨clauses, hread, hadmit⟩ := matches_iff.1 hmatches
  rw [Clause.readAll, hpieces false, if_neg Bool.false_ne_true, List.append_nil] at hread
  obtain ⟨first, last, hfirst, hlast, rfl⟩ := mapM_concat_eq_ok.1 hread
  have hunquoted : '"' ∉ Text.lastPiece ('+' :: term.scopeText names) ++ term.text.toList := by
    rw [List.mem_append]
    rintro (hmem | hmem)
    · exact hquote hmem
    · exact (h.bare _ hmem).2 rfl
  obtain ⟨hstarred, hphrase, hoccur⟩ := Clause.read_append_star hunquoted hlast
  have hkept : last.occur ≠ .mustNot := by
    rw [hoccur]
    intro hmustNot
    have hhead := Clause.head?_of_mustNot hmustNot
    obtain ⟨c, piece, hpiece⟩ := List.exists_cons_of_ne_nil (lastPiece_scopeText_ne_nil names term)
    rw [hpiece] at hhead hminus
    exact hminus hhead
  refine matches_iff.2 ⟨first ++ [last.starred], ?_, hadmit.starred hphrase hkept⟩
  rw [Clause.readAll, hpieces true, if_pos rfl, ← List.append_assoc]
  exact mapM_concat_eq_ok.2 ⟨first, last.starred,
    mapM_eq_ok_mono (fun _ _ => Clause.read_of_read) hfirst, hstarred, rfl⟩

theorem legible (h : term.IsWord) (openLeft openRight : Bool)
    (hscope : ∀ handle ∈ term.scope, Unreserved (names.ofHandle handle).toList) :
    Legible names { term with openLeft, openRight } where
  letters c hc := .inl (h.letters c hc)
  trimmed := (unreserved_of_isAlphanumeric h.letters).solid.trim
  scope := hscope
  unsigned _ _ hq := absurd ((h.opened openLeft openRight).not_isQuoted.symm.trans hq) (by decide)

/-- Where it is open in front, a word finds the documents that have it as it is written, the plus sign
behind the star. -/
theorem matches_openLeft_iff (h : term.IsWord)
    (hscope : ∀ handle ∈ term.scope,
      Unreserved (names.ofHandle handle).toList ∧ Flat (names.ofHandle handle).toList)
    (openRight : Bool) :
    Matches names weights document { term with openLeft := true, openRight } ↔
      FoundStarred names document.2 { term with openLeft := true, openRight } := by
  have hflat : Flat (scopeText names { term with openLeft := true, openRight }) := by
    unfold scopeText
    split
    · decide
    · rename_i handle hhandle
      exact (hscope handle hhandle).2.append (by decide)
  exact (h.legible true openRight fun handle hhandle => (hscope handle hhandle).1).matches_starred_iff
    hflat (h.opened true openRight).not_isQuoted rfl

end IsWord

/-- The name of a field without blanks and marks leaves the last piece a plain one. -/
theorem endsPlainly_of_unreserved
    (h : ∀ handle ∈ term.scope, Unreserved (names.ofHandle handle).toList) : term.EndsPlainly names := by
  have hbare : Bare ('+' :: term.scopeText names) := by
    have hsign : Bare ['+'] := by decide
    have hscope : Bare (term.scopeText names) := by
      unfold scopeText
      split
      · decide
      · rename_i handle hhandle
        exact (h handle hhandle).1.append (by decide)
    exact hsign.append hscope
  have hlast : Text.lastPiece ('+' :: term.scopeText names) = '+' :: term.scopeText names := by
    rw [Text.lastPiece, Text.cutUnquoted_bare hbare]
    rfl
  rw [EndsPlainly, hlast]
  exact ⟨fun hmem => (hbare _ hmem).2 rfl, by simp⟩

instance : Decidable (term.Matches names weights document) :=
  decidable_of_iff ((Condition.score document.1 document.2
    (.queryString (queryString names [.term term]) weights)).toOption.join.isSome = true) <| by
      rw [Matches]
      cases Condition.score document.1 document.2 (.queryString (queryString names [.term term]) weights) with
      | error e => simp [Except.toOption]
      | ok score => simp [Except.toOption, Option.isSome_iff_exists]

instance : Decidable (term.EndsPlainly names) :=
  inferInstanceAs (Decidable (_ ∧ _))

/-- An open end widens what a word finds only where it is open behind. What the word finds when it is
closed, it finds when it is open behind, if the name of its field leaves the last piece of the query a plain
one, as every name does that has no blanks, colons or quotation marks. Where it is open in front, it finds
other documents: those with a word that ends with the plus sign and the word, or has both inside, and for a
word that is limited to a field those with the word in the field whose name has a star and a plus sign in
front. -/
theorem widened_behind_only (h : term.IsWord) :
    (term.EndsPlainly names →
      Matches names weights document { term with openLeft := false, openRight := false } →
      Matches names weights document { term with openLeft := false, openRight := true }) ∧
    ((∀ handle ∈ term.scope,
        Unreserved (names.ofHandle handle).toList ∧ Flat (names.ofHandle handle).toList) →
      term.EndsPlainly names ∧ ∀ openRight,
        (Matches names weights document { term with openLeft := true, openRight } ↔
          FoundStarred names document.2 { term with openLeft := true, openRight })) :=
  ⟨h.matches_openRight, fun hscope =>
    ⟨endsPlainly_of_unreserved fun handle hhandle => (hscope handle hhandle).1,
      h.matches_openLeft_iff hscope⟩⟩

/-- A word of a title is found as it is and open behind. Open in front it is missed, since no word of the
title has a plus sign. -/
theorem widened_behind_only_on_title :
    let names : FieldNames := ⟨"craft_", .empty⟩
    let title := Json.ofFields [("craft_attribute_title", .string "Red car")]
    let car : Term := { text := "car", scope := some "title" }
    Matches names [] ("7", title) car ∧ Matches names [] ("7", title) { car with openRight := true } ∧
      ¬ FoundStarred names title { car with openLeft := true } := by
  intro names title car
  have hword : car.IsWord := ⟨List.all_eq_true.1 (by decide +kernel), rfl, rfl⟩
  obtain ⟨hright, hleft⟩ := @widened_behind_only names [] ("7", title) car hword
  have hfound : Matches names [] ("7", title) car := by decide +kernel
  have hscope : ∀ handle ∈ car.scope,
      Unreserved (names.ofHandle handle).toList ∧ Flat (names.ofHandle handle).toList := by
    rintro handle ⟨⟩
    decide +kernel
  obtain ⟨hplain, hstarred⟩ := hleft hscope
  have hmissed : ¬ Matches names [] ("7", title) { car with openLeft := true } := by decide +kernel
  exact ⟨hfound, hright hplain hfound, fun h => hmissed ((hstarred false).2 h)⟩

/-- A word that is found is lost when it is opened in front, in all fields or in one, and open behind or
not. A word that is looked for in a field with quotation marks in its name is lost when it is opened
behind. -/
theorem lost_when_opened :
    let names : FieldNames := ⟨"craft_", .empty⟩
    let document : String × Json := ("7", .ofFields [("craft_attribute_title", .string "red car")])
    let word (scope : Option String) (openLeft openRight : Bool) : Term :=
      { text := "red", scope, openLeft, openRight }
    (∀ scope ∈ [none, some "title"], (word scope false false).IsWord ∧
      Matches names [] document (word scope false false) ∧
      ∀ openRight, ¬ Matches names [] document (word scope true openRight)) ∧
    let document : String × Json :=
      ("8", .ofFields [("craft_attribute_title", .string "craft_attribute_x\"y\":red")])
    (word (some "x\"y\"") false false).IsWord ∧
      Matches names [] document (word (some "x\"y\"") false false) ∧
      ¬ Matches names [] document (word (some "x\"y\"") false true) := by
  intro names document word
  have hletters : "red".toList.all Text.isAlphanumeric = true := by decide +kernel
  have hword : ∀ scope, (word scope false false).IsWord := fun scope =>
    ⟨List.all_eq_true.1 hletters, rfl, rfl⟩
  refine ⟨fun scope hscope => ⟨hword scope, ?_⟩, hword _, by decide +kernel, by decide +kernel⟩
  revert scope
  decide +kernel

end Query.Term

end SiteSearch
