import SiteSearch.Proofs.Text.Quotations
import SiteSearch.Query.Reader

/-!
# The terms that a text writes

Every piece of a text but `OR` writes one term or none, and the terms of all tokens together are those of
the pieces in their order (`terms_read`); `OR` only decides which of them make a group.

What a piece writes has its text from the piece (`Term.WrittenIn`). A quotation mark of the piece may be
lost only at the ends of a phrase.
-/

namespace SiteSearch.Query

variable {ends : OpenEnds} {piece : List Char} {term : Term}

/-! ## Tokens -/

theorem terms_joinLast (term : Term) : ∀ tokens : List Token,
    (joinLast term tokens).flatMap Token.terms = tokens.flatMap Token.terms ++ [term]
  | [] => rfl
  | [.term last] => rfl
  | [.group terms] => by simp [joinLast, Token.terms]
  | token :: next :: tokens => by
    have ih := terms_joinLast term (next :: tokens)
    rw [joinLast, List.flatMap_cons, ih, List.flatMap_cons, List.append_assoc]
    all_goals simp

/-- The term that a piece adds to a query, if it adds one. -/
def termOf? (ends : OpenEnds) (piece : List Char) : Option Term :=
  if piece = joiner then none else readTerm? ends piece

theorem terms_take (ends : OpenEnds) (reading : Reading) (piece : List Char) :
    (reading.take ends piece).tokens.flatMap Token.terms =
      reading.tokens.flatMap Token.terms ++ (termOf? ends piece).toList := by
  unfold Reading.take termOf?
  split
  · simp
  · cases readTerm? ends piece with
    | none => simp
    | some term =>
      dsimp only
      split
      · rw [terms_joinLast]
        rfl
      · rw [List.flatMap_append]
        rfl

/-- The terms of a reading are those that it began with and those of the pieces. -/
theorem terms_foldl (ends : OpenEnds) (pieces : List (List Char)) (reading : Reading) :
    (pieces.foldl (Reading.take ends) reading).tokens.flatMap Token.terms =
      reading.tokens.flatMap Token.terms ++ pieces.filterMap (termOf? ends) := by
  induction pieces generalizing reading with
  | nil => simp
  | cons piece pieces ih =>
    rw [List.foldl_cons, ih, terms_take, List.append_assoc]
    cases hterm : termOf? ends piece <;> simp [hterm]

/-- The terms of a query are those of the pieces of its text. -/
theorem terms_read (ends : OpenEnds) (text : String) :
    (read ends text).flatMap Token.terms = (Text.unquotedPieces text.toList).filterMap (termOf? ends) := by
  rw [read, terms_foldl]
  rfl

/-! ## Terms -/

theorem not_isHandleChar_quote : isHandleChar '"' = false := by decide +kernel

/-- What stands in front of a term has no quotation mark. -/
theorem exists_eq_readSign (piece : List Char) :
    ∃ lead, piece = lead ++ (readSign piece).2 ∧ '"' ∉ lead := by
  unfold readSign
  split
  · exact ⟨['-'], rfl, by decide⟩
  · exact ⟨[], rfl, by simp⟩

/-- A scope is a handle in front of a piece, with one colon or two. -/
theorem exists_eq_readScope (piece : List Char) :
    ∃ lead, piece = lead ++ (readScope piece).2 ∧ '"' ∉ lead ∧
      ∀ handle ∈ (readScope piece).1, ∀ c ∈ handle, isHandleChar c = true := by
  have hpiece := List.takeWhile_append_dropWhile (p := fun c => c != ':' && c != '"') (l := piece)
  unfold readScope
  generalize piece.takeWhile (fun c => c != ':' && c != '"') = handle at hpiece ⊢
  generalize piece.dropWhile (fun c => c != ':' && c != '"') = behind at hpiece ⊢
  by_cases hcolon : ∃ rest, behind = ':' :: rest
  · obtain ⟨rest, rfl⟩ := hcolon
    by_cases hhandle : (!handle.isEmpty && handle.all isHandleChar) = true
    · have hchars : ∀ c ∈ handle, isHandleChar c = true := by
        rw [Bool.and_eq_true, List.all_eq_true] at hhandle
        exact hhandle.2
      have hplain : '"' ∉ handle := fun hc => absurd (hchars _ hc) (by simp [not_isHandleChar_quote])
      have hscope : ∀ name ∈ some handle, ∀ c ∈ name, isHandleChar c = true := by
        rintro _ ⟨⟩
        exact hchars
      simp only [hhandle, if_true]
      split
      · exact ⟨handle ++ [':', ':'], by simp [← hpiece], by simp [hplain], hscope⟩
      · exact ⟨handle ++ [':'], by simp [← hpiece], by simp [hplain], hscope⟩
    · simp only [hhandle]
      exact ⟨[], rfl, by simp, by simp⟩
  · split
    · exact absurd ⟨_, rfl⟩ hcolon
    · exact ⟨[], rfl, by simp, by simp⟩

/-- What a term that is written in a piece has from the piece and the ends that are preset. -/
structure Term.WrittenIn (ends : OpenEnds) (piece : List Char) (term : Term) : Prop where
  nonempty : term.text.toList ≠ []
  letters : ∀ c ∈ term.text.toList, c ∈ piece
  handle : ∀ handle, term.scope = some handle → ∀ c ∈ handle.toList, isHandleChar c = true
  /-- A phrase is more than blanks. -/
  inked : term.phrase = true → ∃ c ∈ term.text.toList, Text.isBlank c = false
  /-- Outside of phrases no quotation mark is lost. -/
  quoted : term.phrase = false → '"' ∈ piece → '"' ∈ term.text.toList
  openRight : term.phrase = false → ends.right = true → term.openRight = true

/-- A piece writes a term with the text that stands in it. -/
theorem writtenIn_of_readTerm? (h : readTerm? ends piece = some term) : term.WrittenIn ends piece := by
  unfold readTerm? at h
  obtain ⟨sign, hsign, hsignPlain⟩ := exists_eq_readSign piece
  generalize readSign piece = signed at h hsign
  obtain ⟨exclude, unsigned⟩ := signed
  dsimp only at h hsign
  obtain ⟨lead, hlead, hleadPlain, hhandle⟩ := exists_eq_readScope unsigned
  generalize readScope unsigned = limited at h hlead hhandle
  obtain ⟨scope, rest⟩ := limited
  dsimp only at h hlead hhandle
  have hpiece : piece = sign ++ (lead ++ rest) := by rw [hsign, hlead]
  have hscope : ∀ name, scope.map String.ofList = some name → ∀ c ∈ name.toList, isHandleChar c = true := by
    intro name hname
    obtain ⟨handle, rfl, rfl⟩ := Option.map_eq_some_iff.1 hname
    simpa using hhandle handle rfl
  split at h
  · rename_i inner
    split at h
    · cases h
    · rename_i htext
      obtain rfl := Option.some.inj h
      have hne : phraseText ('"' :: inner) ≠ [] := by simpa using htext
      refine ⟨by simpa using hne, fun c hc => ?_, hscope, fun _ => ?_, nofun, nofun⟩
      · have hinner := Text.mem_of_mem_trimmed (Text.mem_of_mem_trimmed (String.toList_ofList ▸ hc))
        rw [hpiece]
        exact List.mem_append_right _ (List.mem_append_right _ hinner)
      · obtain ⟨c, hc, hink⟩ := Text.trimmed_ne_nil_iff.1 hne
        rw [String.toList_ofList]
        exact ⟨c, Text.mem_trimmed hink hc, hink⟩
  · split at h
    · cases h
    · rename_i htext
      obtain rfl := Option.some.inj h
      have hne : (readStars ends rest).1 ≠ [] := by simpa using htext
      refine ⟨by simpa using hne, fun c hc => ?_, hscope, nofun, fun _ hc => ?_, fun _ hright => ?_⟩
      · rw [hpiece]
        exact List.mem_append_right _ (List.mem_append_right _
          (Text.mem_of_mem_trimmed (String.toList_ofList ▸ hc)))
      · have hrest : '"' ∈ rest := by
          rw [hpiece, List.mem_append, List.mem_append] at hc
          exact (hc.resolve_left hsignPlain).resolve_left hleadPlain
        rw [String.toList_ofList, ← List.count_pos_iff, readStars, Text.count_trimEnd (by decide),
          Text.count_trimStart (by decide), List.count_pos_iff]
        exact hrest
      · simp [readStars, hright]

/-- A term of a query is written in a piece of its text. -/
theorem exists_writtenIn {text : String} {token : Token} (htoken : token ∈ read ends text)
    (hterm : term ∈ token.terms) :
    ∃ piece ∈ Text.unquotedPieces text.toList, term.WrittenIn ends piece := by
  have hmem : term ∈ (read ends text).flatMap Token.terms := List.mem_flatMap_of_mem htoken hterm
  rw [terms_read] at hmem
  obtain ⟨piece, hpiece, hwritten⟩ := List.mem_filterMap.1 hmem
  unfold termOf? at hwritten
  split at hwritten
  · cases hwritten
  · exact ⟨piece, hpiece, writtenIn_of_readTerm? hwritten⟩

end SiteSearch.Query
