import SiteSearch.Proofs.Query.Reading

/-!
# Groups of terms

What `OR` does to the terms of a text. Every piece of the text but `OR` adds its term behind those that are
there, and a token that is there can only grow at its end (`Grows`). So it is settled where the second of
two consecutive terms is read whether they share a group: they do if an `OR` stands between their pieces
(`grouped_iff`), and a group has two terms from the start.

`read_groups` says this of every text, together with what each term is made of.
-/

namespace SiteSearch.Query

variable {ends : OpenEnds} {piece first second : List Char} {term next : Term}
variable {tokens tokens' : List Token} {earlier : List Term} {reading : Reading}
variable {front between behind pieces : List (List Char)}

/-! ## Tokens -/

/-- A token with one more alternative. -/
def Token.joined (term : Term) (token : Token) : Token := .group (token.terms ++ [term])

theorem joinLast_concat (term : Term) : ∀ (tokens : List Token) (last : Token),
    joinLast term (tokens ++ [last]) = tokens ++ [last.joined term]
  | [], .term _ => rfl
  | [], .group _ => rfl
  | [token], last => by
    rw [List.singleton_append, joinLast, ← List.nil_append [last], joinLast_concat term [] last]
    all_goals simp
  | token :: next :: tokens, last => by
    rw [List.cons_append, joinLast, joinLast_concat term (next :: tokens) last]
    all_goals simp

/-- Two terms stand side by side in a group, and `earlier` are the terms in front of them. -/
def Grouped (tokens : List Token) (earlier : List Term) (term next : Term) : Prop :=
  ∃ before after left right, tokens = before ++ .group (left ++ term :: next :: right) :: after ∧
    before.flatMap Token.terms ++ left = earlier

/-- Each token of one list is there in the other at the same place, with terms added at its end only. -/
def Grows (tokens tokens' : List Token) : Prop :=
  ∀ before token after, tokens = before ++ token :: after →
    ∃ token' after' right, tokens' = before ++ token' :: after' ∧ token'.terms = token.terms ++ right

theorem Grows.refl (tokens : List Token) : Grows tokens tokens :=
  fun _ token after h => ⟨token, after, [], h, by simp⟩

theorem Grows.trans {tokens'' : List Token} (h : Grows tokens tokens') (h' : Grows tokens' tokens'') :
    Grows tokens tokens'' := by
  intro before token after heq
  obtain ⟨token', after', right, heq', hterms⟩ := h before token after heq
  obtain ⟨token'', after'', right', heq'', hterms'⟩ := h' before token' after' heq'
  exact ⟨token'', after'', right ++ right', heq'', by rw [hterms', hterms, List.append_assoc]⟩

theorem grows_append (tokens : List Token) (token : Token) : Grows tokens (tokens ++ [token]) := by
  rintro before other after rfl
  exact ⟨other, after ++ [token], [], by simp, by simp⟩

theorem grows_joinLast (term : Term) (tokens : List Token) : Grows tokens (joinLast term tokens) := by
  rintro before token after rfl
  obtain rfl | ⟨after, last, rfl⟩ := List.eq_nil_or_concat after
  · exact ⟨token.joined term, [], [term], joinLast_concat term before token, rfl⟩
  · refine ⟨token, after ++ [last.joined term], [], ?_, by simp⟩
    rw [List.concat_eq_append, ← List.cons_append, ← List.append_assoc, joinLast_concat, List.append_assoc]
    rfl

/-- Terms that share a group go on sharing it. -/
theorem Grouped.grows (h : Grouped tokens earlier term next) (hgrows : Grows tokens tokens') :
    Grouped tokens' earlier term next := by
  obtain ⟨before, after, left, right, heq, hearlier⟩ := h
  obtain ⟨token', after', more, heq', hterms⟩ := hgrows before _ after heq
  have hmany : token'.terms = left ++ term :: next :: (right ++ more) := by simpa [Token.terms] using hterms
  cases token' with
  | term other =>
    have hlength := congrArg List.length hmany
    simp [Token.terms] at hlength
    omega
  | group members =>
    obtain rfl : members = left ++ term :: next :: (right ++ more) := hmany
    exact ⟨before, after', left, right ++ more, heq', hearlier⟩

/-- Where a token ends behind the first of two terms, they do not share a group. -/
theorem not_grouped_of_parted {start : List Token} (hstart : start.flatMap Token.terms = earlier ++ [term])
    (hgrows : ∃ after, tokens = start ++ after) : ¬ Grouped tokens earlier term next := by
  obtain ⟨rest, rfl⟩ := hgrows
  rintro ⟨before, after, left, right, heq, rfl⟩
  have hlength := congrArg List.length hstart
  simp only [List.length_append, List.length_singleton] at hlength
  rcases List.append_eq_append_iff.1 heq with ⟨more, rfl, -⟩ | ⟨more, rfl, hmore⟩
  · rw [List.flatMap_append, List.length_append] at hlength
    omega
  · cases more with
    | nil =>
      rw [List.append_nil] at hlength
      omega
    | cons token more =>
      obtain ⟨rfl, -⟩ := List.cons.inj hmore
      rw [List.flatMap_append, List.flatMap_cons, List.length_append, List.length_append, Token.terms,
        List.length_append, List.length_cons, List.length_cons] at hlength
      omega

/-! ## One piece after the other -/

theorem take_joiner (ends : OpenEnds) (reading : Reading) :
    reading.take ends joiner = ⟨reading.tokens, !reading.tokens.isEmpty⟩ :=
  if_pos rfl

theorem take_of_none (h : termOf? ends piece = none) (hjoiner : piece ≠ joiner) :
    reading.take ends piece = reading := by
  rw [termOf?, if_neg hjoiner] at h
  rw [Reading.take, if_neg hjoiner, h]

theorem take_of_some (h : termOf? ends piece = some term) :
    reading.take ends piece =
      ⟨if reading.joining then joinLast term reading.tokens else reading.tokens ++ [.term term], false⟩ := by
  have hjoiner : piece ≠ joiner := by
    rintro rfl
    cases h
  rw [termOf?, if_neg hjoiner] at h
  rw [Reading.take, if_neg hjoiner, h]
  dsimp only
  split <;> rfl

/-- A piece takes no token back. -/
theorem grows_take (ends : OpenEnds) (reading : Reading) (piece : List Char) :
    Grows reading.tokens (reading.take ends piece).tokens := by
  by_cases hjoiner : piece = joiner
  · rw [hjoiner, take_joiner]
    exact .refl _
  · cases hterm : termOf? ends piece with
    | none =>
      rw [take_of_none hterm hjoiner]
      exact .refl _
    | some term =>
      rw [take_of_some hterm]
      dsimp only
      split
      · exact grows_joinLast term reading.tokens
      · exact grows_append reading.tokens (.term term)

theorem grows_foldl (ends : OpenEnds) : ∀ (pieces : List (List Char)) (reading : Reading),
    Grows reading.tokens (pieces.foldl (Reading.take ends) reading).tokens
  | [], reading => .refl reading.tokens
  | piece :: pieces, reading =>
    (grows_take ends reading piece).trans (grows_foldl ends pieces (reading.take ends piece))

/-- Pieces without a term only settle whether the next term joins the last. -/
theorem foldl_of_none {joining : Bool} (h : ∀ piece ∈ pieces, termOf? ends piece = none)
    (hne : tokens ≠ []) :
    pieces.foldl (Reading.take ends) ⟨tokens, joining⟩ = ⟨tokens, joining || decide (joiner ∈ pieces)⟩ := by
  induction pieces generalizing joining with
  | nil => simp
  | cons piece pieces ih =>
    obtain ⟨hpiece, hpieces⟩ := List.forall_mem_cons.1 h
    rw [List.foldl_cons]
    by_cases hjoiner : piece = joiner
    · rw [hjoiner, take_joiner, ih hpieces]
      simp [hne]
    · rw [take_of_none hpiece hjoiner, ih hpieces]
      simp [Ne.symm hjoiner]

/-! ## Two consecutive terms -/

/-- Behind a piece with a term that term is the last one, and no other joins it yet. -/
theorem exists_take_eq (reading : Reading) (h : termOf? ends piece = some term) : ∃ start token left,
    reading.take ends piece = ⟨start ++ [token], false⟩ ∧ token.terms = left ++ [term] ∧
      start.flatMap Token.terms ++ left = reading.tokens.flatMap Token.terms := by
  rw [take_of_some h]
  obtain hnil | ⟨start, last, hlast⟩ := List.eq_nil_or_concat reading.tokens
  · exact ⟨[], .term term, [], by simp [hnil, joinLast], rfl, by simp [hnil]⟩
  · rw [hlast, List.concat_eq_append, joinLast_concat]
    split
    · exact ⟨start, last.joined term, last.terms, rfl, rfl, by simp⟩
    · exact ⟨start ++ [last], .term term, [], rfl, rfl, by simp⟩

/-- Two consecutive terms share a group if a joiner stands between their pieces, and only then. -/
theorem grouped_iff (hfirst : termOf? ends first = some term) (hsecond : termOf? ends second = some next)
    (hbetween : ∀ piece ∈ between, termOf? ends piece = none) :
    Grouped ((front ++ first :: (between ++ second :: behind)).foldl (Reading.take ends) {}).tokens
      (front.filterMap (termOf? ends)) term next ↔ joiner ∈ between := by
  have hfront : (front.foldl (Reading.take ends) {}).tokens.flatMap Token.terms =
      front.filterMap (termOf? ends) := terms_foldl ends front {}
  rw [List.foldl_append, List.foldl_cons, List.foldl_append, List.foldl_cons]
  generalize front.foldl (Reading.take ends) {} = reading at hfront ⊢
  obtain ⟨start, token, left, htake, htoken, hstart⟩ := exists_take_eq reading hfirst
  rw [hfront] at hstart
  rw [htake, foldl_of_none hbetween (by simp), take_of_some hsecond, Bool.false_or]
  dsimp only
  by_cases hjoins : joiner ∈ between
  · rw [if_pos (decide_eq_true hjoins), joinLast_concat]
    refine iff_of_true (Grouped.grows ?_ (grows_foldl ends behind _)) hjoins
    exact ⟨start, [], left, [], by rw [Token.joined, htoken, List.append_assoc]; rfl, hstart⟩
  · rw [if_neg (by simpa using hjoins)]
    have hterms : (start ++ [token]).flatMap Token.terms = front.filterMap (termOf? ends) ++ [term] := by
      rw [List.flatMap_append, List.flatMap_singleton, htoken, ← List.append_assoc, hstart]
    -- the token of the second term only grows, so the one before it stays closed
    obtain ⟨grown, after, -, hgrown, -⟩ := grows_foldl ends behind
      ⟨start ++ [token] ++ [.term next], false⟩ (start ++ [token]) (.term next) [] rfl
    exact iff_of_false (not_grouped_of_parted hterms ⟨grown :: after, hgrown⟩) hjoins

/-! ## What a term is made of -/

/-- A handle in front of a piece has at least one character. -/
theorem ne_nil_of_readScope {handle : List Char} (h : handle ∈ (readScope piece).1) : handle ≠ [] := by
  unfold readScope at h
  split at h
  · dsimp only at h
    split at h
    · rename_i hhandle
      obtain rfl := Option.some.inj h
      rw [Bool.and_eq_true] at hhandle
      simpa using hhandle.1
    · cases h
  · cases h

/-- What every term of a query keeps to. -/
structure Term.WellFormed (term : Term) : Prop where
  nonempty : term.text ≠ ""
  /-- A phrase is closed at both ends, whatever ends are preset. -/
  closed : term.phrase = true → term.openLeft = false ∧ term.openRight = false
  /-- A scope is a handle of letters, digits and underscores. -/
  handle : ∀ handle ∈ term.scope, handle ≠ "" ∧
    ∀ c ∈ handle.toList, Text.isAlphanumeric c = true ∨ c = '_'

theorem scope_of_readTerm? (h : readTerm? ends piece = some term) :
    term.scope = (readScope (readSign piece).2).1.map String.ofList := by
  unfold readTerm? at h
  dsimp only at h
  split at h
  all_goals
    split at h
    · cases h
    · rw [← Option.some.inj h]

theorem closed_of_readTerm? (h : readTerm? ends piece = some term) (hphrase : term.phrase = true) :
    term.openLeft = false ∧ term.openRight = false := by
  unfold readTerm? at h
  dsimp only at h
  split at h
  · split at h
    · cases h
    · rw [← Option.some.inj h]
      exact ⟨rfl, rfl⟩
  · split at h
    · cases h
    · rw [← Option.some.inj h] at hphrase
      cases hphrase

/-- A piece writes no other terms than well-formed ones. -/
theorem wellFormed_of_readTerm? (h : readTerm? ends piece = some term) : term.WellFormed where
  nonempty hempty := (writtenIn_of_readTerm? h).nonempty (by rw [hempty]; rfl)
  closed := closed_of_readTerm? h
  handle handle hhandle := by
    have hchars := (writtenIn_of_readTerm? h).handle handle hhandle
    rw [scope_of_readTerm? h] at hhandle
    obtain ⟨name, hname, rfl⟩ := Option.map_eq_some_iff.1 hhandle
    refine ⟨by simpa using ne_nil_of_readScope hname, fun c hc => ?_⟩
    simpa [isHandleChar] using hchars c hc

/-! ## Queries -/

/-- A token is a term, or a group with a choice. -/
def Token.Proper : Token → Prop
  | .term _ => True
  | .group terms => 2 ≤ terms.length

theorem Token.Proper.joined {token : Token} (h : token.Proper) (term : Term) :
    (token.joined term).Proper := by
  cases token with
  | term last => exact Nat.le_refl 2
  | group terms =>
    rw [Token.Proper] at h
    rw [Token.joined, Token.Proper, List.length_append, Token.terms]
    omega

theorem proper_joinLast (h : ∀ token ∈ tokens, token.Proper) (term : Term) :
    ∀ token ∈ joinLast term tokens, token.Proper := by
  obtain rfl | ⟨start, last, rfl⟩ := List.eq_nil_or_concat tokens
  · simp [joinLast, Token.Proper]
  · rw [List.concat_eq_append] at h ⊢
    obtain ⟨hstart, hlast⟩ := List.forall_mem_append.1 h
    rw [joinLast_concat]
    exact List.forall_mem_append.2 ⟨hstart, by simpa using Token.Proper.joined (by simpa using hlast) term⟩

theorem proper_take (h : ∀ token ∈ reading.tokens, token.Proper) (piece : List Char) :
    ∀ token ∈ (reading.take ends piece).tokens, token.Proper := by
  by_cases hjoiner : piece = joiner
  · rwa [hjoiner, take_joiner]
  · cases hterm : termOf? ends piece with
    | none => rwa [take_of_none hterm hjoiner]
    | some term =>
      rw [take_of_some hterm]
      dsimp only
      split
      · exact proper_joinLast h term
      · exact List.forall_mem_append.2 ⟨h, by simp [Token.Proper]⟩

theorem proper_foldl : ∀ (pieces : List (List Char)) {reading : Reading},
    (∀ token ∈ reading.tokens, token.Proper) →
      ∀ token ∈ (pieces.foldl (Reading.take ends) reading).tokens, token.Proper
  | [], _, h => h
  | piece :: pieces, _, h => proper_foldl pieces (proper_take h piece)

/-- Pieces write two terms behind `earlier` ones, and those in `between` stand between the two and write
none. -/
def WrittenBy (ends : OpenEnds) (pieces : List (List Char)) (earlier : List Term) (term next : Term)
    (between : List (List Char)) : Prop :=
  ∃ front first second behind, pieces = front ++ first :: (between ++ second :: behind) ∧
    front.filterMap (termOf? ends) = earlier ∧ termOf? ends first = some term ∧
    termOf? ends second = some next ∧ ∀ piece ∈ between, termOf? ends piece = none

theorem exists_writtenBy {later : List Term}
    (h : pieces.filterMap (termOf? ends) = earlier ++ term :: next :: later) :
    ∃ between, WrittenBy ends pieces earlier term next between := by
  obtain ⟨front, rest, rfl, rfl, hrest⟩ := List.filterMap_eq_append_iff.1 h
  obtain ⟨silent, first, rest, rfl, hsilent, hfirst, hnext⟩ := List.filterMap_eq_cons_iff.1 hrest
  obtain ⟨between, second, behind, rfl, hbetween, hsecond, -⟩ := List.filterMap_eq_cons_iff.1 hnext
  refine ⟨between, front ++ silent, first, second, behind, by simp, ?_, hfirst, hsecond, hbetween⟩
  rw [List.filterMap_append, List.filterMap_eq_nil_iff.2 hsilent, List.append_nil]

/-- The terms of a query are those that the pieces of its text write, without `OR`, in their order. Two
consecutive ones share a group exactly if an `OR` stands between their pieces. No group is without a choice
and every term is well-formed. -/
theorem read_groups (ends : OpenEnds) (text : String) :
    let pieces := Text.unquotedPieces text.toList
    let tokens := read ends text
    tokens.flatMap Token.terms = (pieces.filter (· ≠ joiner)).filterMap (readTerm? ends) ∧
      (∀ earlier term next later, tokens.flatMap Token.terms = earlier ++ term :: next :: later →
        ∃ between, WrittenBy ends pieces earlier term next between ∧
          (Grouped tokens earlier term next ↔ joiner ∈ between)) ∧
      (∀ members, Token.group members ∈ tokens → 2 ≤ members.length) ∧
      ∀ token ∈ tokens, ∀ term ∈ token.terms, term.WellFormed := by
  intro pieces tokens
  have hterms : tokens.flatMap Token.terms = (pieces.filter (· ≠ joiner)).filterMap (readTerm? ends) := by
    rw [terms_read, List.filterMap_filter]
    congr 1
    funext piece
    by_cases hjoiner : piece = joiner <;> simp [termOf?, hjoiner]
  refine ⟨hterms, fun earlier term next later hsplit => ?_, fun members hmembers => ?_,
    fun token htoken term hterm => ?_⟩
  · rw [terms_read] at hsplit
    obtain ⟨between, hwritten⟩ := exists_writtenBy hsplit
    refine ⟨between, hwritten, ?_⟩
    obtain ⟨front, first, second, behind, hpieces, rfl, hfirst, hsecond, hbetween⟩ := hwritten
    show Grouped (pieces.foldl (Reading.take ends) {}).tokens _ _ _ ↔ _
    rw [show pieces = _ from hpieces]
    exact grouped_iff hfirst hsecond hbetween
  · exact proper_foldl pieces (by simp) _ hmembers
  · have hmem : term ∈ tokens.flatMap Token.terms := List.mem_flatMap_of_mem htoken hterm
    rw [hterms] at hmem
    obtain ⟨piece, -, hpiece⟩ := List.mem_filterMap.1 hmem
    exact wellFormed_of_readTerm? hpiece

/-- Soup and salad share a group, for an `OR` stands between them. -/
theorem read_groups_soup_and_salad :
    let tokens := read .closed "soup OR * salad bread"
    let pieces := Text.unquotedPieces "soup OR * salad bread".toList
    tokens.flatMap Token.terms = [.plain "soup", .plain "salad", .plain "bread"] ∧
      Grouped tokens [] (.plain "soup") (.plain "salad") ∧
      ∃ between, WrittenBy .closed pieces [] (.plain "soup") (.plain "salad") between ∧
        joiner ∈ between := by
  intro tokens pieces
  have hterms : tokens.flatMap Token.terms =
      [] ++ .plain "soup" :: .plain "salad" :: [.plain "bread"] := by decide +kernel
  have hgrouped : Grouped tokens [] (.plain "soup") (.plain "salad") :=
    ⟨[], [.term (.plain "bread")], [], [], by decide +kernel, rfl⟩
  obtain ⟨between, hwritten, hiff⟩ := (read_groups .closed "soup OR * salad bread").2.1 [] _ _ _ hterms
  exact ⟨hterms, hgrouped, between, hwritten, hiff.1 hgrouped⟩

/-- An `OR` in front of all terms, one behind them, and a second one in a row do nothing. -/
example : read .closed "OR soup OR OR * salad bread OR" =
    [.group [.plain "soup", .plain "salad"], .term (.plain "bread")] := by decide +kernel

end SiteSearch.Query
