import SiteSearch.Proofs.Query.Answering

/-!
# Searching for plain terms

A plain term is one word of letters and digits in lowercase, open at its end at most. For a query of
plain terms the engine and the service agree on everything: the clauses are the terms, one for one, and
what is found are the documents that have every term that is asked for and none that is left out
(`World.plain_search_is_exact`).
-/

namespace SiteSearch

namespace Query.Term

variable {names : FieldNames} {term : Term} {document : Json}

/-- A word of small letters and digits, in a field whose name can be written. -/
structure IsPlain (names : FieldNames) (term : Term) : Prop where
  phrase : term.phrase = false
  openLeft : term.openLeft = false
  nonempty : term.text ≠ ""
  letters : ∀ c ∈ term.text.toList, Text.isAlphanumeric c = true
  small : Text.lowercase term.text.toList = term.text.toList
  scope : ∀ handle, term.scope = some handle →
    Unreserved (names.ofHandle handle).toList ∧ Flat (names.ofHandle handle).toList

/-- A word of a field with text, or of the one that the term is limited to, is the term or begins with
it where it is open. Case does not count. -/
def HasWord (names : FieldNames) (document : Json) (term : Term) : Prop :=
  ∃ field ∈ Condition.textFields document,
    (∀ handle, term.scope = some handle → field.1 = names.ofHandle handle) ∧
      ∃ word ∈ Text.words (Text.lowercase field.2.toList),
        word = term.text.toList ∨ term.openRight = true ∧ term.text.toList <+: word

/-- The clause of a plain term. -/
def plainClause (names : FieldNames) (term : Term) : Clause where
  occur := if term.exclude then .mustNot else .must
  field := term.scope.map names.ofHandle
  text := term.text.toList ++ if term.openRight then ['*'] else []
  phrase := false

namespace IsPlain

theorem not_isQuoted (h : term.IsPlain names) : term.isQuoted = false := by
  have hhyphen : '-' ∉ term.text.toList := fun hmem =>
    ne_of_isAlphanumeric (h.letters _ hmem) (by decide +kernel) rfl
  simp [isQuoted, h.phrase, hhyphen]

theorem isSigned (h : term.IsPlain names) : term.isSigned = true := by
  simp [Term.isSigned, h.not_isQuoted, h.openLeft]

theorem legible (h : term.IsPlain names) : term.Legible names where
  letters c hc := .inl (h.letters c hc)
  trimmed := (unreserved_of_isAlphanumeric h.letters).solid.trim
  scope handle hscope := (h.scope handle hscope).1
  unsigned _ _ hq := absurd (h.not_isQuoted.symm.trans hq) (by decide)

theorem flat_scopeText (h : term.IsPlain names) : Flat (term.scopeText names) := by
  unfold scopeText
  split
  · decide
  · rename_i handle hscope
    exact (h.scope handle hscope).2.append (by decide)

theorem clause_eq (h : term.IsPlain names) : term.clause names = term.plainClause names := by
  simp [clause, plainClause, h.not_isQuoted, h.openLeft, h.small, star]

theorem foundIn_iff (h : term.IsPlain names) :
    term.FoundIn names document ↔ term.HasWord names document := by
  refine exists_congr fun field => and_congr_right fun _ => and_congr (by simp) ?_
  rw [IsIn, h.not_isQuoted, h.openLeft, h.small]
  refine exists_congr fun word => and_congr_right fun _ => ?_
  cases term.openRight with
  | false => simp [WordFits]
  | true =>
    simp only [WordFits, true_and]
    constructor
    · exact .inr
    · rintro (rfl | hprefix)
      · exact List.prefix_rfl
      · exact hprefix

end IsPlain

end Query.Term

namespace Query

variable {names : FieldNames} {terms : List Term}

theorem writtenTerms_map (terms : List Term) : writtenTerms (terms.map .term) = terms := by
  rw [writtenTerms, List.filterMap_map]
  exact List.filterMap_some

/-- The engine reads plain terms as they are written. -/
theorem readAll_plain (h : ∀ term ∈ terms, term.IsPlain names) :
    Clause.readAll (queryString names (terms.map .term)) =
      .ok (terms.map (Term.plainClause names)) := by
  refine (readAll_queryString_iff ?_).2 ⟨?_, ?_⟩
  all_goals rw [writtenTerms_map]
  · exact fun term hterm => (h term hterm).legible
  · intro term hterm
    have hne : term.text.toList ≠ [] := by simpa using (h term hterm).nonempty
    refine ⟨(h term hterm).flat_scopeText, ?_⟩
    rw [(h term hterm).clause_eq]
    simp [Term.plainClause, hne]
  · exact (List.map_congr_left fun term hterm => (h term hterm).clause_eq).symm

/-- What a query of plain terms selects has the terms that are asked for and no others of them. -/
theorem selects_plain_iff {document : Json} (hne : terms ≠ []) (h : ∀ term ∈ terms, term.IsPlain names) :
    Selects names document terms ↔
      ∀ term ∈ terms, term.HasWord names document ↔ term.exclude = false := by
  rw [selects_iff_of_signed fun term hterm => (h term hterm).isSigned, and_iff_right hne]
  refine forall₂_congr fun term hterm => ?_
  rw [(h term hterm).foundIn_iff]

end Query

/-- Plain-term search is exact. In a collection of one index whose documents all stand under the ids of
elements and fit into one search, the engine reads one clause for each term, and the service answers
with the elements whose documents have every term that is asked for and none that is left out, each of
them once. -/
theorem World.plain_search_is_exact {w : World} {key : CollectionKey} {target : Option CollectionKey}
    {index : String} {blocked : Bool} {documents : NameMap Json} {terms : List Query.Term}
    (hbacks : w.memory.store.Backs (w.service.aliasName key) index blocked documents)
    (hids : WordIds documents) (hfits : documents.size ≤ w.service.config.maxResultWindow.toNat)
    (hsearches : w.memory.rejectSearches = false) (hhooks : w.service.hooks = [])
    (htarget : target.or w.service.defaultCollection = some key) (hne : terms ≠ [])
    (hplain : ∀ term ∈ terms, term.IsPlain w.service.fieldNames) :
    Clause.readAll (Query.queryString w.service.fieldNames (terms.map .term)) =
        .ok (terms.map (Query.Term.plainClause w.service.fieldNames)) ∧
      ∃ hits, w.found (terms.map .term) target none = .ok hits ∧ (hits.map (·.id)).Nodup ∧
        ∀ element, element ∈ hits.map (·.id) ↔
          ∃ document, documents.get? (Text.writeWord element) = some document ∧
            ∀ term ∈ terms, term.HasWord w.service.fieldNames document ↔ term.exclude = false := by
  have hread := Query.readAll_plain hplain
  have hdocuments : w.documents key = documents.entries := hbacks.documents_eq
  have hmem : ∀ id document, (id, document) ∈ w.documents key ↔ documents.get? id = some document := by
    intro id document
    rw [hdocuments]
    exact NameMap.mem_entries
  have hlegible : ∀ term ∈ Query.writtenTerms (terms.map .term), term.Legible w.service.fieldNames := by
    rw [Query.writtenTerms_map]
    exact fun term hterm => (hplain term hterm).legible
  have hthere : ∃ i, w.memory.store.Reads (w.service.aliasName key) i :=
    ⟨index, (Store.reads_iff_carries hbacks.unnamed).2
      ((Store.carriers_eq_singleton.1 hbacks.carriers_eq index).2 rfl)⟩
  have hlength : (w.documents key).length ≤ w.service.config.maxResultWindow.toNat := by
    rw [hdocuments]
    exact hfits
  obtain ⟨hits, hfound, hnodup, hhits⟩ :=
    w.exists_found hhooks htarget hlegible hread hsearches hthere hlength
  refine ⟨hread, hits, hfound, hnodup, fun element => (hhits element).trans ?_⟩
  constructor
  · rintro ⟨⟨id, document⟩, hselects⟩
    have hget : documents.get? id = some document := (hmem id document).1 hselects.mem
    obtain ⟨word, rfl⟩ := hids id (NameMap.contains_eq_true.2 ⟨document, hget⟩)
    have hword : some word = some element := (Text.readWord?_writeWord word).symm.trans hselects.id
    have hselected := hselects.selected
    rw [Query.writtenTerms_map, Query.selects_plain_iff hne hplain] at hselected
    exact ⟨document, Option.some.inj hword ▸ hget, hselected⟩
  · rintro ⟨document, hget, hterms⟩
    refine ⟨(Text.writeWord element, document), (hmem _ document).2 hget,
      Text.readWord?_writeWord element, ?_, ?_⟩
    · rw [Query.writtenTerms_map, Query.selects_plain_iff hne hplain]
      exact hterms
    · intro ids hscope
      cases hscope

/-- Of the two cars one has no word that begins like red. -/
theorem plain_search_finds_blue_car :
    let terms : List Query.Term :=
      [{ text := "car", scope := some "title" }, { text := "re", exclude := true, openRight := true }]
    World.shelf.found (terms.map .term) (some .english) none = .ok [⟨2, .ofNat 1⟩] ∧
      Clause.readAll "+craft_attribute_title:car -re*" = .ok
        [⟨.must, some "craft_attribute_title", "car".toList, false⟩, ⟨.mustNot, none, "re*".toList, false⟩] ∧
      ∀ element, element ∈ ([⟨2, .ofNat 1⟩] : List RankedHit).map (·.id) ↔
          ∃ document, World.cars.get? (Text.writeWord element) = some document ∧
            ∀ term ∈ terms, term.HasWord World.shelf.service.fieldNames document ↔
              term.exclude = false := by
  intro terms
  have hfound : World.shelf.found (terms.map .term) (some .english) none = .ok [⟨2, .ofNat 1⟩] := by
    decide +kernel
  have hplain : ∀ term ∈ terms, term.IsPlain World.shelf.service.fieldNames := by
    intro term hterm
    simp only [terms, List.mem_cons, List.not_mem_nil, or_false] at hterm
    rcases hterm with rfl | rfl
    · refine ⟨rfl, rfl, by decide, List.all_eq_true.1 (by decide +kernel), by decide +kernel, ?_⟩
      rintro handle ⟨⟩
      decide +kernel
    · refine ⟨rfl, rfl, by decide, List.all_eq_true.1 (by decide +kernel), by decide +kernel, ?_⟩
      rintro handle ⟨⟩
  have htarget : (some CollectionKey.english).or World.shelf.service.defaultCollection =
      some .english := rfl
  obtain ⟨hread, hits, hhits, -, hmem⟩ := World.plain_search_is_exact World.backs_shelf
    World.wordIds_cars (by decide +kernel) rfl rfl htarget (by simp [terms]) hplain
  obtain rfl := Except.ok.inj (hhits.symm.trans hfound)
  exact ⟨hfound, hread, hmem⟩

end SiteSearch
