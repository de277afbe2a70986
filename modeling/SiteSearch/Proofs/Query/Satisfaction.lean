import SiteSearch.Proofs.Query.Answering

/-!
# Hits that satisfy their query

A hit has every term of its query that has a plus sign and no term that has a minus sign. A phrase, and
a term that is open on the left, has neither where the engine looks for it: such a term counts only as
long as no other one has a plus sign, and then as one of several that may be there, even where it is to
be left out.

So a query of more tokens finds nothing more, as long as there is a term before, no term without a sign
comes to matter less, and the collection fits into one search (`World.search_satisfies`).
-/

namespace SiteSearch

open Query (writtenTerms)

namespace Query

variable {names : FieldNames} {document : Json} {before behind : List Token} {token : Token}

/-- A token that only narrows a query: any token does where every term has a sign, or some term a plus
sign; beside terms without signs only, or minus signs, a term with a minus sign does. -/
def Narrows (terms : List Term) (token : Token) : Prop :=
  (∃ term ∈ terms, term.isSigned = false) →
    (∃ term ∈ terms, term.isSigned = true ∧ term.exclude = false) ∨
      ∀ term, token = .term term → term.isSigned = true ∧ term.exclude = true

theorem writtenTerms_append (tokens others : List Token) :
    writtenTerms (tokens ++ others) = writtenTerms tokens ++ writtenTerms others :=
  List.filterMap_append

/-- What a query selects is selected without a token that only narrows it. -/
theorem Selects.of_narrows (h : Selects names document (writtenTerms (before ++ token :: behind)))
    (hasked : writtenTerms (before ++ behind) ≠ [])
    (hnarrows : Narrows (writtenTerms (before ++ behind)) token) :
    Selects names document (writtenTerms (before ++ behind)) := by
  unfold Narrows at hnarrows
  rw [writtenTerms_append] at h hasked hnarrows ⊢
  cases token with
  | group => exact h
  | term term =>
    refine Selects.of_insert h hasked fun hsome => ?_
    exact (hnarrows hsome).imp_right fun hterm => hterm term rfl

end Query

namespace World

variable {w : World} {key : CollectionKey} {tokens : List Query.Token} {target : Option CollectionKey}
variable {scope : Option (List ElementId)} {hits : List RankedHit} {hit : RankedHit}

/-- What is found with one token more is found without it, where the token only narrows the query. -/
theorem found_of_narrows {before behind : List Query.Token} {token : Query.Token}
    (hhooks : w.service.hooks = []) (htarget : target.or w.service.defaultCollection = some key)
    (hlegible : ∀ term ∈ writtenTerms (before ++ token :: behind), term.Legible w.service.fieldNames)
    (hfits : (w.documents key).length ≤ w.service.config.maxResultWindow.toNat)
    (hasked : writtenTerms (before ++ behind) ≠ [])
    (hnarrows : Query.Narrows (writtenTerms (before ++ behind)) token)
    (h : w.found (before ++ token :: behind) target scope = .ok hits) (hhit : hit ∈ hits) :
    ∃ others, w.found (before ++ behind) target scope = .ok others ∧ hit.id ∈ others.map (·.id) := by
  have hkept : ∀ term ∈ writtenTerms (before ++ behind), term ∈ writtenTerms (before ++ token :: behind) := by
    intro term
    simp only [Query.writtenTerms, List.mem_filterMap, List.mem_append, List.mem_cons]
    grind
  have hlegible' := fun term hterm => hlegible term (hkept term hterm)
  obtain rfl | ⟨hsearches, reply, hreply, rfl⟩ := exists_reply hhooks htarget h
  · cases hhit
  obtain ⟨raw, hraw, -⟩ := Query.mem_rank_iff.1 ⟨hit, hhit, rfl⟩
  obtain ⟨i, -, hreads, -⟩ := Store.exists_document?_of_search hreply hraw
  -- the engine has read the longer query, so it can read the shorter one
  obtain ⟨document, score, -, hscore⟩ := Store.exists_score_of_search hreply hraw
  obtain ⟨clauses, hread⟩ := Query.SearchSettings.exists_clauses_of_score hscore
  have htext := ((Query.readAll_queryString_iff hlegible).1 hread).1
  have hread' := (Query.readAll_queryString_iff hlegible').2
    ⟨fun term hterm => htext term (hkept term hterm), rfl⟩
  obtain ⟨others, hothers, -, hmem⟩ := exists_found hhooks htarget hlegible' hread' hsearches
    ⟨i, hreads⟩ hfits
  obtain ⟨t, w', hrun⟩ := w.runs_found (before ++ token :: behind) target scope
  rw [h] at hrun
  obtain ⟨found, hselects⟩ := hrun.exists_selected hhooks htarget hlegible hhit
  exact ⟨others, hothers, (hmem hit.id).2
    ⟨found, { hselects with selected := hselects.selected.of_narrows hasked hnarrows }⟩⟩

/-- The elements that a search in the English collection finds. -/
def foundIds (w : World) (tokens : List Query.Token) : Except ServiceError (List ElementId) :=
  (w.found tokens (some .english) none).map (List.map (·.id))

/-- A search finds one element only, and the document of that element does not have the terms that are
asked for, or it has one that is to be left out. -/
def FindsAmiss (w : World) (tokens : List Query.Token) (element : ElementId) : Prop :=
  w.foundIds tokens = .ok [element] ∧ ∃ document ∈ w.documents .english,
    document.1 = Text.writeWord element ∧ ∃ term ∈ writtenTerms tokens,
      ¬ (term.FoundIn w.service.fieldNames document.2 ↔ term.exclude = false)

instance (w : World) (tokens : List Query.Token) (element : ElementId) :
    Decidable (w.FindsAmiss tokens element) :=
  inferInstanceAs (Decidable (_ ∧ ∃ document ∈ w.documents .english, _ ∧ ∃ term ∈ writtenTerms tokens, _))

/-- Three documents with marks in their titles. -/
def labels : World :=
  ((World.empty .plain).rehearse
    [ (.upsert (.titled 1 "red:car") .english, []),
      (.upsert (.titled 2 "craft_attribute_x\"y\":car") .english, []),
      (.upsert (.titled 3 "craft_attribute_a") .english, []) ]).2

end World

end SiteSearch
