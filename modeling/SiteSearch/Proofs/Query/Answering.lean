import SiteSearch.Proofs.Document.Readback
import SiteSearch.Proofs.Memory.Hits

/-!
# What a search answers

Without hooks a service asks the engine for the documents that the written terms of a query select, and
it answers with their elements. It answers with nothing else, whatever calls fail
(`Operation.Runs.exists_selected`), and where the documents of a collection fit into one search, with
all of them (`World.exists_found`).
-/

namespace SiteSearch

open Query (writtenTerms)

variable {key : CollectionKey} {tokens : List Query.Token} {target : Option CollectionKey}
variable {scope : Option (List ElementId)} {w : World}

/-- What a service answers with when it is asked to search. -/
def World.found (w : World) (tokens : List Query.Token) (target : Option CollectionKey)
    (scope : Option (List ElementId)) : Except ServiceError (List RankedHit) :=
  ((Operation.search tokens target scope).rehearse [] w).2.1

/-- The documents that readers find in a collection. -/
def World.documents (w : World) (key : CollectionKey) : List (String × Json) :=
  w.memory.store.documents (w.service.aliasName key)

/-- A document of a collection that a query selects, with the element that its id stands for. -/
structure World.Selects (w : World) (key : CollectionKey) (tokens : List Query.Token)
    (scope : Option (List ElementId)) (element : ElementId) (document : String × Json) : Prop where
  mem : document ∈ w.documents key
  id : Text.readWord? document.1.toList = some element
  selected : Query.Selects w.service.fieldNames document.2 (writtenTerms tokens)
  inScope : Query.SearchSettings.InScope scope document.1

namespace Service

variable {service : Service}

/-- Without hooks the engine is sent the request as it was made. -/
theorem request_of_no_hooks (hhooks : service.hooks = []) (index : String) :
    service.searchSettings.request index tokens scope =
      service.searchSettings.plainRequest index tokens scope := by
  rw [Query.SearchSettings.request, searchSettings, hhooks]
  rfl

theorem size_plainRequest (service : Service) (index : String) (tokens : List Query.Token)
    (scope : Option (List ElementId)) :
    (Store.SearchSpec.ofBody (service.searchSettings.plainRequest index tokens scope).body).size =
      service.config.maxResultWindow.toNat :=
  Query.SearchSettings.size_plainRequest service.config.maxResultWindow.toNat_lt

end Service

/-- Every hit of a search is a document that the query selects. -/
theorem Operation.Runs.exists_selected {faults : Faults} {t : List (Turn Memory)} {w' : World}
    {hits : List RankedHit} {hit : RankedHit}
    (h : (Operation.search tokens target scope).Runs faults w t (.ok hits) w')
    (hhooks : w.service.hooks = []) (htarget : target.or w.service.defaultCollection = some key)
    (hlegible : ∀ term ∈ writtenTerms tokens, term.Legible w.service.fieldNames) (hhit : hit ∈ hits) :
    ∃ document, w.Selects key tokens scope hit.id document := by
  obtain ⟨o, hd, hr⟩ := h.1.search htarget
  rw [Service.request_of_no_hooks hhooks] at hd
  rcases Operation.ranked_eq_ok hr.symm with rfl | ⟨reply, rfl, rfl⟩
  · cases hhit
  obtain ⟨s₁, t₁, -, ha, -⟩ := h.2.first hd
  obtain ⟨raw, hraw, hid⟩ := Query.mem_rank_iff.1 ⟨hit, hhit, rfl⟩
  obtain ⟨document, score, hmem, hscore⟩ := Store.exists_score_of_search ha.searched hraw
  obtain ⟨hselected, hscope⟩ := Query.SearchSettings.selects_of_score hlegible hscore
  exact ⟨(raw.id, document), hmem, hid, hselected, hscope⟩

namespace World

theorem runs_found (w : World) (tokens : List Query.Token) (target : Option CollectionKey)
    (scope : Option (List ElementId)) : ∃ t w', (Operation.search tokens target scope).Runs .none w t
      (w.found tokens target scope) w' :=
  ⟨_, _, Operation.runs_rehearse_nil _ w⟩

theorem found_eq (htarget : target.or w.service.defaultCollection = some key) :
    let request := w.service.searchSettings.request (w.service.aliasName key) tokens scope
    w.found tokens target scope = Operation.ranked (w.memory.search request.index request.body) := by
  obtain ⟨t, w', hsaid, hl⟩ := runs_found w tokens target scope
  obtain ⟨o, hd, hr⟩ := hsaid.search htarget
  obtain ⟨s₁, t₁, -, ha, -⟩ := hl.first hd
  rw [hr, ha.of_none.1]
  rfl

/-- A search finds nothing or ranks what the engine has found. -/
theorem exists_reply {hits : List RankedHit} (hhooks : w.service.hooks = [])
    (htarget : target.or w.service.defaultCollection = some key)
    (h : w.found tokens target scope = .ok hits) :
    hits = [] ∨ w.memory.rejectSearches = false ∧
      ∃ reply, w.memory.store.search (w.service.aliasName key) (w.service.searchSettings.plainRequest
          (w.service.aliasName key) tokens scope).body = .ok reply ∧ hits = Query.rank reply.hits := by
  rw [found_eq htarget, Service.request_of_no_hooks hhooks, Memory.search] at h
  refine (Operation.ranked_eq_ok h).imp_right ?_
  rintro ⟨reply, hreply, rfl⟩
  split at hreply
  · cases hreply
  · rename_i hsearches
    exact ⟨by simpa using hsearches, reply, hreply, rfl⟩

/-- A search never finds more than its window takes. -/
theorem length_found_le {hits : List RankedHit} (hhooks : w.service.hooks = [])
    (htarget : target.or w.service.defaultCollection = some key)
    (h : w.found tokens target scope = .ok hits) :
    hits.length ≤ w.service.config.maxResultWindow.toNat := by
  obtain rfl | ⟨-, reply, hreply, rfl⟩ := exists_reply hhooks htarget h
  · exact Nat.zero_le _
  · obtain ⟨found, -, hhits⟩ := Store.search_eq_ok hreply
    have hranked : (Query.rank reply.hits).length ≤ reply.hits.length := Query.length_rank_le _
    have htaken : reply.hits.length ≤ w.service.config.maxResultWindow.toNat := by
      rw [hhits, Service.size_plainRequest]
      exact List.length_take_le ..
    omega

/-- A readable query finds the elements of all documents that it selects, each once, where the documents
of the collection fit into one search. -/
theorem exists_found {clauses : List Clause} (hhooks : w.service.hooks = [])
    (htarget : target.or w.service.defaultCollection = some key)
    (hlegible : ∀ term ∈ writtenTerms tokens, term.Legible w.service.fieldNames)
    (hread : Clause.readAll (Query.queryString w.service.fieldNames tokens) = .ok clauses)
    (hsearches : w.memory.rejectSearches = false)
    (hthere : ∃ i, w.memory.store.Reads (w.service.aliasName key) i)
    (hfits : (w.documents key).length ≤ w.service.config.maxResultWindow.toNat) :
    ∃ hits, w.found tokens target scope = .ok hits ∧ (hits.map (·.id)).Nodup ∧
      ∀ element, element ∈ hits.map (·.id) ↔ ∃ document, w.Selects key tokens scope element document := by
  obtain ⟨i, targets, htargets, -⟩ := hthere
  let request := w.service.searchSettings.plainRequest (w.service.aliasName key) tokens scope
  obtain ⟨reply, hreply⟩ := Store.exists_search request.body htargets fun d hd => by
    obtain ⟨score, hscore, -⟩ := Query.SearchSettings.score_plainRequest w.service.searchSettings
      (w.service.aliasName key) scope d.1 d.2 hread
    exact ⟨score, hscore⟩
  have hfound : w.found tokens target scope = .ok (Query.rank reply.hits) := by
    rw [found_eq htarget, Service.request_of_no_hooks hhooks, Memory.search, if_neg (by simp [hsearches])]
    exact congrArg Operation.ranked hreply
  refine ⟨_, hfound, Query.nodup_rank _, fun element => ?_⟩
  rw [List.mem_map]
  constructor
  · rintro ⟨hit, hhit, rfl⟩
    obtain ⟨t, w', hrun⟩ := runs_found w tokens target scope
    rw [hfound] at hrun
    exact hrun.exists_selected hhooks htarget hlegible hhit
  · rintro ⟨⟨id, document⟩, hmem, hid, hselected, hscope⟩
    obtain ⟨score, hscore⟩ := Query.SearchSettings.exists_score_of_selects w.service.searchSettings
      (w.service.aliasName key) hlegible hread hselected hscope
    have hsize := w.service.size_plainRequest (w.service.aliasName key) tokens scope
    obtain ⟨raw, hraw, rfl⟩ := Store.exists_hit_of_search hreply (hsize ▸ hfits) hmem hscore
    exact Query.mem_rank_iff.2 ⟨raw, hraw, hid⟩

end World

/-! ## The collection of the examples -/

/-- A document with a title. -/
def Document.titled (id : ElementId) (title : String) : Document :=
  ⟨id, .ofList [("craft_attribute_title", title)]⟩

/-- A collection of two cars. -/
def World.shelf : World :=
  ((World.empty .plain).rehearse
    [ (.upsert (.titled 1 "red car") .english, []), (.upsert (.titled 2 "blue car") .english, []) ]).2

/-- The documents of the two cars. -/
def World.cars : NameMap Json :=
  .ofList [("1", (Document.titled 1 "red car").toJson), ("2", (Document.titled 2 "blue car").toJson)]

namespace World

theorem backs_shelf :
    shelf.memory.store.Backs (shelf.service.aliasName .english) "craftcms_en_1700000000" false cars where
  unnamed := by decide +kernel
  carriers_eq := by decide +kernel
  holds := by
    have hget : (shelf.memory.store.get? "craftcms_en_1700000000").map
        (fun held => (held.writeBlocked, held.documents)) = some (false, cars) := by decide +kernel
    obtain ⟨held, hheld, heq⟩ := Option.map_eq_some_iff.1 hget
    obtain ⟨hopen, hdocuments⟩ := Prod.mk.inj heq
    exact ⟨held, hheld, hopen, hdocuments⟩

theorem wordIds_cars : WordIds cars := by
  intro id hid
  have hids : cars.names = [Text.writeWord 1, Text.writeWord 2] := by decide +kernel
  rw [← NameMap.mem_names, hids] at hid
  simp only [List.mem_cons, List.not_mem_nil, or_false] at hid
  rcases hid with rfl | rfl
  · exact ⟨1, rfl⟩
  · exact ⟨2, rfl⟩

end World

end SiteSearch
