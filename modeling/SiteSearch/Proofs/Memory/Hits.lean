import SiteSearch.Proofs.Memory.Bodies
import SiteSearch.Proofs.Memory.Reading
import SiteSearch.Proofs.Query.Matching
import SiteSearch.Query.Request

/-!
# What a search hits

A search looks at the documents that readers reach (`Store.documents`) and answers with the best of
those that meet its condition. As long as there are no more documents than it may answer with, it
answers with all that do (`Store.exists_hit_of_search`).

The condition that a service asks for is a query string, limited to some ids or not. A document meets it
where the clauses of the query admit it and its id is among those asked for
(`Query.SearchSettings.score_condition`).
-/

namespace SiteSearch

namespace Store

variable {store : Store} {a id : String} {body document : Json} {reply : SearchReply}
variable {spec : SearchSpec} {score : Binary64}

theorem hitOf_eq_ok {hit : SearchHit} (h : hitOf spec (id, document) = .ok (some hit)) :
    hit.id = id ∧ ∃ score, spec.condition.score id document = .ok (some score) := by
  obtain ⟨found, hfound, h⟩ := bind_eq_ok.1 h
  cases found with
  | none => cases Except.ok.inj h
  | some score =>
    obtain rfl := Option.some.inj (Except.ok.inj h)
    exact ⟨rfl, score, hfound⟩

theorem hitOf_of_score (h : spec.condition.score id document = .ok (some score)) :
    ∃ hit, hitOf spec (id, document) = .ok (some hit) ∧ hit.id = id := by
  refine ⟨⟨id, some score, if spec.withSource then some document else none⟩, ?_, rfl⟩
  simp only [hitOf, h]
  rfl

/-- The hits of a search are what it makes of the documents that readers reach, best first and no more
than it asks for. -/
theorem search_eq_ok (h : store.search a body = .ok reply) :
    ∃ found, (store.documents a).mapM (hitOf (.ofBody body)) = .ok found ∧
      reply.hits = ((found.filterMap fun hit => hit).mergeSort
        fun a b => !(hitScore a).lt (hitScore b)).take (SearchSpec.ofBody body).size := by
  obtain ⟨targets, htargets, h⟩ := bind_eq_ok.1 h
  obtain ⟨found, hfound, h⟩ := bind_eq_ok.1 h
  obtain rfl := Except.ok.inj h
  refine ⟨found, ?_, rfl⟩
  rw [documents, htargets]
  exact hfound

/-- A hit is a document that meets the condition. -/
theorem exists_score_of_search {hit : SearchHit} (h : store.search a body = .ok reply)
    (hhit : hit ∈ reply.hits) :
    ∃ document score, (hit.id, document) ∈ store.documents a ∧
      (SearchSpec.ofBody body).condition.score hit.id document = .ok (some score) := by
  obtain ⟨found, hfound, hhits⟩ := search_eq_ok h
  rw [hhits] at hhit
  obtain ⟨_, hmem, rfl⟩ := List.mem_filterMap.1 (List.mem_mergeSort.1 (List.mem_of_mem_take hhit))
  obtain ⟨⟨id, document⟩, hdocument, heq⟩ := exists_of_mapM_eq_ok hfound _ hmem
  obtain ⟨rfl, score, hscore⟩ := hitOf_eq_ok heq
  exact ⟨document, score, hdocument, hscore⟩

/-- Where a search may answer with all documents, each one that meets the condition is a hit. -/
theorem exists_hit_of_search (h : store.search a body = .ok reply)
    (hsize : (store.documents a).length ≤ (SearchSpec.ofBody body).size)
    (hdocument : (id, document) ∈ store.documents a)
    (hscore : (SearchSpec.ofBody body).condition.score id document = .ok (some score)) :
    ∃ hit ∈ reply.hits, hit.id = id := by
  obtain ⟨found, hfound, hhits⟩ := search_eq_ok h
  obtain ⟨hit, hmade, hid⟩ := hitOf_of_score hscore
  have hlength : (found.filterMap fun hit => hit).length ≤ (SearchSpec.ofBody body).size := by
    have hsame : found.length = (store.documents a).length := by
      simpa using (congrArg List.length (mapM_eq_ok_iff.1 hfound)).symm
    have hfewer : (found.filterMap fun hit => hit).length ≤ found.length := List.length_filterMap_le ..
    omega
  have hmem : some hit ∈ found := by
    have hok : .ok (some hit) ∈ found.map (Except.ok (ε := EngineError)) := by
      rw [← mapM_eq_ok_iff.1 hfound, ← hmade]
      exact List.mem_map_of_mem hdocument
    simpa using hok
  refine ⟨hit, ?_, hid⟩
  rw [hhits, List.take_of_length_le (by rwa [List.length_mergeSort]), List.mem_mergeSort,
    List.mem_filterMap]
  exact ⟨some hit, hmem, rfl⟩

/-- A search is answered where its condition can be read on every document. -/
theorem exists_search {targets : List String} (body : Json)
    (htargets : store.readTargets a = .ok targets)
    (h : ∀ d ∈ store.documents a, ∃ score, (SearchSpec.ofBody body).condition.score d.1 d.2 = .ok score) :
    ∃ reply, store.search a body = .ok reply := by
  obtain ⟨found, hfound⟩ : ∃ found, (store.documents a).mapM (hitOf (.ofBody body)) = .ok found := by
    refine exists_mapM_eq_ok fun d hd => ?_
    obtain ⟨score, hscore⟩ := h d hd
    simp only [hitOf, hscore]
    cases score <;> exact ⟨_, rfl⟩
  rw [documents, htargets] at hfound
  simp only [search, htargets, bind, Except.bind, hfound]
  exact ⟨_, rfl⟩

end Store

/-! ## The condition that a service asks for -/

namespace Condition

theorem under_eq {name : String} : ∀ {fields : List (String × Json)},
    under name fields = ((valueAt? name fields).map ofList).getD []
  | [] => rfl
  | (other, value) :: rest => by
    rw [under, valueAt?]
    split
    · rfl
    · exact under_eq

/-- The conditions of a combination stand under their names. -/
theorem ofCombined_ofFields {fields : List (String × Json)} :
    ofCombined (.ofFields fields) = .combined
      ((((NameMap.ofList fields).get? "must").map ofList).getD [])
      ((((NameMap.ofList fields).get? "filter").map ofList).getD [])
      ((((NameMap.ofList fields).get? "must_not").map ofList).getD []) := by
  rw [Json.ofFields, ofCombined, under_eq, under_eq, under_eq]
  rfl

theorem ofList_queryString {spec : Json} {query : String}
    (hquery : spec.field? "query" = some (.string query)) :
    ofList (.ofFields [("query_string", spec)]) = [.queryString query
      (((asList (spec.field? "fields")).filterMap Json.string?).map weightOf)] := by
  show [ofFields [("query_string", spec)]] = _
  rw [ofFields, if_neg (by decide), simple, if_neg (by decide), if_neg (by decide), if_pos rfl, hquery]
  rfl

end Condition

namespace Query.SearchSettings

variable {settings : SearchSettings} {index : String} {tokens : List Token}
variable {scope : Option (List ElementId)}

/-- The ids that a search is limited to, if it is. -/
def limits : Option (List ElementId) → List Condition
  | none => []
  | some ids => [.ids (ids.map Json.word)]

/-- What the engine reads from the requests for a query, whatever they are limited to. -/
theorem exists_weights (settings : SearchSettings) (tokens : List Token) :
    ∃ weights, ∀ index scope,
      (Store.SearchSpec.ofBody (settings.plainRequest index tokens scope).body).condition =
        .combined [.queryString (queryString settings.names tokens) weights] (limits scope) [] := by
  obtain ⟨weights, hquery⟩ : ∃ weights, Condition.ofList (.ofFields [("query_string", .ofFields
      [("fields", .strings (searchedFields settings.names settings.boosts)),
        ("query", .string (queryString settings.names tokens))])]) =
      [.queryString (queryString settings.names tokens) weights] :=
    ⟨_, Condition.ofList_queryString
      (by simp [Json.field?_ofFields, NameMap.ofList, NameMap.get?_insert])⟩
  refine ⟨weights, fun index scope => ?_⟩
  have hcondition : (settings.plainRequest index tokens scope).body.field? "query" =
      some (.ofFields [("bool", boolQuery (searchedFields settings.names settings.boosts)
        (queryString settings.names tokens) scope)]) := by
    simp [plainRequest, Json.field?_ofFields, NameMap.ofList, NameMap.get?_insert]
  rw [Store.SearchSpec.ofBody, hcondition]
  show Condition.ofFields [("bool", _)] = _
  rw [Condition.ofFields, if_pos rfl]
  cases scope with
  | none =>
    rw [boolQuery, Condition.ofCombined_ofFields]
    simp [NameMap.ofList, NameMap.get?_insert, hquery, limits]
  | some ids =>
    have hids : (Json.ofFields [("values", .array (ids.map Json.word))]).field? "values" =
        some (.array (ids.map Json.word)) := by
      simp [Json.field?_ofFields, NameMap.ofList, NameMap.get?_insert]
    have hlimits : Condition.ofList (scopeFilter ids) = limits (some ids) := by
      show [Condition.ofFields [("ids", _)]] = _
      rw [Condition.ofFields, if_neg (by decide), Condition.simple, if_neg (by decide), if_pos rfl, hids]
      rfl
    rw [boolQuery, Condition.ofCombined_ofFields]
    simp [NameMap.ofList, NameMap.get?_insert, hquery, hlimits]

/-- What the engine reads from a request. -/
theorem condition_plainRequest :
    ∃ weights, (Store.SearchSpec.ofBody (settings.plainRequest index tokens scope).body).condition =
      .combined [.queryString (queryString settings.names tokens) weights] (limits scope) [] :=
  (exists_weights settings tokens).imp fun _ h => h index scope

theorem size_plainRequest (h : settings.maxWindow < UInt64.size) :
    (Store.SearchSpec.ofBody (settings.plainRequest index tokens scope).body).size =
      settings.maxWindow := by
  have hsize : (settings.plainRequest index tokens scope).body.field? "size" =
      some (.nat settings.maxWindow) := by
    simp [plainRequest, Json.field?_ofFields, NameMap.ofList, NameMap.get?_insert]
  rw [Store.SearchSpec.ofBody, hsize]
  simp [Json.nat, Json.word?]
  omega

/-- The ids that a search is limited to have that of a document. -/
def InScope (scope : Option (List ElementId)) (id : String) : Prop :=
  ∀ ids, scope = some ids → id ∈ ids.map Text.writeWord

theorem meetsAll_limits (scope : Option (List ElementId)) (id : String) (document : Json) :
    ∃ meets, Condition.meetsAll id document (limits scope) = .ok meets ∧
      (meets = true ↔ InScope scope id) := by
  cases scope with
  | none => exact ⟨true, by simp [limits, Condition.meetsAll, InScope]⟩
  | some ids =>
    have hany : (ids.map Json.word).any (Condition.namesDocument id) = true ↔
        InScope (some ids) id := by
      have hword : ∀ w : ElementId, Condition.namesDocument id (.word w) = true ↔ Text.writeWord w = id :=
        fun w => decide_eq_true_iff
      simp [InScope, hword]
    refine ⟨_, ?_, hany⟩
    rw [limits, Condition.meetsAll, Condition.score]
    cases (ids.map Json.word).any (Condition.namesDocument id) <;> rfl

/-- A query that can be read has a score on every document, and a document meets it where the clauses
admit it and it is among those that the search is limited to. -/
theorem score_plainRequest {clauses : List Clause} (settings : SearchSettings) (index : String)
    (scope : Option (List ElementId)) (id : String) (document : Json)
    (h : Clause.readAll (queryString settings.names tokens) = .ok clauses) :
    ∃ score, (Store.SearchSpec.ofBody (settings.plainRequest index tokens scope).body).condition.score
        id document = .ok score ∧
      (score.isSome = true ↔ Clause.Admit document clauses ∧ InScope scope id) := by
  obtain ⟨weights, hcondition⟩ : ∃ weights, (Store.SearchSpec.ofBody
      (settings.plainRequest index tokens scope).body).condition = _ := condition_plainRequest
  obtain ⟨meets, hmeets, hscope⟩ := meetsAll_limits scope id document
  have hclauses : (Condition.scoreClauses weights document clauses).isSome = true ↔
      Clause.Admit document clauses := Condition.isSome_scoreClauses
  rw [hcondition, ← hclauses, ← hscope]
  cases hscore : Condition.scoreClauses weights document clauses with
  | none =>
    refine ⟨none, ?_, by simp⟩
    simp [Condition.score, Condition.sumScores, h, hscore, bind, Except.bind]
  | some total =>
    cases meets with
    | false =>
      refine ⟨none, ?_, by simp⟩
      simp [Condition.score, Condition.sumScores, h, hscore, hmeets, bind, Except.bind]
    | true =>
      refine ⟨some (Binary64.zero.add total), ?_, by simp⟩
      simp [Condition.score, Condition.sumScores, h, hscore, hmeets, Condition.meetsAny, bind,
        Except.bind]

/-- Where a document has a score or none, the query was read. -/
theorem exists_clauses_of_score {id : String} {document : Json} {score : Option Binary64}
    (h : (Store.SearchSpec.ofBody (settings.plainRequest index tokens scope).body).condition.score
      id document = .ok score) :
    ∃ clauses, Clause.readAll (queryString settings.names tokens) = .ok clauses := by
  obtain ⟨weights, hcondition⟩ : ∃ weights, (Store.SearchSpec.ofBody
      (settings.plainRequest index tokens scope).body).condition = _ := condition_plainRequest
  rw [hcondition] at h
  cases hread : Clause.readAll (queryString settings.names tokens) with
  | ok clauses => exact ⟨clauses, rfl⟩
  | error e => simp [Condition.score, Condition.sumScores, hread, bind, Except.bind] at h

/-- A document with a score is one that the query selects. -/
theorem selects_of_score {id : String} {document : Json} {score : Binary64}
    (hlegible : ∀ term ∈ writtenTerms tokens, term.Legible settings.names)
    (h : (Store.SearchSpec.ofBody (settings.plainRequest index tokens scope).body).condition.score
      id document = .ok (some score)) :
    Selects settings.names document (writtenTerms tokens) ∧ InScope scope id := by
  obtain ⟨clauses, hread⟩ := exists_clauses_of_score h
  obtain ⟨found, hfound, hiff⟩ := score_plainRequest settings index scope id document hread
  rw [h] at hfound
  obtain rfl := Except.ok.inj hfound
  rw [((readAll_queryString_iff hlegible).1 hread).2, admit_clauses_iff hlegible] at hiff
  exact hiff.1 rfl

/-- A document that a readable query selects has a score. -/
theorem exists_score_of_selects {id : String} {document : Json} {clauses : List Clause}
    (settings : SearchSettings) (index : String)
    (hlegible : ∀ term ∈ writtenTerms tokens, term.Legible settings.names)
    (hread : Clause.readAll (queryString settings.names tokens) = .ok clauses)
    (hselects : Selects settings.names document (writtenTerms tokens)) (hscope : InScope scope id) :
    ∃ score, (Store.SearchSpec.ofBody (settings.plainRequest index tokens scope).body).condition.score
      id document = .ok (some score) := by
  obtain ⟨found, hfound, hiff⟩ :=
      score_plainRequest settings index scope id document hread
  rw [((readAll_queryString_iff hlegible).1 hread).2, admit_clauses_iff hlegible] at hiff
  obtain ⟨score, rfl⟩ := Option.isSome_iff_exists.1 (hiff.2 ⟨hselects, hscope⟩)
  exact ⟨score, hfound⟩

end Query.SearchSettings

end SiteSearch
