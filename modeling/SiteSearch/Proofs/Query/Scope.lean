import SiteSearch.Proofs.Query.Answering
import SiteSearch.Proofs.Query.Ranking

/-!
# A scope is a filter

To search among some elements is to search among all and to keep those elements. The condition that is
sent with a scope gives a document the score that it has without one, if its id is in the scope
(`Query.SearchSettings.hitOf_scoped`), and it cannot be read where the one without cannot. Sorting,
cutting and ranking leave it at that as long as nothing is cut off (`World.found_scoped`).
-/

namespace SiteSearch

variable {ids : List ElementId} {tokens : List Query.Token} {scope : Option (List ElementId)}

/-- Whether an id is that of one of some elements. -/
def isAmong (ids : List ElementId) (id : String) : Bool := ids.any fun word => Text.writeWord word = id

theorem isAmong_writeWord {word : ElementId} : isAmong ids (Text.writeWord word) = decide (word ∈ ids) := by
  rw [isAmong, Bool.eq_iff_iff, List.any_eq_true, decide_eq_true_iff]
  constructor
  · rintro ⟨other, hother, heq⟩
    have hread := congrArg (fun id : String => Text.readWord? id.toList) (of_decide_eq_true heq)
    simp only [Text.readWord?_writeWord, Option.some.injEq] at hread
    exact hread ▸ hother
  · exact fun hword => ⟨word, hword, decide_eq_true rfl⟩

/-! ## Searching for some of the hits -/

theorem map_eq_error {ε α β : Type} {x : Except ε α} {f : α → β} {e : ε} :
    x.map f = .error e ↔ x = .error e := by
  cases x <;> simp [Except.map]

/-- A pass over a list with a step behind it is the pass and the step for each member. -/
theorem mapM_eq_map {ε α β γ : Type} {f : α → Except ε β} {f' : α → Except ε γ} {g : β → γ} :
    ∀ {items : List α}, (∀ x ∈ items, f' x = (f x).map g) → items.mapM f' = (items.mapM f).map (List.map g)
  | [], _ => rfl
  | x :: items, h => by
    obtain ⟨hx, hrest⟩ := List.forall_mem_cons.1 h
    rw [List.mapM_cons, List.mapM_cons, hx, mapM_eq_map hrest]
    cases f x with
    | error e => rfl
    | ok b => cases items.mapM f <;> rfl

namespace Store

variable {store : Store} {a : String} {body body' : Json} {keep : SearchHit → Bool}

/-- The documents that meet the condition of a search, also those beyond its window. -/
def matching (store : Store) (a : String) (body : Json) : List (String × Json) :=
  (store.documents a).filter fun d =>
    match (SearchSpec.ofBody body).condition.score d.1 d.2 with
    | .ok (some _) => true
    | _ => false

/-- There are as many hits as documents that meet the condition. -/
theorem length_matching {found : List (Option SearchHit)}
    (h : (store.documents a).mapM (hitOf (.ofBody body)) = .ok found) :
    (store.matching a body).length = (found.filterMap fun hit => hit).length := by
  unfold matching
  rw [mapM_eq_ok_iff] at h
  generalize store.documents a = documents at h
  induction documents generalizing found with
  | nil =>
    obtain rfl := List.map_eq_nil_iff.1 h.symm
    rfl
  | cons d documents ih =>
    obtain ⟨first, rest, rfl, hfirst, hrest⟩ := List.map_eq_cons_iff.1 h.symm
    have hlater := ih hrest.symm
    obtain ⟨score, hscore, hmade⟩ := bind_eq_ok.1 hfirst.symm
    cases score with
    | none =>
      obtain rfl := Except.ok.inj hmade
      rw [List.filter_cons, hscore]
      exact hlater
    | some score =>
      obtain rfl := Except.ok.inj hmade
      rw [List.filter_cons, hscore]
      exact congrArg Nat.succ hlater

/-- Where nothing is cut off, a search for some of the hits of another one answers with those. -/
theorem search_filter
    (hhit : ∀ d, hitOf (.ofBody body') d = (hitOf (.ofBody body) d).map (Option.filter keep))
    (hsize : (SearchSpec.ofBody body').size = (SearchSpec.ofBody body).size)
    (hweights : ∀ d hit, hitOf (.ofBody body) d = .ok (some hit) → (hitScore hit).IsWeight)
    (hfits : (store.matching a body).length ≤ (SearchSpec.ofBody body).size) :
    (store.search a body').map (·.hits) = (store.search a body).map fun reply => reply.hits.filter keep := by
  unfold search
  cases htargets : store.readTargets a with
  | error e => rfl
  | ok targets =>
    have hdocuments : store.documents a =
        (store.indexesOf targets).flatMap fun index => index.documents.entries := by
      rw [documents, htargets]
    have hpass : (store.documents a).mapM (hitOf (.ofBody body')) =
        ((store.documents a).mapM (hitOf (.ofBody body))).map (List.map (Option.filter keep)) :=
      mapM_eq_map fun d _ => hhit d
    simp only [bind, Except.bind, ← hdocuments, hpass]
    cases hfound : (store.documents a).mapM (hitOf (.ofBody body)) with
    | error e => rfl
    | ok found =>
      refine congrArg Except.ok ?_
      have hall : (found.filterMap id).length ≤ (SearchSpec.ofBody body).size :=
        length_matching hfound ▸ hfits
      have hsome : (found.map (Option.filter keep)).filterMap id = (found.filterMap id).filter keep := by
        rw [List.filterMap_map, List.filter_filterMap]
        rfl
      have hscores : ∀ hit ∈ found.filterMap id, (hitScore hit).IsWeight := by
        intro hit hhit
        obtain ⟨_, hmem, rfl⟩ := List.mem_filterMap.1 hhit
        obtain ⟨d, -, hd⟩ := exists_of_mapM_eq_ok hfound _ hmem
        exact hweights d hit hd
      have hsorted : ((found.filterMap id).mergeSort fun a b => !(hitScore a).lt (hitScore b)).length ≤
          (SearchSpec.ofBody body).size := by rwa [List.length_mergeSort]
      simp only [hsome, hsize]
      rw [← filter_mergeSort_scores hscores, List.take_of_length_le hsorted,
        List.take_of_length_le (Nat.le_trans (List.length_filter_le ..) hsorted)]

end Store

namespace Query.SearchSettings

variable {settings : SearchSettings} {index : String}

/-- The score that a limited query string gives a document. -/
theorem score_limited (query : String) (weights : List FieldWeight) (scope : Option (List ElementId))
    (id : String) (document : Json) :
    (Condition.combined [.queryString query weights] (limits scope) []).score id document =
      (Clause.readAll query).map fun clauses =>
        (Condition.scoreClauses weights document clauses).bind fun total =>
          if scope.all (isAmong · id) then some (Binary64.zero.add total) else none := by
  have hlimits : Condition.meetsAll id document (limits scope) = .ok (scope.all (isAmong · id)) := by
    cases scope with
    | none => rfl
    | some ids =>
      have hany : (ids.map Json.word).any (Condition.namesDocument id) = isAmong ids id := by
        rw [List.any_map]
        rfl
      rw [limits, Condition.meetsAll, Condition.score, hany, Option.all_some]
      cases isAmong ids id <;> rfl
  rw [Condition.score, Condition.sumScores, Condition.score]
  cases Clause.readAll query with
  | error e => rfl
  | ok clauses =>
    cases hscore : Condition.scoreClauses weights document clauses with
    | none => simp [Except.map, hscore, bind, Except.bind]
    | some total =>
      cases hall : scope.all (isAmong · id) <;>
        simp [Except.map, hscore, hall, hlimits, bind, Except.bind, Condition.sumScores,
          Condition.meetsAny]

theorem withSource_plainRequest :
    (Store.SearchSpec.ofBody (settings.plainRequest index tokens scope).body).withSource = true := by
  have hfield : (settings.plainRequest index tokens scope).body.field? "stored_fields" = none := by
    simp [plainRequest, Json.field?_ofFields, NameMap.ofList, NameMap.get?_insert]
  rw [Store.SearchSpec.ofBody, hfield]
  rfl

/-- The hit that a limited query string makes of a document. -/
theorem exists_hitOf_eq (settings : SearchSettings) (tokens : List Token) :
    ∃ weights, ∀ index scope (document : String × Json),
      Store.hitOf (.ofBody (settings.plainRequest index tokens scope).body) document =
        (Clause.readAll (queryString settings.names tokens)).map fun clauses =>
          (Condition.scoreClauses weights document.2 clauses).bind fun total =>
            if scope.all (isAmong · document.1) then
              some ⟨document.1, some (Binary64.zero.add total), some document.2⟩
            else none := by
  obtain ⟨weights, hcondition⟩ := exists_weights settings tokens
  refine ⟨weights, fun index scope document => ?_⟩
  unfold Store.hitOf
  rw [hcondition, score_limited, withSource_plainRequest]
  cases Clause.readAll (queryString settings.names tokens) with
  | error e => rfl
  | ok clauses =>
    cases hscore : Condition.scoreClauses weights document.2 clauses with
    | none => simp [Except.map, hscore, bind, Except.bind]
    | some total =>
      cases scope.all (isAmong · document.1) <;> simp [Except.map, hscore, bind, Except.bind]

/-- With a scope a document is hit as it is without one, if it is in the scope. -/
theorem hitOf_scoped (document : String × Json) :
    Store.hitOf (.ofBody (settings.plainRequest index tokens (some ids)).body) document =
      (Store.hitOf (.ofBody (settings.plainRequest index tokens none).body) document).map
        (Option.filter fun hit => isAmong ids hit.id) := by
  obtain ⟨weights, heq⟩ := exists_hitOf_eq settings tokens
  rw [heq, heq]
  cases Clause.readAll (queryString settings.names tokens) with
  | error e => rfl
  | ok clauses =>
    refine congrArg Except.ok ?_
    cases hscore : Condition.scoreClauses weights document.2 clauses <;> simp [hscore, Option.filter]

/-- The score of a hit is a weight. -/
theorem isWeight_of_hitOf {document : String × Json} {hit : SearchHit}
    (h : Store.hitOf (.ofBody (settings.plainRequest index tokens scope).body) document =
      .ok (some hit)) : (Store.hitScore hit).IsWeight := by
  obtain ⟨weights, heq⟩ := exists_hitOf_eq settings tokens
  rw [heq] at h
  obtain ⟨clauses, -, h⟩ := map_eq_ok.1 h
  obtain ⟨total, htotal, h⟩ := Option.bind_eq_some_iff.1 h
  split at h
  · obtain rfl := Option.some.inj h
    exact Binary64.isWeight_zero.add (Condition.isWeight_scoreClauses htotal)
  · cases h

end Query.SearchSettings

/-! ## What a service finds -/

namespace World

variable {w : World} {key : CollectionKey} {target : Option CollectionKey}

/-- What the engine answers when a service without hooks asks it to search a collection. -/
def asked (w : World) (key : CollectionKey) (tokens : List Query.Token)
    (scope : Option (List ElementId)) : Except EngineError SearchReply :=
  let name := w.service.aliasName key
  w.memory.search name (w.service.searchSettings.plainRequest name tokens scope).body

/-- The documents of a collection that a search without a scope hits. -/
def matching (w : World) (key : CollectionKey) (tokens : List Query.Token) : List (String × Json) :=
  let name := w.service.aliasName key
  w.memory.store.matching name (w.service.searchSettings.plainRequest name tokens none).body

/-- With a scope the engine answers with the hits that are in it. -/
theorem asked_scoped (w : World) (key : CollectionKey) (tokens : List Query.Token) (ids : List ElementId)
    (hfits : (w.matching key tokens).length ≤ w.service.config.maxResultWindow.toNat) :
    (w.asked key tokens (some ids)).map (·.hits) =
      (w.asked key tokens none).map fun reply => reply.hits.filter fun hit => isAmong ids hit.id := by
  unfold asked Memory.search
  split
  · rfl
  · refine Store.search_filter Query.SearchSettings.hitOf_scoped ?_
      (fun d hit => Query.SearchSettings.isWeight_of_hitOf) ?_
    · rw [Service.size_plainRequest, Service.size_plainRequest]
    · rw [Service.size_plainRequest]
      exact hfits

/-- A hit is a document of some index, with a score that is a weight. -/
theorem hit_of_asked {reply : SearchReply} {hit : SearchHit} (h : w.asked key tokens scope = .ok reply)
    (hhit : hit ∈ reply.hits) : (Store.hitScore hit).IsWeight ∧
      ∃ i document, w.memory.store.document? i hit.id = some document := by
  unfold asked Memory.search at h
  split at h
  · cases h
  · obtain ⟨i, document, -, hdocument⟩ := Store.exists_document?_of_search h hhit
    refine ⟨?_, i, document, hdocument⟩
    obtain ⟨found, hfound, hhits⟩ := Store.search_eq_ok h
    rw [hhits] at hhit
    obtain ⟨_, hmem, rfl⟩ := List.mem_filterMap.1 (List.mem_mergeSort.1 (List.mem_of_mem_take hhit))
    obtain ⟨d, -, hd⟩ := Store.exists_of_mapM_eq_ok hfound _ hmem
    exact Query.SearchSettings.isWeight_of_hitOf hd

theorem found_eq_asked (hhooks : w.service.hooks = [])
    (htarget : target.or w.service.defaultCollection = some key) :
    w.found tokens target scope = Operation.ranked (w.asked key tokens scope) := by
  rw [found_eq htarget, Service.request_of_no_hooks hhooks]
  rfl

/-- There is nothing to search without a collection. -/
theorem found_of_no_collection (h : target.or w.service.defaultCollection = none) :
    w.found tokens target scope = .error (.configuration "no collection to search") := by
  obtain ⟨t, w', hsaid, -⟩ := runs_found w tokens target scope
  unfold Operation.search at hsaid
  rw [Operation.says_get_bind, h] at hsaid
  exact (Operation.says_throw.1 hsaid).2.1

/-- **A scope is a filter.** Where every document stands under a word in decimal and a search without a
scope has no more hits than it may answer with, a search with a scope finds what the one without finds in
the scope, in the same order and with the same scores. Each of them fails where the other one does, with
the same error, and the engine refuses the one query where it refuses the other. -/
theorem found_scoped (w : World) (tokens : List Query.Token) (target : Option CollectionKey)
    (ids : List ElementId) (hhooks : w.service.hooks = []) (hworded : w.memory.store.Worded)
    (hfits : ∀ key, target.or w.service.defaultCollection = some key →
      (w.matching key tokens).length ≤ w.service.config.maxResultWindow.toNat) :
    w.found tokens target (some ids) =
        (w.found tokens target none).map (List.filter fun hit => hit.id ∈ ids) ∧
      ∀ key, target.or w.service.defaultCollection = some key → ∀ e,
        w.asked key tokens (some ids) = .error e ↔ w.asked key tokens none = .error e := by
  cases hsearched : target.or w.service.defaultCollection with
  | none =>
    rw [found_of_no_collection hsearched, found_of_no_collection hsearched]
    exact ⟨rfl, nofun⟩
  | some key =>
    have hasked := asked_scoped w key tokens ids (hfits key hsearched)
    rw [found_eq_asked hhooks hsearched, found_eq_asked hhooks hsearched]
    cases hplain : w.asked key tokens none with
    | error e =>
      rw [hplain] at hasked
      have hscoped : w.asked key tokens (some ids) = .error e := map_eq_error.1 hasked
      rw [hscoped]
      refine ⟨?_, fun other hother e => ?_⟩
      · unfold Operation.ranked
        dsimp only
        split <;> rfl
      · obtain rfl := Option.some.inj hother
        rw [hscoped, hplain]
    | ok reply =>
      rw [hplain] at hasked
      obtain ⟨within, hscoped, hhits⟩ := map_eq_ok.1 hasked
      rw [hscoped]
      refine ⟨congrArg Except.ok ?_, fun other hother e => ?_⟩
      · rw [hhits]
        refine Query.rank_filter (p := fun id => decide (id ∈ ids))
          (fun hit hhit => (hit_of_asked hplain hhit).1) fun hit hhit id hid => ?_
        obtain ⟨i, document, hdocument⟩ := (hit_of_asked hplain hhit).2
        obtain ⟨word, hword⟩ := hworded.document? hdocument
        rw [hword, Text.readWord?_writeWord] at hid
        rw [hword, isAmong_writeWord, Option.some.inj hid]
      · obtain rfl := Option.some.inj hother
        rw [hscoped, hplain]
        exact ⟨nofun, nofun⟩

theorem found_scoped_on_shelf :
    let red : Query.Token := .term { text := "red" }
    shelf.found [red] (some .english) none = .ok [⟨1, .ofNat 1⟩] ∧
      shelf.found [red] (some .english) (some [3, 1]) = .ok [⟨1, .ofNat 1⟩] ∧
      shelf.found [red] (some .english) (some [2]) = .ok [] := by
  intro red
  have hworded : shelf.memory.store.Worded := by
    have hhistory : History .none (.empty .plain) _ _ shelf := World.history_rehearse (by simp)
    exact hhistory.worded
  have hfits : ∀ key, (some CollectionKey.english).or shelf.service.defaultCollection = some key →
      (shelf.matching key [red]).length ≤ shelf.service.config.maxResultWindow.toNat := by
    rintro _ ⟨⟩
    decide +kernel
  have hall : shelf.found [red] (some .english) none = .ok [⟨1, .ofNat 1⟩] := by decide +kernel
  refine ⟨hall, ?_, ?_⟩
  · rw [(found_scoped shelf [red] (some .english) [3, 1] rfl hworded hfits).1, hall]
    rfl
  · rw [(found_scoped shelf [red] (some .english) [2] rfl hworded hfits).1, hall]
    rfl

end World

end SiteSearch
