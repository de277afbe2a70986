import SiteSearch.Proofs.Collection.Batch
import SiteSearch.Proofs.Document.Deleting
import SiteSearch.Proofs.Migration.Content
import SiteSearch.Service.Administration

/-!
# Sweeping documents whose element is gone

A sweep lists the ids of a collection, leaves out those that the content store knows, and deletes what is
left. Whatever calls fail, it spares every document under the id of an element that is there, and every
index that is not reached under the alias (`Store.Spares`).

Where one open index backs the alias and the listing can hold all of its documents
(`World.Listable`), exactly the documents of elements that are there stay behind it
(`Operation.siteDeleteOrphanedDocuments_exact`).
-/

namespace SiteSearch

variable {key : CollectionKey} {live ids : List ElementId}

theorem Text.mem_map_writeWord {w : UInt64} : writeWord w ∈ live.map writeWord ↔ w ∈ live := by
  simp [writeWord_inj]

/-- Some deletions take away the documents under their ids, and no others. -/
theorem get?_replay_deletions {name : String} : ∀ {ids : List ElementId} {documents : NameMap Json},
    (replay (ids.map fun id => .delete (Text.writeWord id)) documents).get? name =
      if name ∈ ids.map Text.writeWord then none else documents.get? name
  | [], _ => rfl
  | id :: ids, documents => by
    show (replay (ids.map _) (documents.erase (Text.writeWord id))).get? name = _
    rw [get?_replay_deletions, NameMap.get?_erase, List.map_cons]
    by_cases hrest : name ∈ ids.map Text.writeWord
    · rw [if_pos hrest, if_pos (List.mem_cons_of_mem _ hrest)]
    · by_cases hid : Text.writeWord id = name
      · rw [if_neg hrest, if_pos hid, if_pos (by simp [hid])]
      · rw [if_neg hrest, if_neg hid, if_neg (by simp [Ne.symm hid, hrest])]

/-! ## What is spared -/

namespace Store

variable {store store' : Store} {a : String}

/-- Of the indexes that are reached under an alias, some documents are gone, but none of an element that
is there; other indexes are as they were. -/
structure Spares (store : Store) (aliasName : String) (live : List ElementId) (store' : Store) :
    Prop where
  aliases : store.SameAliases store'
  unreached : ∀ i, ¬ store.Reads aliasName i → store'.get? i = store.get? i
  documents : ∀ i id, store'.document? i id = store.document? i id ∨
    store'.document? i id = none ∧ id ∉ live.map Text.writeWord

theorem Spares.refl : store.Spares a live store := ⟨.refl, fun _ _ => rfl, fun _ _ => .inl rfl⟩

/-- A request for deletions spares what it does not ask for. -/
theorem Spares.bulk (h : store.Spares a live store') (hids : ∀ id ∈ ids, id ∉ live) :
    store.Spares a live (store'.bulk (Operation.deletions a ids)).1 := by
  cases hopen : store'.openForWriting a with
  | error e =>
    rw [(bulk_of_closed hopen Operation.target_deletions).1]
    exact h
  | ok reached =>
    obtain ⟨i, held⟩ := reached
    obtain ⟨htarget, hget, -⟩ := openForWriting_eq_ok.1 hopen
    have hreads : store.Reads a i := h.aliases.reads_iff.1 (reads_of_writeTarget htarget)
    rw [(bulk_of_open hopen Operation.target_deletions).1, Operation.write_deletions]
    refine ⟨h.aliases.trans (sameAliases_insert hget rfl), fun j hj => ?_, fun j id => ?_⟩
    · have hne : j ≠ i := fun heq => hj (heq ▸ hreads)
      exact (NameMap.get?_insert_ne hne).trans (h.unreached j hj)
    · rw [document?_written, get?_replay_deletions]
      split
      · rename_i heq
        obtain rfl := heq
        split
        · rename_i hgone
          refine .inr ⟨rfl, fun hlive => ?_⟩
          obtain ⟨word, hword, rfl⟩ := List.mem_map.1 hgone
          exact hids word hword (Text.mem_map_writeWord.1 hlive)
        · have hdocument : held.documents.get? id = store'.document? i id := by
            rw [document?, hget, Option.bind_some]
          rw [hdocument]
          exact h.documents i id
      · exact h.documents j id

end Store

/-- A call of a sweep: a search, or deletions of documents without an element. -/
inductive EngineCall.Sweeps (aliasName : String) (live : List ElementId) : EngineCall → Prop where
  | search (body : Json) : Sweeps aliasName live (.search aliasName body)
  | bulk {ids : List ElementId} (h : ∀ id ∈ ids, id ∉ live) :
    Sweeps aliasName live (.bulk (Operation.deletions aliasName ids))

/-- No call of a sweep takes away a document of an element that is there. -/
theorem Store.Spares.after {store store' : Store} {a : String} {c : EngineCall}
    (h : store.Spares a live store') (hc : c.Sweeps a live) : store.Spares a live (store'.after c) := by
  cases hc with
  | search => exact h
  | bulk hids => exact h.bulk hids

namespace Operation

variable {content : ContentStore} {elements : List Element}

theorem keeps_listAllIds {base : Service} {P : EngineCall → Prop}
    (hsearch : P (.search (base.aliasName key) (allIdsBody base.config.maxResultWindow))) :
    Keeps base P (listAllIds key) fun _ => True := by
  refine keeps_bind keeps_get fun service hlike => ?_
  rw [hlike.config]
  refine keeps_bind keeps_aliasOf ?_
  rintro _ rfl
  exact keeps_bind (keeps_ask hsearch) fun _ _ => keeps_pure .intro

/-- A sweep deletes only what the content store does not know. -/
theorem keeps_deleteOrphanedDocuments {base : Service} (h : content.elements key none = .ok elements) :
    Keeps base (EngineCall.Sweeps (base.aliasName key) (elements.map (·.id)))
      (deleteOrphanedDocuments content key) fun _ => True := by
  unfold deleteOrphanedDocuments
  rw [h]
  have hlist : Keeps base (EngineCall.Sweeps (base.aliasName key) (elements.map (·.id)))
      (listAllIds key) fun _ => True := keeps_listAllIds (.search _)
  refine keeps_bind (keeps_pure rfl) ?_
  rintro _ rfl
  refine keeps_bind hlist fun ids _ => keeps_bulkDelete (.bulk fun id hid => ?_)
  simpa using (List.mem_filter.1 hid).2

/-- A batch over one collection runs as its operation does, apart from what is told about it. -/
theorem Runs.forEachSite_one {α : Type} {name : String} {op : CollectionKey → Operation α}
    {faults : Faults} {w w' : World} {t : List (Turn Memory)}
    {r : Except ServiceError (List (SiteOutcome α))}
    (h : (forEachSite name op [key]).Runs faults w t r w') :
    ∃ result w₁, (op key).Runs faults w t result w₁ ∧ r = .ok [⟨key, result⟩] ∧
      w'.memory = w₁.memory ∧ w₁.service.Like w'.service := by
  obtain ⟨result, w₁, t₁, t₂, rfl, hop, hend⟩ := runs_outcome_bind h
  have hsaid := hend.1
  rw [says_record_bind] at hsaid
  obtain ⟨e, hrest, -⟩ | ⟨rest, service₁, d₁, d₂, hd, hrest, hpure⟩ := says_bind.1 hsaid
  · cases (says_pure.1 hrest).2.1
  obtain ⟨rfl, hnil, rfl⟩ := says_pure.1 hrest
  obtain rfl := Except.ok.inj hnil
  obtain ⟨rfl, rfl, hservice⟩ := says_pure.1 hpure
  obtain ⟨rfl, hmemory⟩ := hend.2.none hd
  rw [List.append_nil]
  exact ⟨result, w₁, hop, rfl, hmemory, hservice ▸ ⟨_, _, rfl⟩⟩

end Operation

/-! ## What is listed -/

namespace Store

variable {store : Store} {a i : String} {blocked : Bool} {documents : NameMap Json}

/-- The search for all ids asks for every document, and for as many as the window holds. -/
theorem ofBody_allIdsBody (maxWindow : UInt64) :
    (SearchSpec.ofBody (allIdsBody maxWindow)).condition = .all ∧
      (SearchSpec.ofBody (allIdsBody maxWindow)).size = maxWindow.toNat := by
  have hquery : (allIdsBody maxWindow).field? "query" =
      some (.ofFields [("match_all", .ofFields [])]) := by
    simp [allIdsBody, Json.field?_ofFields, NameMap.ofList, NameMap.get?_insert]
  have hsize : (allIdsBody maxWindow).field? "size" = some (.word maxWindow) := by
    simp [allIdsBody, Json.field?_ofFields, NameMap.ofList, NameMap.get?_insert]
  rw [SearchSpec.ofBody, hquery, hsize]
  refine ⟨?_, ?_⟩
  · rfl
  · simp [Json.word, Json.nat, Json.word?]

/-- Where the window holds them all, the documents behind an alias are listed, each once. -/
theorem Backs.exists_listing {maxWindow : UInt64} (h : store.Backs a i blocked documents)
    (hsize : documents.size ≤ maxWindow.toNat) :
    ∃ reply, store.search a (allIdsBody maxWindow) = .ok reply ∧
      (reply.hits.map (·.id)).Perm documents.names := by
  obtain ⟨hcondition, hlimit⟩ := ofBody_allIdsBody maxWindow
  have htargets : store.readTargets a = .ok [i] := by
    rw [readTargets, if_neg (by simp [h.unnamed]), h.carriers_eq]
  obtain ⟨reply, hreply⟩ := exists_search (allIdsBody maxWindow) htargets fun d _ => by
    rw [hcondition]
    exact ⟨_, rfl⟩
  refine ⟨reply, hreply, ?_⟩
  obtain ⟨found, hfound, hhits⟩ := search_eq_ok hreply
  rw [h.documents_eq, mapM_eq_ok_iff] at hfound
  -- every document is a hit, for it meets the condition whatever it is
  obtain ⟨hit, hid, hmade⟩ : ∃ hit : String × Json → SearchHit, (∀ d, (hit d).id = d.1) ∧
      ∀ d, hitOf (.ofBody (allIdsBody maxWindow)) d = .ok (some (hit d)) :=
    ⟨fun d => ⟨d.1, some (.ofNat 1), _⟩, fun _ => rfl, fun d => by
      simp only [hitOf, hcondition]
      rfl⟩
  have hall : found = documents.entries.map fun d => some (hit d) := by
    have hok : found.map (Except.ok (ε := EngineError)) =
        (documents.entries.map fun d => some (hit d)).map .ok := by
      rw [← hfound, List.map_map]
      exact List.map_congr_left fun d _ => hmade d
    exact List.map_injective_iff.2 (fun _ _ => Except.ok.inj) hok
  have hkept : (found.filterMap fun hit => hit) = documents.entries.map hit := by
    rw [hall, List.filterMap_map]
    exact congrFun List.filterMap_eq_map documents.entries
  have hfits : (documents.entries.map hit).length ≤ maxWindow.toNat := by
    rw [List.length_map]
    exact hsize
  rw [hhits, hkept, hlimit, List.take_of_length_le (by rwa [List.length_mergeSort])]
  have hperm := (List.mergeSort_perm (documents.entries.map hit) fun a b => !(hitScore a).lt (hitScore b)).map
    (·.id)
  rw [List.map_map] at hperm
  rwa [show (fun hit : SearchHit => hit.id) ∘ hit = Prod.fst from funext hid] at hperm

end Store

/-- Texts that are written words are read as those words. -/
theorem Text.map_writeWord_filterMap : ∀ {names : List String},
    (∀ name ∈ names, ∃ word, name = writeWord word) →
      (names.filterMap fun name => readWord? name.toList).map writeWord = names
  | [], _ => rfl
  | name :: names, h => by
    obtain ⟨word, rfl⟩ := h name List.mem_cons_self
    rw [List.filterMap_cons, readWord?_writeWord]
    exact congrArg (writeWord word :: ·)
      (map_writeWord_filterMap fun other hother => h other (List.mem_cons_of_mem _ hother))

theorem WordIds.filter {documents : NameMap Json} {p : String → Json → Bool} (h : WordIds documents) :
    WordIds (documents.filter p) := by
  intro id hid
  rw [NameMap.contains, NameMap.get?_filter] at hid
  obtain ⟨document, hdocument⟩ := Option.isSome_iff_exists.1 hid
  exact h id (NameMap.contains_eq_true.2 ⟨document, (Option.filter_eq_some_iff.1 hdocument).1⟩)

/-- One open index backs the alias of a collection, all of its documents stand under written words, and
one search is answered with as many as there are. -/
structure World.Listable (w : World) (key : CollectionKey) (index : String) (documents : NameMap Json) :
    Prop where
  backs : w.memory.store.Backs (w.service.aliasName key) index false documents
  wordIds : WordIds documents
  fits : documents.size ≤ w.service.config.maxResultWindow.toNat
  answered : w.memory.rejectSearches = false

/-- Documents of elements that are there. -/
def NameMap.ofElements (documents : NameMap Json) (live : List ElementId) : NameMap Json :=
  documents.filter fun id _ => decide (id ∈ live.map Text.writeWord)

/-- No call changes whether searches are refused. -/
theorem Leads.rejectSearches_eq {faults : Faults} {s s' : Memory} {t : List (Turn Memory)}
    (h : Leads Memory.answer faults s t s') : s'.rejectSearches = s.rejectSearches := by
  refine (h.keeps (J := fun m => m.rejectSearches = s.rejectSearches) (P := fun _ => True)
    (fun {c o m m'} _ hm ha => ?_) (fun _ _ => .intro) rfl).2
  rcases ha.after with rfl | rfl
  · exact hm
  · rw [Memory.answer_eq_count]
    exact hm

/-- Of the listed ids, those without an element are written as those of the documents without one. -/
theorem perm_orphans {names : List String} (h : (ids.map Text.writeWord).Perm names)
    (live : List ElementId) :
    ((ids.filter fun id => !live.contains id).map Text.writeWord).Perm
      (names.filter fun id => decide (id ∉ live.map Text.writeWord)) := by
  have hsame : (ids.filter fun id => !live.contains id) =
      ids.filter ((fun id => decide (id ∉ live.map Text.writeWord)) ∘ Text.writeWord) :=
    List.filter_congr fun id _ => by
      simp only [Function.comp_apply, Text.mem_map_writeWord, List.contains_eq_mem, decide_not]
  rw [hsame, ← List.filter_map]
  exact h.filter _

/-- What the deletion of the documents without an element leaves. -/
theorem replay_orphans {documents : NameMap Json} (h : (ids.map Text.writeWord).Perm documents.names)
    (live : List ElementId) :
    replay ((ids.filter fun id => !live.contains id).map fun id => .delete (Text.writeWord id)) documents =
      documents.ofElements live := by
  refine NameMap.ext_get? fun name => ?_
  have hgone : name ∈ (ids.filter fun id => !live.contains id).map Text.writeWord ↔
      documents.contains name = true ∧ name ∉ live.map Text.writeWord := by
    rw [(perm_orphans h live).mem_iff, List.mem_filter, NameMap.mem_names, decide_eq_true_iff]
  rw [get?_replay_deletions, NameMap.ofElements, NameMap.get?_filter]
  by_cases hname : name ∈ (ids.filter fun id => !live.contains id).map Text.writeWord
  · rw [if_pos hname]
    cases documents.get? name <;> simp [Option.filter, (hgone.1 hname).2]
  · rw [if_neg hname]
    cases hget : documents.get? name with
    | none => rfl
    | some document =>
      have hlive : name ∈ live.map Text.writeWord := Decidable.not_not.1 fun hdead =>
        hname (hgone.2 ⟨NameMap.contains_eq_true.2 ⟨document, hget⟩, hdead⟩)
      simp [Option.filter, hlive]

theorem World.Listable.congr {w w' : World} {index : String} {documents : NameMap Json}
    (hw : w.Listable key index documents) (hmemory : w'.memory = w.memory)
    (hlike : w.service.Like w'.service) : w'.Listable key index documents := by
  obtain ⟨service, memory⟩ := w'
  obtain rfl : memory = w.memory := hmemory
  have halias : service.aliasName key = w.service.aliasName key :=
    Service.aliasName_congr hlike.indexNames
  exact ⟨halias ▸ hw.backs, hw.wordIds, hlike.config ▸ hw.fits, hw.answered⟩

namespace Operation.Runs

variable {w w' : World} {t : List (Turn Memory)} {index : String} {documents : NameMap Json}
variable {content : ContentStore} {elements : List Element}

/-- The listing of a collection has the word of each document, once. -/
theorem listAllIds_of_listable {r : Except ServiceError (List ElementId)}
    (h : (listAllIds key).Runs .none w t r w') (hw : w.Listable key index documents) :
    ∃ ids, r = .ok ids ∧ (ids.map Text.writeWord).Perm documents.names ∧
      w'.memory.store = w.memory.store ∧ w'.memory.rejectSearches = false ∧ w'.service = w.service := by
  obtain ⟨reply, hreply, hperm⟩ := hw.backs.exists_listing hw.fits
  have hanswer : (Memory.answer (.search (w.service.aliasName key)
      (allIdsBody w.service.config.maxResultWindow)) w.memory).1 = .ok reply := by
    simp [Memory.answer, Memory.serve, Memory.search, Memory.count, hw.answered, hreply]
  have hsaid := h.1
  unfold listAllIds at hsaid
  rw [says_get_bind, says_aliasOf_bind] at hsaid
  obtain ⟨e, hd, -⟩ | ⟨answer, d', hd, hdone⟩ := says_ask_bind.1 hsaid
  · obtain ⟨s₁, t₁, -, ha, -⟩ := h.2.first hd
    cases ha.of_none.1.trans hanswer
  · obtain ⟨rfl, rfl, hservice⟩ := says_pure.1 hdone
    obtain ⟨s₁, t₁, rfl, ha, ht₁, hl⟩ := h.2.first hd
    obtain ⟨ho, rfl⟩ := ha.of_none
    obtain rfl := Except.ok.inj (ho.trans hanswer)
    rw [(hl.none ht₁).2]
    refine ⟨_, rfl, ?_, rfl, hw.answered, hservice⟩
    have hwords : ∀ name ∈ answer.hits.map (·.id), ∃ word, name = Text.writeWord word :=
      fun name hname => hw.wordIds name (NameMap.mem_names.1 (hperm.mem_iff.1 hname))
    rw [← Text.map_writeWord_filterMap hwords, List.filterMap_map] at hperm
    exact hperm

/-- A sweep leaves the documents of the elements that are there, and reports how many it has deleted. -/
theorem deleteOrphanedDocuments_of_listable {r : Except ServiceError (Option BulkReport)}
    (h : (deleteOrphanedDocuments content key).Runs .none w t r w')
    (helements : content.elements key none = .ok elements) (hw : w.Listable key index documents) :
    let orphans := documents.names.filter fun id => decide (id ∉ (elements.map (·.id)).map Text.writeWord)
    r = .ok (BulkReport.ofDeleted orphans.length) ∧
      w'.Listable key index (documents.ofElements (elements.map (·.id))) := by
  intro orphans
  have hlike := (keeps_deleteOrphanedDocuments helements .refl h.1).1
  have hanswered := h.2.rejectSearches_eq.trans hw.answered
  unfold deleteOrphanedDocuments at h
  rw [helements] at h
  obtain ⟨e, hfinish, -⟩ | ⟨found, w₀, t₀, t₁, -, hfinish, hsweep⟩ := runs_bind.1 h
  · cases (says_finish.1 hfinish.1).2.1
  obtain ⟨hfound, rfl⟩ := Runs.of_pure hfinish
  obtain rfl : found = elements := Except.ok.inj hfound
  obtain ⟨e, hlist, -⟩ | ⟨listed, w₁, t₂, t₃, -, hlist, hbulk⟩ := runs_bind.1 hsweep
  · obtain ⟨ids, hids, -⟩ := hlist.listAllIds_of_listable hw
    cases hids
  obtain ⟨ids, hids, hperm, hstore, -, hservice⟩ := hlist.listAllIds_of_listable hw
  obtain rfl := Except.ok.inj hids
  obtain ⟨held, hopen, hwritten⟩ := hw.backs.written
  rw [← hstore, ← hservice] at hopen
  obtain ⟨rfl, hstore'⟩ := hbulk.bulkDelete_of_open hopen
  have hlength : (listed.filter fun id => !(found.map (·.id)).contains id).length = orphans.length := by
    have hlength := (perm_orphans hperm (found.map (·.id))).length_eq
    rwa [List.length_map] at hlength
  refine ⟨by rw [hlength], ?_⟩
  have halias : w'.service.aliasName key = w₀.service.aliasName key :=
    Service.aliasName_congr hlike.indexNames
  refine ⟨?_, hw.wordIds.filter, ?_, hanswered⟩
  · rw [halias, hstore', hstore, ← replay_orphans hperm]
    exact hwritten _
  · rw [hlike.config]
    exact (List.length_filter_le _ _).trans hw.fits

/-- So does a sweep of one site. -/
theorem siteDeleteOrphanedDocuments_of_listable
    {r : Except ServiceError (List (SiteOutcome (Option BulkReport)))}
    (h : (siteDeleteOrphanedDocuments [key] content).Runs .none w t r w')
    (helements : content.elements key none = .ok elements) (hw : w.Listable key index documents) :
    let live := elements.map (·.id)
    let orphans := (w.documents key).filter fun d => decide (d.1 ∉ live.map Text.writeWord)
    r = .ok [⟨key, .ok (BulkReport.ofDeleted orphans.length)⟩] ∧
      w'.Listable key index (documents.ofElements live) := by
  intro live orphans
  obtain ⟨result, w₁, hsweep, rfl, hmemory, hlike⟩ := h.forEachSite_one
  obtain ⟨rfl, hw₁⟩ := hsweep.deleteOrphanedDocuments_of_listable helements hw
  refine ⟨?_, hw₁.congr hmemory hlike⟩
  have hnames : documents.names.filter (fun id =>
      decide (id ∉ (elements.map (·.id)).map Text.writeWord)) = orphans.map (·.1) := by
    rw [NameMap.names, List.filter_map, ← World.documents_of_backs hw.backs]
    rfl
  rw [hnames, List.length_map]

end Operation.Runs

namespace Operation

/-- Whatever state the engine is in and whatever calls fail, at no moment of a sweep is a document of an
element missing that the content store knows, nor is an index changed that is not reached under the alias;
and without an answer from the content store nothing is asked at all.

Where no call fails, one open index alone backs the alias, and its documents stand under written words and
fit into one listing, exactly those of elements that are there stay; the report counts the others, if there
are any, none of them as refused; and a second sweep finds nothing to do. -/
theorem siteDeleteOrphanedDocuments_exact (content : ContentStore) (key : CollectionKey) (w : World) :
    (∀ faults t r w', (siteDeleteOrphanedDocuments [key] content).Runs faults w t r w' →
      (∀ e, content.elements key none = .error e → t = []) ∧
      ∀ elements, content.elements key none = .ok elements → ∀ m, m = w'.memory ∨ (∃ u ∈ t, m = u.after) →
        w.memory.store.Spares (w.service.aliasName key) (elements.map (·.id)) m.store) ∧
    ∀ elements index documents, content.elements key none = .ok elements →
      w.Listable key index documents →
      let first := (siteDeleteOrphanedDocuments [key] content).rehearse [] w
      let second := (siteDeleteOrphanedDocuments [key] content).rehearse [] first.2.2
      let live := elements.map (·.id)
      let orphans := (w.documents key).filter fun d => decide (d.1 ∉ live.map Text.writeWord)
      first.2.1 = .ok [⟨key, .ok (BulkReport.ofDeleted orphans.length)⟩] ∧
      first.2.2.documents key =
        (w.documents key).filter (fun d => decide (d.1 ∈ live.map Text.writeWord)) ∧
      second.2.1 = .ok [⟨key, .ok none⟩] := by
  constructor
  · intro faults t r w' h
    obtain ⟨result, w₁, hsweep, -, hmemory, -⟩ := h.forEachSite_one
    constructor
    · intro e he
      have hsaid := hsweep.1
      unfold deleteOrphanedDocuments at hsaid
      rw [he] at hsaid
      exact List.map_eq_nil_iff.1 (says_throw.1 hsaid).1
    · intro elements helements m hm
      obtain ⟨-, hcalls, -⟩ := keeps_deleteOrphanedDocuments helements .refl hsweep.1
      obtain ⟨hturns, hlast⟩ := hsweep.2.keeps_store
        (J := w.memory.store.Spares (w.service.aliasName key) (elements.map (·.id)))
        (P := fun x => x.1.Sweeps (w.service.aliasName key) (elements.map (·.id)))
        (fun hx hstore => hstore.after hx) hcalls .refl
      obtain rfl | ⟨u, hu, rfl⟩ := hm
      · rw [hmemory]
        exact hlast
      · exact hturns u hu
  · intro elements index documents helements hw first second live orphans
    have hfirst : (siteDeleteOrphanedDocuments [key] content).Runs .none w first.1 first.2.1 first.2.2 :=
      runs_rehearse_nil _ w
    have hsecond : (siteDeleteOrphanedDocuments [key] content).Runs .none first.2.2 second.1 second.2.1
        second.2.2 := runs_rehearse_nil _ first.2.2
    obtain ⟨hreport, hw₁⟩ := hfirst.siteDeleteOrphanedDocuments_of_listable helements hw
    obtain ⟨hagain, -⟩ := hsecond.siteDeleteOrphanedDocuments_of_listable helements hw₁
    have hleft : first.2.2.documents key =
        (w.documents key).filter fun d => decide (d.1 ∈ live.map Text.writeWord) := by
      rw [World.documents_of_backs hw₁.backs, World.documents_of_backs hw.backs]
      rfl
    have hnone : (first.2.2.documents key).filter (fun d =>
        decide (d.1 ∉ live.map Text.writeWord)) = [] := by
      rw [hleft, List.filter_filter]
      refine List.filter_eq_nil_iff.2 fun d _ hboth => ?_
      obtain ⟨hdead, hlive⟩ := Bool.and_eq_true_iff.1 hboth
      exact of_decide_eq_true hdead (of_decide_eq_true hlive)
    rw [hnone] at hagain
    exact ⟨hreport, hleft, hagain⟩

/-- Of two cars, the one is swept that the content store does not know any more. -/
theorem siteDeleteOrphanedDocuments_exact_on_shelf :
    let content : ContentStore := ⟨fun _ _ => .ok [{ Element.entry "Red car" with id := 1 }]⟩
    let first := (siteDeleteOrphanedDocuments [.english] content).rehearse [] World.shelf
    let second := (siteDeleteOrphanedDocuments [.english] content).rehearse [] first.2.2
    World.shelf.memory.store.Spares (World.shelf.service.aliasName .english) [1] first.2.2.memory.store ∧
      first.2.1 = .ok [⟨.english, .ok (some ⟨0, 1, 0⟩)⟩] ∧
      first.2.2.documents .english = [("1", (Document.titled 1 "red car").toJson)] ∧
      second.2.1 = .ok [⟨.english, .ok none⟩] := by
  intro content first second
  have hshelf : World.shelf.documents .english = World.cars.entries :=
    World.documents_of_backs World.backs_shelf
  have hlistable : World.shelf.Listable .english "craftcms_en_1700000000" World.cars :=
    ⟨World.backs_shelf, World.wordIds_cars, by decide +kernel, by decide +kernel⟩
  have horphans : ((World.shelf.documents .english).filter fun d =>
      decide (d.1 ∉ [1].map Text.writeWord)) = [("2", (Document.titled 2 "blue car").toJson)] := by
    rw [hshelf]
    decide +kernel
  have hleft : ((World.shelf.documents .english).filter fun d =>
      decide (d.1 ∈ [1].map Text.writeWord)) = [("1", (Document.titled 1 "red car").toJson)] := by
    rw [hshelf]
    decide +kernel
  have hrun : (siteDeleteOrphanedDocuments [.english] content).Runs .none World.shelf first.1 first.2.1
      first.2.2 := runs_rehearse_nil _ _
  obtain ⟨hspared, hexact⟩ := siteDeleteOrphanedDocuments_exact content .english World.shelf
  obtain ⟨hreport, hdocuments, hagain⟩ := hexact _ _ _ rfl hlistable
  have hcount : first.2.1 = .ok [⟨.english, .ok (BulkReport.ofDeleted ((World.shelf.documents .english).filter
      fun d => decide (d.1 ∉ [1].map Text.writeWord)).length)⟩] := hreport
  rw [horphans] at hcount
  exact ⟨(hspared _ _ _ _ hrun).2 _ rfl _ (.inl rfl), hcount, hdocuments.trans hleft, hagain⟩

end Operation

end SiteSearch
