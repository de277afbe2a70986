import SiteSearch.Proofs.Memory.Backing
import SiteSearch.Proofs.Migration.Binding
import SiteSearch.Proofs.Service.Calls

/-!
# Collections are isolated

To a collection belong the generations under its alias and whatever else carries the alias
(`Store.Belongs`). The engine is asked for the indexes of a collection with a pattern that covers
more than these, and documents are written under the alias, wherever that leads. All the same, what
is requested for a collection leaves every index alone that does not belong to it, however calls
fail: `Request.leaves_other_collections`.

Most operations name what they change: a generation, or the alias (`EngineCall.Addresses`). A move
names the index that it has found behind the alias, so it is followed call by call.
-/

namespace SiteSearch

namespace Store

variable {start store store' : Store} {a i name : String}

/-- The index belongs to the collection with an alias: by its name, or since it carries the alias. -/
def Belongs (store : Store) (aliasName index : String) : Prop :=
  IsGeneration aliasName index ∨ store.Carries index aliasName

/-- Every index that did not belong to the collection with an alias is as it was. -/
def SparesOthers (start : Store) (aliasName : String) (store : Store) : Prop :=
  ∀ i, ¬ start.Belongs aliasName i → store.get? i = start.get? i

namespace SparesOthers

theorem refl : start.SparesOthers a start := fun _ _ => rfl

theorem insert {held : StoredIndex} (h : start.SparesOthers a store) (hname : start.Belongs a name) :
    start.SparesOthers a (store.insert name held) := by
  intro i hi
  have hne : i ≠ name := by
    rintro rfl
    exact hi hname
  rw [NameMap.get?_insert_ne hne, h i hi]

theorem erase (h : start.SparesOthers a store) (hname : start.Belongs a name) :
    start.SparesOthers a (store.erase name) := by
  intro i hi
  have hne : name ≠ i := by
    rintro rfl
    exact hi hname
  rw [NameMap.get?_erase, if_neg hne, h i hi]

theorem modifyAll {f : StoredIndex → StoredIndex} :
    ∀ {names : List String} {store : Store}, start.SparesOthers a store →
      (∀ name ∈ names, start.Belongs a name) → start.SparesOthers a (store.modifyAll names f)
  | [], _, h, _ => h
  | name :: names, store, h, hnames => by
    have hfirst : start.SparesOthers a (store.modify name f) := by
      intro i hi
      have hne : name ≠ i := by
        rintro rfl
        exact hi (hnames name List.mem_cons_self)
      rw [NameMap.get?_modify, if_neg hne, h i hi]
    exact hfirst.modifyAll fun other hother => hnames other (List.mem_cons_of_mem _ hother)

/-- What carries the alias now belonged to the collection. -/
theorem belongs (h : start.SparesOthers a store) (hi : store.Carries i a) : start.Belongs a i := by
  by_contra hnot
  obtain ⟨held, hget, hheld⟩ := hi
  exact hnot (.inr ⟨held, (h i hnot).symm.trans hget, hheld⟩)

/-- As long as no index had the name of the alias, none has it now. -/
theorem unnamed (h : start.SparesOthers a store) (ha : start.contains a = false) :
    store.contains a = false := by
  have hnot : ¬ start.Belongs a a := by
    rintro (hname | hcarries)
    · exact not_isGeneration_self hname
    · rw [hcarries.contains] at ha
      cases ha
  rw [NameMap.contains_eq_false, h a hnot]
  exact NameMap.contains_eq_false.1 ha

theorem belongs_of_open {held : StoredIndex} (h : start.SparesOthers a store)
    (ha : start.contains a = false) (hopen : store.openForWriting a = .ok (i, held)) :
    start.Belongs a i :=
  h.belongs (carries_of_writeTarget (h.unnamed ha) (openForWriting_eq_ok.1 hopen).1).1

theorem belongs_of_read {targets : List String} (h : start.SparesOthers a store)
    (ha : start.contains a = false) (hread : store.readTargets a = .ok targets) :
    ∀ i ∈ targets, start.Belongs a i := by
  have hcarriers : store.carriers a = targets := by
    rw [readTargets, if_neg (by simp [h.unnamed ha])] at hread
    split at hread
    · cases hread
    · exact Except.ok.inj hread
  intro i hi
  rw [← hcarriers] at hi
  exact h.belongs (mem_carriers.1 hi)

end SparesOthers

end Store

/-! ## Calls that name what they change -/

/-- A call for the collection with an alias that names what it changes: a generation under the alias, or
the alias itself. -/
def EngineCall.Addresses (a : String) : EngineCall → Prop
  | createIndex name _ | deleteIndex name | putAlias name _ | deleteAlias name _ => IsGeneration a name
  | putMapping name _ | indexDocument name _ _ | deleteDocument name _ => name = a
  | bulk operations => ∀ operation ∈ operations, ∃ id, operation = .delete a id
  | putSettings _ _ | cloneIndex _ _ _ | reindex _ => False
  | _ => True

namespace Store.SparesOthers

variable {start store : Store} {a : String}

theorem bulkStep {id : String} (h : start.SparesOthers a store) (ha : start.contains a = false) :
    start.SparesOthers a (store.bulkStep (.delete a id)).1 := by
  simp only [Store.bulkStep]
  split
  · exact h
  · rename_i hopen
    split
    · exact h.insert (h.belongs_of_open ha hopen)
    · exact h

theorem bulk (ha : start.contains a = false) :
    ∀ {operations : List BulkOperation} {store : Store}, start.SparesOthers a store →
      (∀ operation ∈ operations, ∃ id, operation = .delete a id) →
      start.SparesOthers a (store.bulk operations).1
  | [], _, h, _ => h
  | operation :: operations, store, h, hdeletes => by
    obtain ⟨id, rfl⟩ := hdeletes operation List.mem_cons_self
    have hrest : ∀ operation ∈ operations, ∃ id, operation = .delete a id :=
      fun other hother => hdeletes other (List.mem_cons_of_mem _ hother)
    show start.SparesOthers a ((store.bulkStep (.delete a id)).1.bulk operations).1
    exact bulk ha (h.bulkStep ha) hrest

/-- A call that names what it changes spares the others. -/
theorem after {c : EngineCall} (h : start.SparesOthers a store) (ha : start.contains a = false)
    (hc : c.Addresses a) : start.SparesOthers a (store.after c) := by
  cases c with
  | createIndex name body =>
    refine orKept_of h fun store' hok => ?_
    obtain ⟨-, -, rfl⟩ := createIndex_eq_ok.1 hok
    exact h.insert (.inl hc)
  | deleteIndex name =>
    refine orKept_of h fun store' hok => ?_
    obtain ⟨-, rfl⟩ := deleteIndex_eq_ok.1 hok
    exact h.erase (.inl hc)
  | putAlias name b =>
    refine orKept_of h fun store' hok => ?_
    obtain ⟨held, -, -, ⟨-, rfl⟩ | ⟨-, rfl⟩⟩ := putAlias_eq_ok.1 hok
    · exact h
    · exact h.insert (.inl hc)
  | deleteAlias name b =>
    refine orKept_of h fun store' hok => ?_
    obtain ⟨held, -, -, rfl⟩ := deleteAlias_eq_ok.1 hok
    exact h.insert (.inl hc)
  | putMapping name properties =>
    obtain rfl : name = a := hc
    refine orKept_of h fun store' hok => ?_
    simp only [perform, putMapping] at hok
    split at hok
    · cases hok
    · obtain ⟨targets, hread, hok⟩ := bind_eq_ok.1 hok
      split at hok
      · cases hok
      · obtain rfl := Except.ok.inj hok
        exact h.modifyAll (h.belongs_of_read ha hread)
  | indexDocument name id document =>
    obtain rfl : name = a := hc
    refine orKept_of h fun store' hok => ?_
    obtain ⟨⟨target, held⟩, hopen, hok⟩ := bind_eq_ok.1 hok
    obtain rfl := Except.ok.inj hok
    exact h.insert (h.belongs_of_open ha hopen)
  | deleteDocument name id =>
    obtain rfl : name = a := hc
    refine orKept_of h fun store' hok => ?_
    obtain ⟨⟨target, held⟩, hopen, hok⟩ := bind_eq_ok.1 hok
    simp only at hok
    split at hok
    · obtain rfl := Except.ok.inj hok
      exact h.insert (h.belongs_of_open ha hopen)
    · cases hok
  | bulk operations => exact h.bulk ha hc
  | putSettings | cloneIndex | reindex => exact hc.elim
  | _ => exact h

end Store.SparesOthers

/-- Whatever is requested, clones and moves apart, the calls name what they change. -/
theorem Request.asksOnly_addressing {names : IndexNames} {request : Request}
    (hclones : ¬ request.Clones) (hmoves : ∀ key, request ≠ .reindex key) :
    Operation.AsksOnly names (EngineCall.Addresses (names.aliasName request.key)) request.perform
      fun _ => True := by
  open Operation in
  have hmake : ∀ key, AsksOnly names (EngineCall.Addresses (names.aliasName key))
      (Operation.ensureExists key) fun _ => True := fun key =>
    asksOnly_ensureExists_calls (fun _ => .intro) (fun _ => .intro) (fun _ _ hname => hname)
      fun _ hname => hname
  have hwrite : ∀ key document, AsksOnly names (EngineCall.Addresses (names.aliasName key))
      (Operation.upsert document key) fun _ => True := fun key document =>
    asksOnly_upsert_calls (hmake key) rfl
  have hdelete : ∀ key id, AsksOnly names (EngineCall.Addresses (names.aliasName key))
      (Operation.delete id key) fun _ => True := fun key id => asksOnly_delete fun _ => rfl
  cases request with
  | clone => exact absurd .intro hclones
  | reindex key => exact absurd rfl (hmoves key)
  | ensureExists key => exact asksOnly_bind (hmake key) fun _ _ => asksOnly_pure .intro
  | updateMapping key =>
    exact asksOnly_bind (asksOnly_updateMapping fun _ => rfl) fun _ _ => asksOnly_pure .intro
  | syncMapping key =>
    have hsync : AsksOnly names (EngineCall.Addresses (names.aliasName key))
        (Operation.syncMapping key) fun _ => True :=
      asksOnly_syncMapping (fun _ => .intro) fun _ => rfl
    exact asksOnly_bind hsync fun _ _ => asksOnly_pure .intro
  | deleteOrphaned key =>
    have hsweep : AsksOnly names (EngineCall.Addresses (names.aliasName key))
        (Operation.deleteOrphaned key) fun _ => True :=
      asksOnly_deleteOrphaned (fun _ => .intro) (fun _ => .intro) fun _ hname => hname
    exact asksOnly_bind hsweep fun _ _ => asksOnly_pure .intro
  | deleteCollection key =>
    have hdeleted : AsksOnly names (EngineCall.Addresses (names.aliasName key))
        (Operation.deleteCollection key) fun _ => True :=
      asksOnly_deleteCollection (fun _ => .intro) (fun _ _ hname => hname) fun _ hname => hname
    exact asksOnly_bind hdeleted fun _ _ => asksOnly_pure .intro
  | upsert document key => exact hwrite key document
  | delete id key => exact hdelete key id
  | bulkDelete ids key =>
    have hbulk : AsksOnly names (EngineCall.Addresses (names.aliasName key))
        (Operation.bulkDelete ids key) fun _ => True := asksOnly_bulkDelete fun _ hdeletes => hdeletes
    exact asksOnly_bind hbulk fun _ _ => asksOnly_pure .intro
  | indexElement element key =>
    exact asksOnly_bind (asksOnly_indexElement_calls (hdelete key _) (hwrite key)) fun _ _ =>
      asksOnly_pure .intro

/-! ## Runs -/

variable {w w' : World} {t : List (Turn Memory)}

/-- After each of some turns, and at their end, the others are spared. -/
def SparedThroughout (start : Store) (a : String) (t : List (Turn Memory)) (s' : Memory) : Prop :=
  (∀ u ∈ t, start.SparesOthers a u.after.store) ∧ start.SparesOthers a s'.store

/-- A move touches no index but the two between which it moves the alias. -/
theorem Operation.Runs.reindex_spares {key : CollectionKey} {r : Except ServiceError ReindexReport}
    (h : (Operation.reindex key).Runs .unperformed w t r w') :
    SparedThroughout w.memory.store (w.service.aliasName key) t w'.memory := by
  rcases h.opens with ⟨-, hscouts⟩ | ⟨m, u₁, u₂, u₃, t', r', service₁, hm, hnewest, hnew, hne, rfl,
    hu₁, hu₂, hu₃, -, -, -, hmove, hl, -⟩
  · obtain ⟨hturns, hlast⟩ := store_of_scouts h.2 hscouts
    refine ⟨fun u hu => ?_, ?_⟩
    · rw [hturns u hu]
      exact .refl
    · rw [hlast]
      exact .refl
  rw [← hm.alias_eq]
  have hcarries : w.memory.store.Carries m.oldIndex m.aliasName :=
    Store.mem_carriers.1 (mem_of_newestIndex? hnewest)
  have ⟨held, hheld, _⟩ := hcarries
  have hopened := stands_opened hnew hne
  rw [← hu₃] at hopened
  have hspares : ∀ {store : Store}, m.Spares w.memory.store store →
      w.memory.store.SparesOthers m.aliasName store := by
    intro store hstore i hi
    refine hstore.others i ?_ ?_
    · rintro rfl
      exact hi (.inr hcarries)
    · rintro rfl
      exact hi (.inl hm.generation)
  obtain ⟨⟨t₁, t₂, t₃, rfl, h₁, h₂, h₃⟩, -⟩ := hopened.goes hheld hne hl rfl hmove.goes
  have hmoving : ∀ u ∈ t₁ ++ t₂ ++ t₃,
      w.memory.store.SparesOthers m.aliasName u.after.store := by
    intro u hu
    rw [List.mem_append, List.mem_append] at hu
    rcases hu with (hu | hu) | hu
    · exact hspares (h₁ u hu).1
    · exact hspares (h₂ u hu).1
    · exact hspares (h₃ u hu).1
  refine ⟨fun u hu => ?_, ?_⟩
  · obtain rfl | rfl | rfl | hu : u = u₁ ∨ u = u₂ ∨ u = u₃ ∨ u ∈ t₁ ++ t₂ ++ t₃ := by simpa using hu
    · rw [hu₁]
      exact .refl
    · rw [hu₂]
      exact .refl
    · exact hspares hopened.spares
    · exact hmoving u hu
  · rcases hl.last_eq with heq | ⟨u, hu, heq⟩
    · rw [heq]
      exact hspares hopened.spares
    · rw [heq]
      exact hmoving u hu

/-- Whatever is requested for a collection, a clone apart, spares the indexes of the others. -/
theorem Request.sparedThroughout {request : Request} {r : Except ServiceError Unit}
    (h : request.perform.Runs .unperformed w t r w') (hclones : ¬ request.Clones)
    (ha : w.memory.store.contains (w.service.aliasName request.key) = false) :
    SparedThroughout w.memory.store (w.service.aliasName request.key) t w'.memory := by
  by_cases hmoves : ∃ key, request = .reindex key
  · obtain ⟨key, rfl⟩ := hmoves
    obtain ⟨r', hrun⟩ := h.of_discarded
    exact hrun.reindex_spares
  · obtain ⟨-, hcalls, -⟩ :=
      Request.asksOnly_addressing hclones (fun key heq => hmoves ⟨key, heq⟩) rfl h.1
    exact h.2.keeps_store (P := fun x => x.1.Addresses (w.service.aliasName request.key))
      (fun hx hs => hs.after ha hx) hcalls .refl

theorem SparedThroughout.get?_eq {start : Store} {a i : String} {s' : Memory}
    (h : SparedThroughout start a t s') (hi : ¬ start.Belongs a i) :
    (∀ u ∈ t, u.after.store.get? i = start.get? i) ∧ s'.store.get? i = start.get? i :=
  ⟨fun u hu => h.1 u hu i hi, h.2 i hi⟩

/-- Whatever is requested for a collection, a clone apart, every index that does not belong to it is
the same after every call, however calls fail. Such are the indexes of all other collections, unless
they carry its alias, even where its pattern covers them. -/
theorem Request.leaves_other_collections {request : Request} {r : Except ServiceError Unit}
    (h : request.perform.Runs .unperformed w t r w') (hclones : ¬ request.Clones)
    (ha : w.memory.store.contains (w.service.aliasName request.key) = false) :
    (∀ i, ¬ w.memory.store.Belongs (w.service.aliasName request.key) i →
      (∀ u ∈ t, u.after.store.get? i = w.memory.store.get? i) ∧
        w'.memory.store.get? i = w.memory.store.get? i) ∧
    ∀ other i, w.service.aliasName other ≠ w.service.aliasName request.key →
      IsGeneration (w.service.aliasName other) i →
      ¬ w.memory.store.Carries i (w.service.aliasName request.key) →
      (∀ u ∈ t, u.after.store.get? i = w.memory.store.get? i) ∧
        w'.memory.store.get? i = w.memory.store.get? i := by
  have hspared := Request.sparedThroughout h hclones ha
  refine ⟨fun i hi => hspared.get?_eq hi, fun other i hother hgeneration hcarries => ?_⟩
  refine hspared.get?_eq ?_
  rintro (hown | hbound)
  · exact hother (hgeneration.unique hown)
  · exact hcarries hbound

/-- The English collection is deleted, and one call fails on the way. The pattern of the collection
covers an index of the British one, which stays as it is. -/
theorem Request.leaves_british_collection :
    let british : CollectionKey := { siteId := 3, handle := "en_gb", language := "en" }
    let document : Document := ⟨7, .ofList [("craft_attribute_title", "Home")]⟩
    let w := ((World.empty .plain).rehearse
      [(.upsert document .english, []), (.upsert document british, [])]).2
    let failed := Cue.unperformed (.backend "out of memory")
    let deleted := (Request.deleteCollection .english).perform.rehearse [.heard, .heard, failed] w
    let index := "craftcms_en_gb_1700000000"
    w.memory.store.contains (w.service.aliasName .english) = false ∧
      Store.patternCovers (w.service.indexNames.generationPattern .english) index = true ∧
      index ∈ w.memory.store.carriers (w.service.aliasName british) ∧
      deleted.2.2.memory.store.carriers (w.service.aliasName .english) = [] ∧
      (∀ u ∈ deleted.1, u.after.store.get? index = w.memory.store.get? index) ∧
      deleted.2.2.memory.store.get? index = w.memory.store.get? index := by
  intro british document w failed deleted index
  obtain ⟨hunnamed, hcovered, hbound, hfree, hunbound⟩ :
      w.memory.store.contains (w.service.aliasName .english) = false ∧
      Store.patternCovers (w.service.indexNames.generationPattern .english) index = true ∧
      index ∈ w.memory.store.carriers (w.service.aliasName british) ∧
      index ∉ w.memory.store.carriers (w.service.aliasName .english) ∧
      deleted.2.2.memory.store.carriers (w.service.aliasName .english) = [] := by decide +kernel
  obtain ⟨hother, hgeneration⟩ : w.service.aliasName british ≠ w.service.aliasName .english ∧
      IsGeneration (w.service.aliasName british) index := by decide +kernel
  have hcues : ∀ cue ∈ [Cue.heard, .heard, failed], cue.AllowedBy .unperformed := by decide
  have hrun : (Request.deleteCollection .english).perform.Runs .unperformed w deleted.1 deleted.2.1
      deleted.2.2 := Operation.runs_rehearse hcues rfl
  have hkept := (Request.leaves_other_collections hrun id hunnamed).2 british index hother
    hgeneration fun hcarries => hfree (Store.mem_carriers.2 hcarries)
  exact ⟨hunnamed, hcovered, hbound, hunbound, hkept⟩

end SiteSearch
