import SiteSearch.Proofs.Collection.Generation
import SiteSearch.Proofs.Memory.Answer
import SiteSearch.Proofs.Service.History
import SiteSearch.Proofs.Service.Keeping

/-!
# The calls that a service makes

Every operation on a collection makes calls of a narrow kind only. It makes and binds generations of
the collection (`EngineCall.Builds`), and what it unbinds or deletes is a generation of the
collection too, or loses no other alias than that of the collection (`EngineCall.Tends`). Only three
operations unbind or delete at all (`Request.Removes`).
-/

namespace SiteSearch

/-- A call for the collection with an alias that takes nothing away: an index that it makes is a
generation under the alias, and is bound to no other. -/
def EngineCall.Builds (a : String) : EngineCall → Prop
  | createIndex name body => IsGeneration a name ∧ ∃ key mapping, body = indexBody key mapping
  | cloneIndex _ target body => IsGeneration a target ∧ body = cloneBody a
  | putAlias name b => IsGeneration a name ∧ b = a
  | deleteIndex _ | deleteAlias _ _ => False
  | _ => True

/-- A call for the collection with an alias: what it takes away belongs to the collection. -/
def EngineCall.Tends (a : String) : EngineCall → Prop
  | deleteIndex name => IsGeneration a name
  | deleteAlias name b => IsGeneration a name ∨ b = a
  | c => c.Builds a

theorem EngineCall.Builds.tends {a : String} {c : EngineCall} (h : c.Builds a) : c.Tends a := by
  cases c with
  | deleteIndex | deleteAlias => exact h.elim
  | _ => exact h

/-- The call makes a clone. -/
def EngineCall.Clones : EngineCall → Prop
  | cloneIndex _ _ _ => True
  | _ => False

/-- The documents that the call writes stand under written words. -/
def EngineCall.Worded : EngineCall → Prop
  | indexDocument _ id _ => ∃ word, id = Text.writeWord word
  | bulk operations => ∀ operation ∈ operations, ∃ name id, operation = .delete name id
  | _ => True

/-- A call for the collection with an alias that takes nothing away and makes no clone. -/
def EngineCall.Makes (a : String) (c : EngineCall) : Prop :=
  c.Builds a ∧ c.Worded ∧ ¬ c.Clones

/-- Requests that unbind or delete indexes. -/
def Request.Removes : Request → Prop
  | reindex _ | deleteOrphaned _ | deleteCollection _ => True
  | _ => False

/-- Requests for clones. -/
def Request.Clones : Request → Prop
  | clone _ _ => True
  | _ => False

/-- The call writes documents under written words only, and it makes a clone only where one is requested. -/
def Request.Fits (request : Request) (c : EngineCall) : Prop :=
  c.Worded ∧ (c.Clones → request.Clones)

namespace Operation

variable {names : IndexNames} {P : EngineCall → Prop} {key : CollectionKey}

/-! ## Operations that make no index -/

theorem asksOnly_updateMapping
    (hP : ∀ properties, P (.putMapping (names.aliasName key) properties)) :
    AsksOnly names P (updateMapping key) fun _ => True := by
  refine Keeps.asksOnly ?_
  rintro base rfl
  exact keeps_updateMapping (hP _)

theorem asksOnly_syncMapping (hget : ∀ name, P (.getMapping name))
    (hput : ∀ properties, P (.putMapping (names.aliasName key) properties)) :
    AsksOnly names P (syncMapping key) fun _ => True := by
  refine Keeps.asksOnly ?_
  rintro base rfl
  exact keeps_syncMapping (hget _) (hput _)

theorem asksOnly_delete {id : ElementId}
    (hP : ∀ id, P (.deleteDocument (names.aliasName key) id)) :
    AsksOnly names P (delete id key) fun _ => True := by
  refine Keeps.asksOnly ?_
  rintro base rfl
  exact keeps_delete (hP _)

theorem asksOnly_buildDocument {element : Element} :
    AsksOnly names P (buildDocument element) fun _ => True :=
  asksOnly_bind asksOnly_get fun _ _ => asksOnly_finish fun _ _ => .intro

theorem asksOnly_bulkDelete {ids : List ElementId}
    (hP : ∀ operations,
      (∀ operation ∈ operations, ∃ id, operation = .delete (names.aliasName key) id) →
        P (.bulk operations)) :
    AsksOnly names P (bulkDelete ids key) fun _ => True := by
  refine Keeps.asksOnly ?_
  rintro base rfl
  refine keeps_bulkDelete (hP _ fun operation hoperation => ?_)
  obtain ⟨id, -, rfl⟩ := List.mem_map.1 hoperation
  exact ⟨_, rfl⟩

theorem asksOnly_deleteOrphaned (hget : ∀ name, P (.getAlias name))
    (hlist : ∀ pattern, P (.getIndices pattern))
    (hdelete : ∀ name, IsGeneration (names.aliasName key) name → P (.deleteIndex name)) :
    AsksOnly names P (deleteOrphaned key) fun _ => True := by
  refine Keeps.asksOnly ?_
  rintro base rfl
  exact keeps_deleteOrphaned (hget _) (hlist _) hdelete

theorem asksOnly_deleteCollection (hlist : ∀ pattern, P (.getIndices pattern))
    (hunbind : ∀ name a, IsGeneration (names.aliasName key) name → P (.deleteAlias name a))
    (hdelete : ∀ name, IsGeneration (names.aliasName key) name → P (.deleteIndex name)) :
    AsksOnly names P (deleteCollection key) fun _ => True := by
  refine Keeps.asksOnly ?_
  rintro base rfl
  exact keeps_deleteCollection (hlist _) hunbind hdelete

/-! ## Operations that make indexes -/

theorem asksOnly_ensureExists_calls (hlook : ∀ name, P (.aliasExists name))
    (hlist : ∀ pattern, P (.getIndices pattern))
    (hcreate : ∀ name mapping, IsGeneration (names.aliasName key) name →
      P (.createIndex name (indexBody key mapping)))
    (hbind : ∀ name, IsGeneration (names.aliasName key) name →
      P (.putAlias name (names.aliasName key))) :
    AsksOnly names P (ensureExists key) fun _ => True := by
  refine Keeps.asksOnly ?_
  rintro base rfl
  exact keeps_ensureExists (hlook _) (hlist _) (fun _ => hcreate _ _) hbind

theorem asksOnly_upsert_calls {document : Document}
    (hmake : AsksOnly names P (ensureExists key) fun _ => True)
    (hwrite : P (.indexDocument (names.aliasName key) (Text.writeWord document.id) document.toJson)) :
    AsksOnly names P (upsert document key) fun _ => True := by
  refine asksOnly_bind hmake fun _ _ => asksOnly_bind asksOnly_aliasOf ?_
  rintro _ rfl
  refine asksOnly_bind (asksOnly_attempt hwrite) ?_
  rintro (e | _) -
  · exact asksOnly_bind asksOnly_record fun _ _ => asksOnly_throw
  · exact asksOnly_record

theorem asksOnly_indexElement_calls {element : Element}
    (hdelete : AsksOnly names P (delete element.id key) fun _ => True)
    (hwrite : ∀ document, AsksOnly names P (upsert document key) fun _ => True) :
    AsksOnly names P (indexElement element key) fun _ => True := by
  have hreplace : AsksOnly names P (replaceDocument element key) fun _ => True :=
    asksOnly_bind asksOnly_buildDocument fun _ _ => asksOnly_bind hdelete fun _ _ => hwrite _
  refine asksOnly_bind asksOnly_get fun _ _ => ?_
  split
  · exact asksOnly_bind asksOnly_record fun _ _ => asksOnly_pure .intro
  · exact asksOnly_bind (asksOnly_modify fun _ => rfl) fun _ _ =>
      asksOnly_bind (asksOnly_outcome hreplace) fun _ _ =>
      asksOnly_bind (asksOnly_modify fun _ => rfl) fun _ _ =>
      asksOnly_bind (asksOnly_finish (Q := fun _ => True) fun _ _ => .intro) fun _ _ =>
      asksOnly_pure .intro

section

variable (names : IndexNames) (key : CollectionKey)

theorem asksOnly_ensureExists_makes :
    AsksOnly names (EngineCall.Makes (names.aliasName key)) (ensureExists key) fun _ => True :=
  asksOnly_ensureExists_calls (fun _ => ⟨.intro, .intro, id⟩) (fun _ => ⟨.intro, .intro, id⟩)
    (fun _ mapping hname => ⟨⟨hname, key, mapping, rfl⟩, .intro, id⟩)
    fun _ hname => ⟨⟨hname, rfl⟩, .intro, id⟩

theorem asksOnly_ensureExists :
    AsksOnly names (EngineCall.Builds (names.aliasName key)) (ensureExists key) fun _ => True :=
  (asksOnly_ensureExists_makes names key).mono (fun _ => And.left) fun _ => id

theorem asksOnly_clone (source : String) :
    AsksOnly names (fun c => c.Builds (names.aliasName key) ∧ c.Worded) (clone key source)
      fun _ => True := by
  refine Keeps.asksOnly ?_
  rintro base rfl
  refine keeps_clone.mono (fun c hc => ?_) fun _ => id
  cases hc with
  | cloneIndex index hnew => exact ⟨⟨hnew, rfl⟩, .intro⟩
  | _ => exact ⟨.intro, .intro⟩

theorem asksOnly_upsert (document : Document) :
    AsksOnly names (EngineCall.Makes (names.aliasName key)) (upsert document key)
      fun _ => True :=
  asksOnly_upsert_calls (asksOnly_ensureExists_makes names key) ⟨.intro, ⟨document.id, rfl⟩, id⟩

theorem asksOnly_indexElement (element : Element) :
    AsksOnly names (EngineCall.Makes (names.aliasName key)) (indexElement element key)
      fun _ => True :=
  asksOnly_indexElement_calls (asksOnly_delete fun _ => ⟨.intro, .intro, id⟩)
    (asksOnly_upsert names key)

/-- A call of a reindex: it belongs to the collection, and it makes no clone. -/
theorem asksOnly_reindex_moves :
    AsksOnly names (fun c => c.Tends (names.aliasName key) ∧ c.Worded ∧ ¬ c.Clones) (reindex key)
      fun _ => True := by
  refine Keeps.asksOnly ?_
  rintro base rfl
  refine keeps_reindex.mono (fun c hc => ?_) fun _ => id
  cases hc with
  | createIndex hnew => exact ⟨⟨hnew, key, base.mapping, rfl⟩, .intro, id⟩
  | putAlias hnew => exact ⟨⟨hnew, rfl⟩, .intro, id⟩
  | deleteAlias old => exact ⟨.inr rfl, .intro, id⟩
  | _ => exact ⟨.intro, .intro, id⟩

theorem asksOnly_reindex :
    AsksOnly names (EngineCall.Tends (names.aliasName key)) (reindex key) fun _ => True :=
  (asksOnly_reindex_moves names key).mono (fun _ => And.left) fun _ => id

end

end Operation

/-! ## Requests -/

namespace Request

variable {names : IndexNames}

/-- What is requested takes nothing away, unless it is a request for that. -/
theorem asksOnly_fitting_of_keeping {request : Request} (h : ¬ request.Removes) :
    Operation.AsksOnly names
      (fun c => c.Builds (names.aliasName request.key) ∧ request.Fits c) request.perform
      fun _ => True := by
  have hmakes : ∀ (request : Request) (c : EngineCall), c.Makes (names.aliasName request.key) →
      c.Builds (names.aliasName request.key) ∧ request.Fits c :=
    fun _ _ hc => ⟨hc.1, hc.2.1, fun hclones => absurd hclones hc.2.2⟩
  open Operation in
  cases request with
  | reindex | deleteOrphaned | deleteCollection => exact absurd .intro h
  | ensureExists key =>
    have hmade := (asksOnly_ensureExists_makes names key).mono (hmakes (.ensureExists key))
      fun _ => id
    exact asksOnly_bind hmade fun _ _ => asksOnly_pure .intro
  | clone key source =>
    have hcloned : AsksOnly names
        (fun c => c.Builds (names.aliasName key) ∧ (Request.clone key source).Fits c)
        (Operation.clone key source) fun _ => True :=
      (asksOnly_clone names key source).mono (fun _ hc => ⟨hc.1, hc.2, fun _ => .intro⟩) fun _ => id
    exact asksOnly_bind hcloned fun _ _ => asksOnly_pure .intro
  | updateMapping key =>
    exact asksOnly_bind (asksOnly_updateMapping fun _ => ⟨.intro, .intro, id⟩) fun _ _ =>
      asksOnly_pure .intro
  | syncMapping key =>
    have hsync : AsksOnly names
        (fun c => c.Builds (names.aliasName key) ∧ (Request.syncMapping key).Fits c)
        (Operation.syncMapping key) fun _ => True :=
      asksOnly_syncMapping (fun _ => ⟨.intro, .intro, id⟩) fun _ => ⟨.intro, .intro, id⟩
    exact asksOnly_bind hsync fun _ _ => asksOnly_pure .intro
  | upsert document key =>
    exact (asksOnly_upsert names key document).mono (hmakes (.upsert document key)) fun _ => id
  | delete id key => exact asksOnly_delete fun _ => ⟨.intro, .intro, fun h => h⟩
  | bulkDelete ids key =>
    refine asksOnly_bind (asksOnly_bulkDelete fun operations hdeletes =>
      ⟨.intro, fun operation hmem => ⟨_, hdeletes operation hmem⟩, ?_⟩)
      fun _ _ => asksOnly_pure .intro
    exact False.elim
  | indexElement element key =>
    have hindexed := (asksOnly_indexElement names key element).mono
      (hmakes (.indexElement element key)) fun _ => id
    exact asksOnly_bind hindexed fun _ _ => asksOnly_pure .intro

theorem asksOnly_perform_of_keeping {request : Request} (h : ¬ request.Removes) :
    Operation.AsksOnly names (EngineCall.Builds (names.aliasName request.key)) request.perform
      fun _ => True :=
  (asksOnly_fitting_of_keeping h).mono (fun _ => And.left) fun _ => id

/-- Whatever is requested for a collection, what is taken away belongs to that collection. -/
theorem asksOnly_fitting (request : Request) :
    Operation.AsksOnly names
      (fun c => c.Tends (names.aliasName request.key) ∧ request.Fits c) request.perform
      fun _ => True := by
  by_cases h : request.Removes
  · open Operation in
    cases request with
    | reindex key =>
      have hmoved : AsksOnly names
          (fun c => c.Tends (names.aliasName key) ∧ (Request.reindex key).Fits c)
          (Operation.reindex key) fun _ => True :=
        (asksOnly_reindex_moves names key).mono
          (fun _ hc => ⟨hc.1, hc.2.1, fun hclones => absurd hclones hc.2.2⟩) fun _ => id
      exact asksOnly_bind hmoved fun _ _ => asksOnly_pure .intro
    | deleteOrphaned key =>
      have hsweep : AsksOnly names
          (fun c => c.Tends (names.aliasName key) ∧ (Request.deleteOrphaned key).Fits c)
          (Operation.deleteOrphaned key) fun _ => True :=
        asksOnly_deleteOrphaned (fun _ => ⟨.intro, .intro, id⟩) (fun _ => ⟨.intro, .intro, id⟩)
          fun _ hname => ⟨hname, .intro, id⟩
      exact asksOnly_bind hsweep fun _ _ => asksOnly_pure .intro
    | deleteCollection key =>
      have hdelete : AsksOnly names
          (fun c => c.Tends (names.aliasName key) ∧ (Request.deleteCollection key).Fits c)
          (Operation.deleteCollection key) fun _ => True :=
        asksOnly_deleteCollection (fun _ => ⟨.intro, .intro, id⟩)
          (fun _ _ hname => ⟨.inl hname, .intro, id⟩) fun _ hname => ⟨hname, .intro, id⟩
      exact asksOnly_bind hdelete fun _ _ => asksOnly_pure .intro
    | _ => exact h.elim
  · exact (asksOnly_fitting_of_keeping h).mono (fun _ hc => ⟨hc.1.tends, hc.2⟩) fun _ => id

theorem asksOnly_perform (request : Request) :
    Operation.AsksOnly names (EngineCall.Tends (names.aliasName request.key)) request.perform
      fun _ => True :=
  request.asksOnly_fitting.mono (fun _ => And.left) fun _ => id

/-- What the fitting calls of a request do no harm to, its run does no harm to. -/
theorem keeps_store {faults : Faults} {J : Store → Prop} {request : Request} {w w' : World}
    {t : List (Turn Memory)} {r : Except ServiceError Unit}
    (hrun : request.perform.Runs faults w t r w')
    (hstep : ∀ {c : EngineCall} {store : Store},
      c.Tends (w.service.aliasName request.key) → request.Fits c → J store → J (store.after c))
    (hw : J w.memory.store) : J w'.memory.store ∧ w'.service.indexNames = w.service.indexNames := by
  obtain ⟨hnames, hcalls, -⟩ := request.asksOnly_fitting rfl hrun.1
  obtain ⟨-, hlast⟩ := hrun.2.keeps_store
    (P := fun x => x.1.Tends (w.service.aliasName request.key) ∧ request.Fits x.1)
    (fun hx => hstep hx.1 hx.2) hcalls hw
  exact ⟨hlast, hnames⟩

end Request

/-- What the fitting calls of all requests do no harm to, a history does no harm to. -/
theorem History.keeps_store {faults : Faults} {J : Store → Prop} {names : IndexNames} {w w' : World}
    {requests : List Request} {t : List (Turn Memory)} (h : History faults w requests t w')
    (hstep : ∀ request ∈ requests, ∀ {c : EngineCall} {store : Store},
      c.Tends (names.aliasName request.key) → request.Fits c → J store → J (store.after c))
    (hnames : w.service.indexNames = names) (hw : J w.memory.store) :
    J w'.memory.store ∧ w'.service.indexNames = names := by
  induction h with
  | nil => exact ⟨hw, hnames⟩
  | @cons w w₁ w₂ w₃ request requests t t' r hpass hrun _ ih =>
    have hnames₁ : w₁.service.indexNames = names := hpass.indexNames.trans hnames
    obtain ⟨hw₂, hnames₂⟩ := Request.keeps_store (J := J) hrun
      (fun htends => hstep request List.mem_cons_self (hnames₁ ▸ htends)) (hpass.1 ▸ hw)
    exact ih (fun other hother => hstep other (List.mem_cons_of_mem _ hother))
      (hnames₂.trans hnames₁) hw₂

theorem History.indexNames {faults : Faults} {w w' : World} {requests : List Request}
    {t : List (Turn Memory)} (h : History faults w requests t w') :
    w'.service.indexNames = w.service.indexNames :=
  (h.keeps_store (J := fun _ => True) (fun _ _ _ _ _ _ => id) rfl .intro).2

end SiteSearch
