import SiteSearch.Proofs.Memory.Answer
import SiteSearch.Proofs.Memory.Types

/-!
# The engine that works in place

Every operation of a store gives a new store or an error, so what an operation that is refused has
already changed cannot be seen in it. Here the operations that change something are written once more as
work in place (`InPlace.perform`): step by step on one memory, each step with its effect at once, and with
nothing that takes a change back when a later step is refused. Both engines give the same answers and
leave the same memory (`InPlace.run_perform`), so no step changes anything before the last reason to
refuse has been looked at, with one kind of exception. A deletion takes away first and says afterwards
that there was nothing to take away.
-/

namespace SiteSearch

/-! ## Maps that are changed bit by bit -/

namespace NameMap

theorem modify_eq_insert {α : Type} {m : NameMap α} {name : String} {value : α} {f : α → α}
    (h : m.get? name = some value) : m.modify name f = m.insert name (f value) := by
  refine ext_get? fun other => ?_
  rw [get?_modify, get?_insert]
  split
  · rename_i heq
    rw [← heq, h, Option.map_some]
  · rfl

theorem modify_modify {α : Type} {m : NameMap α} {name : String} {f g : α → α} :
    (m.modify name f).modify name g = m.modify name fun value => g (f value) := by
  refine ext_get? fun other => ?_
  rw [get?_modify, get?_modify, get?_modify]
  split
  · exact Option.map_map ..
  · rfl

/-- One value changed several times is changed once, by all of it. -/
theorem foldl_modify {α β : Type} {name : String} {f : β → α → α} {items : List β} :
    ∀ {m : NameMap α}, items.foldl (fun m x => m.modify name (f x)) m =
      m.modify name fun value => items.foldl (fun value x => f x value) value := by
  induction items with
  | nil =>
    intro m
    refine ext_get? fun other => ?_
    rw [get?_modify, List.foldl_nil]
    split
    · exact Option.map_id'.symm
    · rfl
  | cons x items ih =>
    intro m
    rw [List.foldl_cons, ih, modify_modify]
    rfl

end NameMap

namespace StoredIndex

variable {index : StoredIndex} {entries : List (String × Json)}

/-! What is put into one map of an index entry by entry is put into that map. -/

theorem settings_each :
    entries.foldl (fun i e => { i with settings := i.settings.insert e.1 e.2 }) index =
      { index with settings := entries.foldl (fun m e => m.insert e.1 e.2) index.settings } := by
  refine List.foldl_hom (fun settings => StoredIndex.mk settings _ _ _ _) fun settings e => ?_
  rfl

theorem properties_each :
    entries.foldl (fun i e => { i with properties := i.properties.insert e.1 e.2 }) index =
      { index with properties := entries.foldl (fun m e => m.insert e.1 e.2) index.properties } := by
  refine List.foldl_hom (fun properties => StoredIndex.mk _ properties _ _ _) fun properties e => ?_
  rfl

theorem documents_each :
    entries.foldl (fun i e => { i with documents := i.documents.insert e.1 e.2 }) index =
      { index with documents := entries.foldl (fun m e => m.insert e.1 e.2) index.documents } := by
  refine List.foldl_hom (fun documents => StoredIndex.mk _ _ documents _ _) fun documents e => ?_
  rfl

end StoredIndex

/-! ## Work in place -/

/-- Work on a memory in place. What has been changed stays changed when the work is refused later. -/
abbrev InPlace (α : Type) := ExceptT EngineError (StateM Memory) α

namespace InPlace

variable {α β : Type}

/-- How work ends, and the memory that it leaves. -/
def run (work : InPlace α) (memory : Memory) : Except EngineError α × Memory :=
  (ExceptT.run work).run memory

/-! ## Steps -/

/-- Looks something up. -/
def look (f : Store → α) : InPlace α := do
  pure (f (← get).store)

/-- Looks up something that has to be there. -/
def require (f : Store → Except EngineError α) : InPlace α := do
  match ← look f with
  | .ok a => pure a
  | .error e => throw e

/-- Changes the store. -/
def change (f : Store → Store) : InPlace Unit :=
  modify fun memory => { memory with store := f memory.store }

/-- Changes one index, if it is there. -/
def alter (name : String) (f : StoredIndex → StoredIndex) : InPlace Unit :=
  change fun store => store.modify name f

/-- Refuses to go on. -/
def refuseWhen (refused : Bool) (e : EngineError) : InPlace Unit :=
  if refused then throw e else pure ()

/-- Nothing is wrong unless there is a reason to refuse. -/
def ofRefusal : Option EngineError → Except EngineError Unit
  | none => .ok ()
  | some e => .error e

/-! ## Operations -/

/-- Makes an index. -/
def createIndex (name : String) (body : Json) : InPlace Unit := do
  refuseWhen (← look (·.contains name)) (Store.indexExists name)
  refuseWhen (!(← look (·.carriers name)).isEmpty)
    (.badRequest ("invalid_index_name_exception: [" ++ name ++ "] already exists as alias"))
  change (·.insert name (Store.indexOfBody body))

/-- Deletes an index. -/
def deleteIndex (name : String) : InPlace Unit := do
  let held ← look (·.contains name)
  change (·.erase name)
  refuseWhen (!held) (Store.noSuchIndex name)

/-- Gives an alias to an index. -/
def putAlias (name aliasName : String) : InPlace Unit := do
  refuseWhen (← look (·.contains aliasName))
    (.badRequest ("invalid_alias_name_exception: an index exists with the same name as "
      ++ "the alias [" ++ aliasName ++ "]"))
  let index ← require (·.index? name)
  if index.aliases.contains aliasName then pure ()
  else alter name fun index => { index with aliases := index.aliases.insert aliasName false }

/-- Takes an alias from an index. -/
def deleteAlias (name aliasName : String) : InPlace Unit := do
  let index ← require (·.index? name)
  alter name fun index => { index with aliases := index.aliases.erase aliasName }
  refuseWhen (!index.aliases.contains aliasName)
    (.notFound ("aliases [" ++ aliasName ++ "] missing"))

/-- Puts settings over those of every index under a name: the block and then one after another. -/
def putSettings (name : String) (settings : Json) : InPlace Unit := do
  let targets ← require (·.readTargets name)
  forM targets fun target => do
    alter target fun index =>
      { index with writeBlocked := (Store.blockSetting? settings).getD index.writeBlocked }
    forM ((settings.object?).getD []) fun (key, value) =>
      alter target fun index => { index with settings := index.settings.insert key value }

/-- Adds properties to every index under a name, one after another, when all have been checked. -/
def putMapping (name : String) (properties : Json) : InPlace Unit := do
  match properties.object? with
  | none => throw (.badRequest "mapping properties must be an object")
  | some fields =>
    let targets ← require (·.readTargets name)
    forM targets fun target =>
      forM fields fun field => require fun store =>
        ofRefusal (((store.get? target).bind (Store.typeConflict? · [field])).map
          Store.typeConflictError)
    forM targets fun target =>
      forM fields fun (field, spec) =>
        alter target fun index => { index with properties := index.properties.insert field spec }

/-- Copies an index that is blocked for writing. -/
def cloneIndex (source target : String) (body : Json) : InPlace Unit := do
  let index ← require (·.index? source)
  refuseWhen (!index.writeBlocked) (.badRequest ("index " ++ source
    ++ " must be read-only to resize index. use \"index.blocks.write=true\""))
  refuseWhen (← look (·.contains target)) (Store.indexExists target)
  change (·.insert target { index with aliases := Store.bodyAliases body, writeBlocked := false })

/-- The failures that a copy has to report; they are asked for once. -/
def takeFailures : InPlace Nat := do
  let memory ← get
  set { memory with pendingFailures := 0 }
  pure memory.pendingFailures

/-- Copies documents, one after another. -/
def reindex (body : Json) : InPlace ReindexReply := do
  let request ← require fun _ => Store.CopyRequest.ofBody body
  let sources ← require (·.readTargets request.source)
  let target ← require (·.writeTarget request.target)
  let copied ← look (·.copiedDocuments request sources)
  let index ← require (·.index? target)
  refuseWhen index.writeBlocked (Store.writeBlockedError target)
  forM copied fun (id, document) =>
    alter target fun index => { index with documents := index.documents.insert id document }
  let failures ← takeFailures
  pure
    { took := 0
      total := UInt64.ofNat copied.length
      failures := (List.range failures).map (Store.injectedFailure target) }

/-- Writes a document. -/
def indexDocument (name id : String) (document : Json) : InPlace Unit := do
  let (target, _) ← require (·.openForWriting name)
  alter target fun index => { index with documents := index.documents.insert id document }

/-- Deletes a document. -/
def deleteDocument (name id : String) : InPlace Unit := do
  let (target, index) ← require (·.openForWriting name)
  alter target fun index => { index with documents := index.documents.erase id }
  refuseWhen (!index.documents.contains id) (Store.noSuchDocument id)

/-- What is done in place for a call; the calls that are never refused or only look are left to the
engine as it is. -/
def perform : (call : EngineCall) → InPlace call.Answer
  | .createIndex name body => createIndex name body
  | .deleteIndex name => deleteIndex name
  | .putAlias index aliasName => putAlias index aliasName
  | .deleteAlias index aliasName => deleteAlias index aliasName
  | .putSettings index settings => putSettings index settings
  | .putMapping index properties => putMapping index properties
  | .cloneIndex source target body => cloneIndex source target body
  | .reindex body => reindex body
  | .indexDocument index id document => indexDocument index id document
  | .deleteDocument index id => deleteDocument index id
  | call => ExceptT.mk fun memory => Memory.serve call memory

/-- The engine that works in place. -/
def answer : Engine Memory := fun call memory => (perform call).run (memory.count call)

/-! ## Running -/

variable {memory : Memory}

theorem run_bind {work : InPlace α} {next : α → InPlace β} :
    (work >>= next).run memory =
      match work.run memory with
      | (.ok a, reached) => (next a).run reached
      | (.error e, reached) => (.error e, reached) := by
  change (StateT.run (ExceptT.run work >>= ExceptT.bindCont next) memory) = _
  rw [StateT.run_bind]
  change StateT.run (ExceptT.bindCont next (work.run memory).1) (work.run memory).2 = _
  obtain ⟨result, reached⟩ := work.run memory
  cases result <;> rfl

theorem run_look_bind {f : Store → α} {next : α → InPlace β} :
    (look f >>= next).run memory = (next (f memory.store)).run memory := by
  rw [run_bind]
  rfl

theorem run_require {f : Store → Except EngineError α} :
    (require f).run memory = (f memory.store, memory) := by
  rw [require, run_look_bind]
  cases f memory.store <;> rfl

theorem run_require_bind {f : Store → Except EngineError α} {next : α → InPlace β} :
    (require f >>= next).run memory =
      match f memory.store with
      | .ok a => (next a).run memory
      | .error e => (.error e, memory) := by
  rw [run_bind, run_require]
  cases f memory.store <;> rfl

theorem run_change {f : Store → Store} :
    (change f).run memory = (.ok (), { memory with store := f memory.store }) := rfl

theorem run_change_bind {f : Store → Store} {next : Unit → InPlace β} :
    (change f >>= next).run memory = (next ()).run { memory with store := f memory.store } := rfl

theorem run_alter {name : String} {f : StoredIndex → StoredIndex} :
    (alter name f).run memory = (.ok (), { memory with store := memory.store.modify name f }) := rfl

theorem run_alter_bind {name : String} {f : StoredIndex → StoredIndex} {next : Unit → InPlace β} :
    (alter name f >>= next).run memory =
      (next ()).run { memory with store := memory.store.modify name f } := rfl

theorem run_refuseWhen {refused : Bool} {e : EngineError} :
    (refuseWhen refused e).run memory = (if refused then .error e else .ok (), memory) := by
  cases refused <;> rfl

theorem run_refuseWhen_bind {refused : Bool} {e : EngineError} {next : Unit → InPlace β} :
    (refuseWhen refused e >>= next).run memory =
      if refused then (.error e, memory) else (next ()).run memory := by
  cases refused <;> rfl

theorem run_takeFailures_bind {next : Nat → InPlace β} :
    (takeFailures >>= next).run memory =
      (next memory.pendingFailures).run { memory with pendingFailures := 0 } := rfl

theorem run_bind_of_ok {work : InPlace α} {next : α → InPlace β} {a : α} {reached : Memory}
    (h : work.run memory = (.ok a, reached)) :
    (work >>= next).run memory = (next a).run reached := by
  rw [run_bind, h]

/-- Steps that are not refused change the store one after another. -/
theorem run_forM_change {f : α → InPlace Unit} {g : Store → α → Store}
    (hf : ∀ x memory, (f x).run memory = (.ok (), { memory with store := g memory.store x })) :
    ∀ {items : List α} {memory : Memory},
      (forM items f).run memory = (.ok (), { memory with store := items.foldl g memory.store })
  | [], memory => rfl
  | x :: items, memory => by
    rw [List.forM_cons, run_bind, hf]
    exact run_forM_change hf

/-- Changes of one index are one change of it. -/
theorem run_forM_alter {name : String} {items : List α} {f : α → StoredIndex → StoredIndex} :
    (forM items fun x => alter name (f x)).run memory =
      (.ok (), { memory with
        store := memory.store.modify name fun index => items.foldl (fun index x => f x index) index }) := by
  rw [← NameMap.foldl_modify]
  exact run_forM_change fun x memory => run_alter

/-- Steps that change nothing are taken up to the first that is refused. -/
theorem run_forM_check {f : α → InPlace Unit} {g : α → Option EngineError}
    (hf : ∀ x, (f x).run memory = (ofRefusal (g x), memory)) :
    ∀ {items : List α}, (forM items f).run memory = (ofRefusal (items.findSome? g), memory)
  | [] => rfl
  | x :: items => by
    rw [List.forM_cons, run_bind, hf, List.findSome?_cons]
    cases g x with
    | none => exact run_forM_check hf
    | some e => rfl

end InPlace

/-! ## Checks of a mapping -/

namespace Store

/-- The checks of an index with all fields are those with one after another. -/
theorem typeConflict?_eq_findSome? {index : StoredIndex} {fields : List (String × Json)} :
    typeConflict? index fields = fields.findSome? fun field => typeConflict? index [field] := by
  rw [typeConflict?]
  congr 1
  funext field
  rw [typeConflict?, List.findSome?_singleton]

/-- The first index in the way of a mapping is met on the way through the names. -/
theorem findSome?_typeConflict? {store : Store} {fields : List (String × Json)} {targets : List String} :
    (store.indexesOf targets).findSome? (typeConflict? · fields) =
      targets.findSome? fun target => fields.findSome? fun field =>
        (store.get? target).bind (typeConflict? · [field]) := by
  have heach : ∀ target, (fields.findSome? fun field => (store.get? target).bind (typeConflict? · [field])) =
      (store.get? target).bind (typeConflict? · fields) := by
    intro target
    cases store.get? target with
    | none => exact List.findSome?_eq_none_iff.2 fun _ _ => rfl
    | some index => exact typeConflict?_eq_findSome?.symm
  simp only [heach]
  rw [← List.head?_filterMap, ← List.head?_filterMap, indexesOf, List.filterMap_filterMap]

end Store

/-! ## Both engines do the same -/

theorem ok_bind {ε α β : Type} {a : α} {f : α → Except ε β} : (Except.ok a >>= f) = f a := rfl

namespace InPlace

variable {memory : Memory}

theorem run_createIndex {name : String} {body : Json} :
    (createIndex name body).run memory = memory.update (memory.store.createIndex name body) := by
  simp only [createIndex, run_look_bind, run_refuseWhen_bind, run_change, Store.createIndex]
  split
  · rfl
  · split
    · rfl
    · rfl

theorem run_deleteIndex {name : String} :
    (deleteIndex name).run memory = memory.update (memory.store.deleteIndex name) := by
  simp only [deleteIndex, run_look_bind, run_change_bind, run_refuseWhen, Store.deleteIndex]
  cases hname : memory.store.contains name with
  | true => rfl
  | false =>
    rw [NameMap.erase_eq_self hname]
    rfl

theorem run_putAlias {name aliasName : String} :
    (putAlias name aliasName).run memory = memory.update (memory.store.putAlias name aliasName) := by
  simp only [putAlias, run_look_bind, run_refuseWhen_bind, run_require_bind, Store.putAlias]
  split
  · rfl
  · cases hindex : memory.store.index? name with
    | error e => rfl
    | ok index =>
      simp only [ok_bind]
      split
      · rfl
      · rw [run_alter, NameMap.modify_eq_insert (Store.index?_eq_ok.1 hindex)]
        rfl

theorem run_deleteAlias {name aliasName : String} :
    (deleteAlias name aliasName).run memory =
      memory.update (memory.store.deleteAlias name aliasName) := by
  simp only [deleteAlias, run_require_bind, run_alter_bind, run_refuseWhen, Store.deleteAlias]
  cases hindex : memory.store.index? name with
  | error e => rfl
  | ok index =>
    have hget : memory.store.get? name = some index := Store.index?_eq_ok.1 hindex
    simp only [ok_bind]
    rw [NameMap.modify_eq_insert hget]
    cases halias : index.aliases.contains aliasName with
    | true => rfl
    | false =>
      rw [NameMap.erase_eq_self halias, NameMap.insert_eq_self hget]
      rfl

theorem run_putSettings {name : String} {settings : Json} :
    (putSettings name settings).run memory =
      memory.update (memory.store.putSettings name settings) := by
  simp only [putSettings, run_require_bind, Store.putSettings]
  cases memory.store.readTargets name with
  | error e => rfl
  | ok targets =>
    refine run_forM_change fun target memory => ?_
    rw [run_alter_bind, run_forM_alter, NameMap.modify_modify]
    congr 3
    funext index
    exact StoredIndex.settings_each

/-- Going through all indexes and fields, the check refuses what the first conflict is refused for. -/
theorem run_checkMapping {fields : List (String × Json)} {targets : List String} :
    (forM targets fun target => forM fields fun field => require fun store =>
        ofRefusal (((store.get? target).bind (Store.typeConflict? · [field])).map
          Store.typeConflictError)).run memory =
      (ofRefusal (((memory.store.indexesOf targets).findSome? (Store.typeConflict? · fields)).map
        Store.typeConflictError), memory) := by
  rw [Store.findSome?_typeConflict?, List.map_findSome?]
  refine run_forM_check fun target => ?_
  rw [Function.comp_apply, List.map_findSome?]
  exact run_forM_check fun field => run_require

/-- Going through all indexes and fields, each index gets the properties. -/
theorem run_writeMapping {fields : List (String × Json)} {targets : List String} :
    (forM targets fun target => forM fields fun (field, spec) =>
        alter target fun index =>
          { index with properties := index.properties.insert field spec }).run memory =
      (.ok (), { memory with
        store := memory.store.modifyAll targets (Store.withProperties fields) }) := by
  refine run_forM_change fun target memory => ?_
  rw [run_forM_alter]
  congr 3
  funext index
  exact StoredIndex.properties_each

theorem run_putMapping {name : String} {properties : Json} :
    (putMapping name properties).run memory =
      memory.update (memory.store.putMapping name properties) := by
  rw [putMapping, Store.putMapping]
  cases properties.object? with
  | none => rfl
  | some fields =>
    simp only [run_require_bind]
    cases memory.store.readTargets name with
    | error e => rfl
    | ok targets =>
      simp only [ok_bind]
      rw [run_bind, run_checkMapping]
      cases (memory.store.indexesOf targets).findSome? (Store.typeConflict? · fields) with
      | some conflict => rfl
      | none => exact run_writeMapping

theorem run_cloneIndex {source target : String} {body : Json} :
    (cloneIndex source target body).run memory =
      memory.update (memory.store.cloneIndex source target body) := by
  simp only [cloneIndex, run_require_bind, run_look_bind, run_refuseWhen_bind, run_change,
    Store.cloneIndex]
  cases memory.store.index? source with
  | error e => rfl
  | ok index =>
    simp only [ok_bind]
    split
    · rfl
    · split
      · rfl
      · rfl

theorem run_reindex {body : Json} : (reindex body).run memory = memory.reindex body := by
  simp only [reindex, run_require_bind, run_look_bind, run_refuseWhen_bind, Memory.reindex,
    Store.reindex]
  cases Store.CopyRequest.ofBody body with
  | error e => rfl
  | ok request =>
    simp only [ok_bind]
    cases memory.store.readTargets request.source with
    | error e => rfl
    | ok sources =>
      simp only [ok_bind]
      cases memory.store.writeTarget request.target with
      | error e => rfl
      | ok target =>
        simp only [ok_bind]
        cases hindex : memory.store.index? target with
        | error e => rfl
        | ok index =>
          simp only [ok_bind]
          split
          · rfl
          · rw [run_bind_of_ok run_forM_alter, run_takeFailures_bind,
              NameMap.modify_eq_insert (Store.index?_eq_ok.1 hindex), StoredIndex.documents_each]
            rfl

theorem run_indexDocument {name id : String} {document : Json} :
    (indexDocument name id document).run memory =
      memory.update (memory.store.indexDocument name id document) := by
  simp only [indexDocument, run_require_bind, run_alter, Store.indexDocument]
  cases hopen : memory.store.openForWriting name with
  | error e => rfl
  | ok reached =>
    simp only [ok_bind]
    rw [NameMap.modify_eq_insert (Store.openForWriting_eq_ok.1 hopen).2.1]
    rfl

theorem run_deleteDocument {name id : String} :
    (deleteDocument name id).run memory =
      memory.update (memory.store.deleteDocument name id) := by
  simp only [deleteDocument, run_require_bind, run_alter_bind, run_refuseWhen, Store.deleteDocument]
  cases hopen : memory.store.openForWriting name with
  | error e => rfl
  | ok reached =>
    obtain ⟨target, index⟩ := reached
    have hget : memory.store.get? target = some index := (Store.openForWriting_eq_ok.1 hopen).2.1
    simp only [ok_bind]
    rw [NameMap.modify_eq_insert hget]
    cases hid : index.documents.contains id with
    | true => rfl
    | false =>
      rw [NameMap.erase_eq_self hid, NameMap.insert_eq_self hget]
      rfl

theorem run_perform {call : EngineCall} : (perform call).run memory = Memory.serve call memory := by
  cases call with
  | createIndex => exact run_createIndex
  | deleteIndex => exact run_deleteIndex
  | putAlias => exact run_putAlias
  | deleteAlias => exact run_deleteAlias
  | putSettings => exact run_putSettings
  | putMapping => exact run_putMapping
  | cloneIndex => exact run_cloneIndex
  | reindex => exact run_reindex
  | indexDocument => exact run_indexDocument
  | deleteDocument => exact run_deleteDocument
  | _ => rfl

/-- Both engines answer the same and leave the same memory. -/
theorem answer_eq : answer = Memory.answer :=
  funext fun _ => funext fun _ => run_perform

end InPlace

/-! ## Refused calls -/

/-- A call that is refused is counted, and that is all. -/
theorem Memory.left_by_refused {call : EngineCall} {memory : Memory} {e : EngineError}
    (h : (answer call memory).1 = .error e) : (answer call memory).2 = memory.count call := by
  have hupdate : ∀ {result : Except EngineError Store} {m : Memory},
      (m.update result).1 = .error e → (m.update result).2 = m := by
    intro result m hrefused
    cases result with
    | ok store => cases hrefused
    | error e => rfl
  cases call with
  | createIndex | deleteIndex | putAlias | deleteAlias | putSettings | putMapping | cloneIndex
  | indexDocument | deleteDocument => exact hupdate h
  | reindex body =>
    simp only [answer, serve, Memory.reindex] at h ⊢
    split at h
    · cases h
    · rfl
  | bulk => cases h
  | _ => rfl

/-- A name under which a reader reaches nothing is refused. -/
theorem Store.ne_nil_of_readTargets {store : Store} {name : String} {targets : List String}
    (h : store.readTargets name = .ok targets) : targets ≠ [] := by
  rintro rfl
  unfold readTargets at h
  split at h
  · cases h
  · split at h
    · cases h
    · rename_i hne
      exact hne (Except.ok.inj h)

/-- A mapping that is accepted is put over the properties of every index that a reader reaches, and there
is one. -/
theorem Store.of_putMapping {store store' : Store} {name : String} {properties : Json}
    (h : store.putMapping name properties = .ok store') :
    ∃ fields, properties.object? = some fields ∧ (∃ i, store.Reads name i) ∧
      ∀ i, (store.Reads name i → store'.get? i = (store.get? i).map (withProperties fields)) ∧
        (¬ store.Reads name i → store'.get? i = store.get? i) := by
  unfold putMapping at h
  split at h
  · cases h
  · rename_i fields hfields
    obtain ⟨targets, htargets, h⟩ := bind_eq_ok.1 h
    split at h
    · cases h
    · obtain rfl := Except.ok.inj h
      have hreads : ∀ i, store.Reads name i ↔ i ∈ targets := fun i => by
        simp [Reads, htargets]
      have hdistinct : targets.Nodup := by
        refine (rising_readTargets htargets).imp ?_
        rintro i _ hlt rfl
        exact String.lt_irrefl _ hlt
      have hsome : ∃ i, store.Reads name i := by
        obtain ⟨i, hi⟩ := List.exists_mem_of_ne_nil _ (ne_nil_of_readTargets htargets)
        exact ⟨i, (hreads i).2 hi⟩
      refine ⟨fields, hfields, hsome, fun i => ⟨fun hi => ?_, fun hi => ?_⟩⟩
      · rw [get?_modifyAll hdistinct, if_pos ((hreads i).1 hi)]
      · rw [get?_modifyAll hdistinct, if_neg fun hmem => hi ((hreads i).2 hmem)]

/-- What is refused changes nothing, although each operation does its work in place. The engine that works
in place does the same as the engine in memory; where it answers with an error, every index is as it was,
with its documents, mapping, settings, aliases, marks and block, and the call has been counted at most.
So a mapping is put over the properties of all indexes behind a name or of none. -/
theorem InPlace.refused_changes_nothing (memory : Memory) :
    (∀ call, answer call memory = Memory.answer call memory ∧
      ∀ e, (answer call memory).1 = .error e →
        (answer call memory).2.store = memory.store ∧ (answer call memory).2 = memory.count call) ∧
    ∀ name properties,
      let (outcome, reached) := answer (.putMapping name properties) memory
      (∃ e, outcome = .error e) ∧ reached.store = memory.store ∨
        outcome = .ok () ∧ ∃ fields, properties.object? = some fields ∧
          (∃ i, memory.store.Reads name i) ∧
          ∀ i, (memory.store.Reads name i →
              reached.store.get? i = (memory.store.get? i).map (Store.withProperties fields)) ∧
            (¬ memory.store.Reads name i → reached.store.get? i = memory.store.get? i) := by
  rw [answer_eq]
  refine ⟨fun call => ⟨rfl, fun e he => ?_⟩, fun name properties => ?_⟩
  · have hleft := Memory.left_by_refused he
    exact ⟨by rw [hleft]; rfl, hleft⟩
  · have hanswer : Memory.answer (.putMapping name properties) memory =
        (memory.count (.putMapping name properties)).update
          (memory.store.putMapping name properties) := rfl
    rw [hanswer]
    cases hput : memory.store.putMapping name properties with
    | error e => exact .inl ⟨⟨e, rfl⟩, rfl⟩
    | ok store => exact .inr ⟨rfl, Store.of_putMapping hput⟩

/-- Two indexes carry an alias, and a mapping under it agrees with the first one only. -/
theorem InPlace.refused_changes_nothing_of_two :
    let keyword := Json.ofFields [("type", .string "keyword")]
    let memory : Memory :=
      { store := (NameMap.insert {} "a" { aliases := NameMap.insert {} "x" false }).insert "b"
          { aliases := NameMap.insert {} "x" false, properties := NameMap.insert {} "f" keyword } }
    let call : EngineCall := .putMapping "x"
      (.ofFields [("f", .ofFields [("type", .string "text")]), ("g", keyword)])
    (answer call memory).1 = .error (Store.typeConflictError ("f", .string "keyword", .string "text")) ∧
      (answer call memory).2.store = memory.store := by
  intro keyword memory call
  obtain ⟨hcalls, -⟩ := refused_changes_nothing memory
  obtain ⟨heq, hrefused⟩ := hcalls call
  have herror : (Memory.answer call memory).1 =
      .error (Store.typeConflictError ("f", .string "keyword", .string "text")) := by
    decide +kernel
  rw [← heq] at herror
  exact ⟨herror, (hrefused _ herror).1⟩

end SiteSearch
