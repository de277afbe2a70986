import SiteSearch.Engine.Remote.Request
import SiteSearch.Proofs.Memory.Block
import SiteSearch.Proofs.Memory.Bulk
import SiteSearch.Proofs.Memory.Types

/-!
# Requests that are made again

A request whose reply was lost may have been performed. It can be made again only where that changes
nothing (`EngineCall.Repeatable`), and this is so for every request that a client makes again
(`Memory.store_of_resent`).

Of these, only a bulk request needs an argument. Where its writes arrive follows from the aliases and the
blocks, which no write changes, so they arrive at the same indexes again (`Store.get?_bulk`). There they
are done in the same order again, and what the last of them leaves under an id does not depend on what was
there before (`replay_replay`).
-/

namespace SiteSearch

/-! ## Writing the same again -/

namespace NameMap

variable {α : Type} {name : String} {entries : List (String × α)} {m : NameMap α}

/-- Of entries with one name that are put over those of a map, the last one stays. -/
theorem get?_foldl_insert_last : ∀ {entries : List (String × α)} {m : NameMap α},
    (entries.foldl (fun m e => m.insert e.1 e.2) m).get? name =
      (valueAt? name entries.reverse).or (m.get? name)
  | [], _ => rfl
  | (first, value) :: entries, m => by
    rw [List.foldl_cons, get?_foldl_insert_last, get?_insert, List.reverse_cons, valueAt?_append,
      Option.or_assoc, valueAt?]
    split
    · rfl
    · rfl

/-- Entries that are put over a map once more are there already. -/
theorem foldl_insert_again : entries.foldl (fun m e => m.insert e.1 e.2)
    (entries.foldl (fun m e => m.insert e.1 e.2) m) = entries.foldl (fun m e => m.insert e.1 e.2) m := by
  refine ext_get? fun name => ?_
  rw [get?_foldl_insert_last, get?_foldl_insert_last, ← Option.or_assoc, Option.or_self]

end NameMap

/-- The id that a write is about, and what is there behind it. -/
def Write.entry : Write → String × Option Json
  | put id document => (id, some document)
  | delete id => (id, none)

theorem get?_replay {id : String} : ∀ {writes : List Write} {documents : NameMap Json},
    (replay writes documents).get? id =
      (valueAt? id (writes.map Write.entry).reverse).getD (documents.get? id)
  | [], _ => rfl
  | first :: writes, documents => by
    show (replay writes (first.apply documents)).get? id = _
    rw [get?_replay, List.map_cons, List.reverse_cons, NameMap.valueAt?_append]
    cases valueAt? id (writes.map Write.entry).reverse with
    | some last => rfl
    | none =>
      cases first with
      | put other document =>
        rw [Write.apply, NameMap.get?_insert, Write.entry, valueAt?]
        split
        · rfl
        · rfl
      | delete other =>
        rw [Write.apply, NameMap.get?_erase, Write.entry, valueAt?]
        split
        · rfl
        · rfl

/-- Writes that are done once more leave what they have left before. -/
theorem replay_replay {writes : List Write} {documents : NameMap Json} :
    replay writes (replay writes documents) = replay writes documents := by
  refine NameMap.ext_get? fun id => ?_
  rw [get?_replay, get?_replay]
  cases valueAt? id (writes.map Write.entry).reverse with
  | none => rfl
  | some last => rfl

namespace Store

variable {store store' : Store} {name i : String} {names : List String} {operations : List BulkOperation}

/-- A change that makes no difference when it is made again, made again to several indexes. -/
theorem modifyAll_again {f : StoredIndex → StoredIndex} (hf : ∀ held, f (f held) = f held)
    (h : names.Nodup) : (store.modifyAll names f).modifyAll names f = store.modifyAll names f := by
  refine NameMap.ext_get? fun i => ?_
  rw [get?_modifyAll h, get?_modifyAll h]
  split
  · rw [Option.map_map]
    exact congrArg (fun g => (store.get? i).map g) (funext hf)
  · rfl

/-- What is put to every index that a reader reaches under a name reaches the same indexes again. -/
theorem again_of_modifyAll {f : StoredIndex → StoredIndex} {targets targets' : List String}
    (hsame : store.SameAliases store') (hf : ∀ held, f (f held) = f held)
    (htargets : store.readTargets name = .ok targets) (htargets' : store'.readTargets name = .ok targets')
    (hput : store' = store.modifyAll targets f) : store'.modifyAll targets' f = store' := by
  obtain rfl := Except.ok.inj ((hsame.readTargets_eq.trans htargets).symm.trans htargets')
  rw [hput]
  exact modifyAll_again hf ((rising_readTargets htargets).imp fun hlt => String.ne_of_lt hlt)

theorem withSettings_again (settings : Json) (held : StoredIndex) :
    withSettings settings (withSettings settings held) = withSettings settings held := by
  simp only [withSettings, NameMap.foldl_insert_again]
  cases blockSetting? settings with
  | none => rfl
  | some blocked => rfl

theorem withProperties_again (fields : List (String × Json)) (held : StoredIndex) :
    withProperties fields (withProperties fields held) = withProperties fields held := by
  simp only [withProperties, NameMap.foldl_insert_again]

/-- Properties that are put are fields, and they are put to every index that a reader reaches. -/
theorem putMapping_of_ok {properties : Json} (h : store.putMapping name properties = .ok store') :
    ∃ fields targets, properties.object? = some fields ∧ store.readTargets name = .ok targets ∧
      store' = store.modifyAll targets (withProperties fields) := by
  unfold putMapping at h
  split at h
  · cases h
  · rename_i fields hfields
    obtain ⟨targets, htargets, hput⟩ := bind_eq_ok.1 h
    split at hput
    · cases hput
    · exact ⟨fields, targets, hfields, htargets, (Except.ok.inj hput).symm⟩

/-! ## Where writes arrive -/

/-- A writer reaches the index under the name, and it is not blocked. -/
def Opens (store : Store) (name i : String) : Prop :=
  store.writeTarget name = .ok i ∧ store.blocked? i = some false

instance : Decidable (store.Opens name i) := inferInstanceAs (Decidable (_ ∧ _))

theorem opens_iff : store.Opens name i ↔ ∃ held, store.openForWriting name = .ok (i, held) := by
  simp only [openForWriting_eq_ok, Opens, blocked?, Option.map_eq_some_iff]
  constructor
  · rintro ⟨htarget, held, hget, hopen⟩
    exact ⟨held, htarget, hget, hopen⟩
  · rintro ⟨held, htarget, hget, hopen⟩
    exact ⟨htarget, held, hget, hopen⟩

/-- Where writes arrive is the same in stores with the same aliases and blocks. -/
theorem opens_congr (haliases : store.SameAliases store') (hblocks : store.SameBy (·.writeBlocked) store') :
    store'.Opens name i ↔ store.Opens name i := by
  rw [Opens, Opens, haliases.writeTarget_eq, blocked?, blocked?, hblocks i]

/-- The writes among some operations that arrive at an index, in their order. -/
def arriving (store : Store) (i : String) (operations : List BulkOperation) : List Write :=
  (operations.filter fun operation => store.Opens operation.target i).map (·.write)

theorem arriving_congr (haliases : store.SameAliases store')
    (hblocks : store.SameBy (·.writeBlocked) store') :
    store'.arriving i operations = store.arriving i operations := by
  unfold arriving
  rw [List.filter_congr fun operation _ => decide_eq_decide.2 (opens_congr haliases hblocks)]

/-- What a bulk request does to each index: the writes that arrive there are done in their order. -/
theorem get?_bulk : ∀ {operations : List BulkOperation} {store : Store},
    (store.bulk operations).1.get? i =
      (store.get? i).map fun held =>
        { held with documents := replay (store.arriving i operations) held.documents }
  | [], store => by
    show store.get? i = _
    simp [arriving, replay]
  | operation :: operations, store => by
    have haliases : store.SameAliases (store.bulkStep operation).1 :=
      sameBy_bulkStep (fun _ _ => rfl) operation
    have hblocks : store.SameBy (·.writeBlocked) (store.bulkStep operation).1 :=
      sameBy_bulkStep (fun _ _ => rfl) operation
    have hrest : (store.bulk (operation :: operations)).1 =
        ((store.bulkStep operation).1.bulk operations).1 := rfl
    rw [hrest, get?_bulk, arriving_congr haliases hblocks]
    cases hopen : store.openForWriting operation.target with
    | error e =>
      obtain ⟨item, -, hstep⟩ := bulkStep_of_closed hopen
      have hnowhere : ¬ store.Opens operation.target i := by
        rw [opens_iff, hopen]
        rintro ⟨held, hheld⟩
        cases hheld
      rw [hstep, arriving, arriving, List.filter_cons_of_neg (by simpa using hnowhere)]
    | ok reached =>
      obtain ⟨j, held⟩ := reached
      obtain ⟨item, -, hstep⟩ := bulkStep_of_open hopen
      rw [hstep, written, NameMap.get?_insert]
      by_cases hj : j = i
      · subst hj
        have harrives : store.Opens operation.target j := opens_iff.2 ⟨held, hopen⟩
        rw [if_pos rfl, (openForWriting_eq_ok.1 hopen).2.1, arriving, arriving,
          List.filter_cons_of_pos (by simpa using harrives)]
        rfl
      · have helsewhere : ¬ store.Opens operation.target i := by
          rw [opens_iff, hopen]
          rintro ⟨other, hother⟩
          exact hj (Prod.mk.inj (Except.ok.inj hother)).1
        rw [if_neg hj, arriving, arriving, List.filter_cons_of_neg (by simpa using helsewhere)]

/-- A single write is a bulk request of one operation. -/
theorem after_call_eq_bulk (operation : BulkOperation) :
    store.after operation.call = (store.bulk [operation]).1 := by
  obtain ⟨item, -, hstep⟩ := bulkStep_eq { store } operation
  rw [bulk, hstep]
  rfl

end Store

/-! ## Calls that can be repeated -/

/-- To perform the call at once again changes nothing. -/
def EngineCall.Repeatable (c : EngineCall) : Prop :=
  ∀ store : Store, (store.after c).after c = store.after c

namespace EngineCall

open Store

variable {name a : String}

/-- A call that is refused changes nothing, so that it is enough to look at what is performed twice. -/
theorem repeatable_of {c : EngineCall} (h : ∀ store store' store'' : Store,
    store.perform c = .ok store' → store'.perform c = .ok store'' → store'' = store') :
    c.Repeatable := by
  intro store
  rcases store.after_cases c with hkept | hdone
  · rw [hkept, hkept]
  · rcases (store.after c).after_cases c with hkept | hagain
    · exact hkept
    · exact h _ _ _ hdone hagain

theorem repeatable_deleteIndex : (deleteIndex name).Repeatable := by
  refine repeatable_of fun store store' store'' hdone hagain => ?_
  obtain ⟨-, rfl⟩ := deleteIndex_eq_ok.1 hdone
  obtain ⟨hthere, -⟩ := deleteIndex_eq_ok.1 hagain
  exact absurd rfl (NameMap.contains_erase.1 hthere).1

theorem repeatable_putAlias : (putAlias name a).Repeatable := by
  refine repeatable_of fun store store' store'' hdone hagain => ?_
  obtain ⟨held, hget, hcarries⟩ := (carries_putAlias hdone).2 (.inl ⟨rfl, rfl⟩)
  obtain ⟨held', -, hget', ⟨-, rfl⟩ | ⟨hfree, -⟩⟩ := putAlias_eq_ok.1 hagain
  · rfl
  · obtain rfl := Option.some.inj (hget.symm.trans hget')
    rw [hcarries] at hfree
    cases hfree

theorem repeatable_deleteAlias : (deleteAlias name a).Repeatable := by
  refine repeatable_of fun store store' store'' hdone hagain => ?_
  obtain ⟨held, hget, hcarries, -⟩ := deleteAlias_eq_ok.1 hagain
  exact absurd ⟨rfl, rfl⟩ ((carries_deleteAlias hdone).1 ⟨held, hget, hcarries⟩).1

theorem repeatable_putSettings {settings : Json} : (putSettings name settings).Repeatable := by
  refine repeatable_of fun store store' store'' hdone hagain => ?_
  obtain ⟨targets, htargets, hput⟩ := bind_eq_ok.1 hdone
  obtain ⟨targets', htargets', hput'⟩ := bind_eq_ok.1 hagain
  rw [← Except.ok.inj hput']
  exact again_of_modifyAll (sameAliases_putSettings hdone) (withSettings_again settings) htargets htargets'
    (Except.ok.inj hput).symm

theorem repeatable_putMapping {properties : Json} : (putMapping name properties).Repeatable := by
  refine repeatable_of fun store store' store'' hdone hagain => ?_
  obtain ⟨fields, targets, hfields, htargets, hput⟩ := putMapping_of_ok hdone
  obtain ⟨fields', targets', hfields', htargets', hput'⟩ := putMapping_of_ok hagain
  obtain rfl := Option.some.inj (hfields.symm.trans hfields')
  rw [hput']
  exact again_of_modifyAll (sameAliases_putMapping hdone) (withProperties_again fields) htargets htargets'
    hput

theorem repeatable_bulk {operations : List BulkOperation} : (bulk operations).Repeatable := by
  intro store
  refine NameMap.ext_get? fun i => ?_
  show ((store.bulk operations).1.bulk operations).1.get? i = (store.bulk operations).1.get? i
  rw [get?_bulk, arriving_congr (sameBy_bulk fun _ _ => rfl) (sameBy_bulk fun _ _ => rfl), get?_bulk,
    Option.map_map]
  exact congrArg (fun g => (store.get? i).map g) (funext fun held => by
    simp only [Function.comp_apply, replay_replay])

theorem repeatable_call (operation : BulkOperation) : operation.call.Repeatable := by
  intro store
  rw [after_call_eq_bulk, after_call_eq_bulk]
  exact repeatable_bulk store

end EngineCall

/-- **What is sent again does no harm.** Where a call is one that a client sends again when it does not
know what became of it, to perform it twice in a row leaves the same indexes as to perform it once,
whatever the memory. -/
theorem Memory.store_of_resent {call : EngineCall}
    (h : (Remote.Request.ofCall call).delivery = .retryable) (memory : Memory) :
    (answer call (answer call memory).2).2.store = (answer call memory).2.store := by
  have hrepeatable : call.Repeatable := by
    cases call with
    | createIndex | cloneIndex | reindex => cases h
    | deleteIndex => exact EngineCall.repeatable_deleteIndex
    | putAlias => exact EngineCall.repeatable_putAlias
    | deleteAlias => exact EngineCall.repeatable_deleteAlias
    | putSettings => exact EngineCall.repeatable_putSettings
    | putMapping => exact EngineCall.repeatable_putMapping
    | indexDocument name id document => exact EngineCall.repeatable_call (.index name id document)
    | deleteDocument name id => exact EngineCall.repeatable_call (.delete name id)
    | bulk => exact EngineCall.repeatable_bulk
    | _ => exact fun _ => rfl
  rw [answer_store, answer_store]
  exact hrepeatable memory.store

/-- Two indexes carry an alias, and the second one is written to. A bulk request writes, deletes and
writes again under one id there, and deletes what the first one has under it as well. -/
theorem Memory.store_of_resent_bulk :
    let first : StoredIndex := { aliases := .ofList [("site", false)], documents := .ofList [("7", .null)] }
    let second : StoredIndex := { aliases := .ofList [("site", true)] }
    let memory : Memory := { store := .ofList [("a", first), ("b", second)] }
    let call : EngineCall := .bulk
      [.index "site" "7" (.bool true), .delete "site" "7", .delete "a" "7", .index "site" "7" (.bool false)]
    (Remote.Request.ofCall call).delivery = .retryable ∧
      (answer call memory).2.store ≠ memory.store ∧
      (answer call (answer call memory).2).2.store = (answer call memory).2.store := by
  intro first second memory call
  exact ⟨rfl, by decide +kernel, store_of_resent rfl memory⟩

end SiteSearch
