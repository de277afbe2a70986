import SiteSearch.Proofs.Memory.Answer
import SiteSearch.Proofs.Memory.Copy
import SiteSearch.Service.WriteBlock

/-!
# Blocks for writers

Whether an index is blocked for writing, and what changes that. Of all calls only two can change the
block of an index that is there: settings that are put to it, and its deletion. A new index may take
nothing from the others (`Store.KeepsBlocks`).
-/

namespace SiteSearch

namespace Store

variable {store store' store'' : Store} {i j : String} {b : Bool}

/-- The block of an index, where there is one with the name. -/
def blocked? (store : Store) (index : String) : Option Bool :=
  (store.get? index).map (·.writeBlocked)

/-- Every index is there still and has the block that it had. -/
def KeepsBlocks (store store' : Store) : Prop :=
  ∀ i, store.contains i = true → store'.blocked? i = store.blocked? i

theorem contains_eq_isSome_blocked? : store.contains i = (store.blocked? i).isSome := by
  rw [NameMap.contains, blocked?, Option.isSome_map]

theorem contains_iff_blocked? : store.contains i = true ↔ ∃ b, store.blocked? i = some b := by
  rw [contains_eq_isSome_blocked?, Option.isSome_iff_exists]

theorem blocked?_insert {held : StoredIndex} :
    blocked? (store.insert i held) j = if i = j then some held.writeBlocked else store.blocked? j := by
  rw [blocked?, NameMap.get?_insert]
  split
  · rfl
  · rfl

namespace KeepsBlocks

theorem refl : store.KeepsBlocks store := fun _ _ => rfl

theorem contains (h : store.KeepsBlocks store') (hi : NameMap.contains store i = true) :
    NameMap.contains store' i = true := by
  obtain ⟨b, hb⟩ := contains_iff_blocked?.1 hi
  exact contains_iff_blocked?.2 ⟨b, (h i hi).trans hb⟩

theorem trans (h : store.KeepsBlocks store') (h' : store'.KeepsBlocks store'') :
    store.KeepsBlocks store'' :=
  fun i hi => (h' i (h.contains hi)).trans (h i hi)

theorem blocked? (h : store.KeepsBlocks store') (hb : store.blocked? i = some b) :
    store'.blocked? i = some b :=
  (h i (contains_iff_blocked?.2 ⟨b, hb⟩)).trans hb

end KeepsBlocks

/-- Another index takes nothing from those there are. -/
theorem keepsBlocks_insert_new {held : StoredIndex} (h : store.contains i = false) :
    store.KeepsBlocks (store.insert i held) := by
  intro j hj
  have hne : i ≠ j := by
    rintro rfl
    rw [h] at hj
    cases hj
  rw [blocked?_insert, if_neg hne]

theorem SameBy.keepsBlocks (h : store.SameBy (·.writeBlocked) store') : store.KeepsBlocks store' :=
  fun i _ => h i

/-! ## Setting and lifting -/

/-- Setting or lifting the block of an index changes the block of no other. -/
theorem blocked?_putSettings (h : store.contains i = true)
    (hput : store.putSettings i (.ofFields [("index.blocks.write", .bool b)]) = .ok store') :
    store'.blocked? j = if i = j then some b else store.blocked? j := by
  obtain ⟨held, hget⟩ := NameMap.contains_eq_true.1 h
  rw [putSettings_eq_ok hget hput, blocked?_insert, withSettings, blockSetting?_block]
  rfl

/-- Settings tell of the block of an index. -/
theorem saysBlocked_getSettings {settings : Json} (h : store.getSettings i = .ok settings) :
    store.blocked? i = some (Operation.saysBlocked settings) := by
  obtain ⟨held, hget, h⟩ := bind_eq_ok.1 h
  obtain rfl := Except.ok.inj h
  have hfield : (Json.ofMap (held.settings.insert "index.blocks.write"
      (.string (if held.writeBlocked then "true" else "false")))).field? "index.blocks.write" =
      some (.string (if held.writeBlocked then "true" else "false")) :=
    NameMap.get?_insert_self
  rw [blocked?, index?_eq_ok.1 hget, Operation.saysBlocked, hfield, Option.map_some]
  cases held.writeBlocked <;> rfl

end Store

/-- A look at settings that is answered tells of the block. -/
theorem Answers.blocked?_eq {faults : Faults} {i : String} {settings : Json} {s s' : Memory}
    (h : Answers Memory.answer faults (.getSettings i) s (.ok settings) s') :
    s.store.blocked? i = some (Operation.saysBlocked settings) :=
  Store.saysBlocked_getSettings h.of_ok.1

/-! ## Calls by what they do to blocks -/

/-- The call changes no block of an index that is there. -/
def EngineCall.KeepsBlocks : EngineCall → Prop
  | deleteIndex _ | putSettings _ _ => False
  | _ => True

theorem Store.keepsBlocks_after {store : Store} {c : EngineCall} (h : c.KeepsBlocks) :
    store.KeepsBlocks (store.after c) := by
  cases c with
  | deleteIndex | putSettings => exact h.elim
  | createIndex name body =>
    refine orKept_of .refl fun store' hok => ?_
    obtain ⟨hnew, -, rfl⟩ := createIndex_eq_ok.1 hok
    exact keepsBlocks_insert_new hnew
  | cloneIndex source target body =>
    refine orKept_of .refl fun store' hok => ?_
    obtain ⟨held, -, -, hnew, rfl⟩ := cloneIndex_eq_ok.1 hok
    exact keepsBlocks_insert_new hnew
  | putAlias => exact orKept_of .refl fun _ hok => (sameBy_putAlias (fun _ _ => rfl) hok).keepsBlocks
  | deleteAlias => exact orKept_of .refl fun _ hok => (sameBy_deleteAlias (fun _ _ => rfl) hok).keepsBlocks
  | putMapping => exact orKept_of .refl fun _ hok => (sameBy_putMapping (fun _ _ => rfl) hok).keepsBlocks
  | reindex body =>
    refine orKept_of .refl fun store' hok => ?_
    obtain ⟨p, hp, rfl⟩ := map_eq_ok.1 hok
    exact (sameBy_reindex (fun _ _ => rfl) hp).keepsBlocks
  | indexDocument => exact orKept_of .refl fun _ hok => (sameBy_indexDocument (fun _ _ => rfl) hok).keepsBlocks
  | deleteDocument =>
    exact orKept_of .refl fun _ hok => (sameBy_deleteDocument (fun _ _ => rfl) hok).keepsBlocks
  | bulk => exact (sameBy_bulk fun _ _ => rfl).keepsBlocks
  | _ => exact .refl

end SiteSearch
