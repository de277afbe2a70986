import SiteSearch.Proofs.Alias.NextTime
import SiteSearch.Proofs.Alias.Ownership
import SiteSearch.Proofs.Memory.Growth

/-!
# Collections in order

The indexes of some collections are in order (`Store.Orderly`) when each of them is named after the
time it was made, is bound to no alias but that of its own collection, and is bound to that only if it
is the newest there; and when none of them is blocked. Then each alias is bound to one index at most
(`Orderly.unique`).

What takes indexes or aliases away keeps the order (`Orderly.after_of_shrinks`), and so does a new
index that takes the place of all that were bound (`Orderly.grows`). It may not be kept halfway: between
the making of a new index and its binding the newest index is not bound.
-/

namespace SiteSearch

theorem EarlierUnder.asymm {a i j : String} (h : EarlierUnder a i j) (hi : IsGeneration a i)
    (hj : IsGeneration a j) : ¬ EarlierUnder a j i := by
  obtain ⟨time, htime⟩ := Option.isSome_iff_exists.1 hi
  obtain ⟨time', htime'⟩ := Option.isSome_iff_exists.1 hj
  intro h'
  exact UInt64.lt_asymm (h time time' htime htime') (h' time' time htime' htime)

namespace Store

variable {store store' : Store} {aliases : List String} {a b i j new : String}

/-- The index is named after an alias and a time. -/
def IsNamed (aliases : List String) (index : String) : Prop :=
  ∃ a ∈ aliases, ∃ time : Timestamp, index = a ++ "_" ++ Text.writeWord time

/-- The indexes of the collections with some aliases are in order. -/
structure Orderly (aliases : List String) (store : Store) : Prop where
  named : ∀ i, store.contains i = true → IsNamed aliases i
  owned : store.WellNamed
  newest : ∀ i a, store.Carries i a → ∀ j, store.contains j = true → j ≠ i → EarlierUnder a j i
  free : ∀ i, store.blocked? i ≠ some true

/-- Indexes may have been deleted, aliases taken away and blocks lifted, and nothing has been added. -/
structure Shrinks (store store' : Store) : Prop where
  contains : ∀ i, store'.contains i = true → store.contains i = true
  carries : ∀ i b, store'.Carries i b → store.Carries i b
  blocked : ∀ i, store'.blocked? i = some true → store.blocked? i = some true

theorem Shrinks.refl : store.Shrinks store := ⟨fun _ => id, fun _ _ => id, fun _ => id⟩

theorem Alike.shrinks (h : store.Alike store') : store.Shrinks store' where
  contains _ hi := h.contains ▸ hi
  carries i b := (h.carries i b).1
  blocked i hi := (h.blocked i) ▸ hi

namespace Orderly

theorem empty : Orderly aliases {} where
  named _ hi := by cases hi
  owned _ _ h := by
    obtain ⟨held, hget, -⟩ := h
    cases hget
  newest _ _ h := by
    obtain ⟨held, hget, -⟩ := h
    cases hget
  free _ h := by cases h

/-- The time in the name of an index tells its whole name. -/
theorem name_eq (h : store.Orderly aliases) (hi : store.contains i = true) {time : Timestamp}
    (htime : generationTimeUnder? a i = some time) : i = a ++ "_" ++ Text.writeWord time := by
  obtain ⟨b, -, time', rfl⟩ := h.named i hi
  obtain rfl : a = b :=
    IsGeneration.unique (Option.isSome_iff_exists.2 ⟨time, htime⟩) isGeneration_append
  rw [generationTimeUnder?_append] at htime
  rw [Option.some.inj htime]

theorem unblocked (h : store.Orderly aliases) (hi : store.contains i = true) :
    store.blocked? i = some false := by
  obtain ⟨b, hb⟩ := contains_iff_blocked?.1 hi
  cases b with
  | false => exact hb
  | true => exact absurd hb (h.free i)

/-- An alias is bound to one index at most. -/
theorem unique (h : store.Orderly aliases) (hi : store.Carries i a) (hj : store.Carries j a) :
    i = j := by
  by_cases heq : i = j
  · exact heq
  · have hearlier := h.newest j a hj i hi.contains heq
    exact absurd (h.newest i a hi j hj.contains (Ne.symm heq))
      (hearlier.asymm (h.owned i a hi) (h.owned j a hj))

/-- So an index that is bound to an alias is the only one. -/
theorem alone (h : store.Orderly aliases) (hi : store.Carries i a) :
    ∀ j, store.Carries j a ↔ j = i :=
  fun _ => ⟨fun hj => h.unique hj hi, fun hj => hj ▸ hi⟩

/-- No index has the name of an alias that is not named like a generation. -/
theorem unnamed (h : store.Orderly aliases) (hshape : ∀ b ∈ aliases, ¬ IsGeneration b a) :
    store.contains a = false := by
  rw [Bool.eq_false_iff]
  intro hcontains
  obtain ⟨b, hb, time, hname⟩ := h.named a hcontains
  refine hshape b hb ?_
  rw [hname]
  exact isGeneration_append

/-- Neither has an index that is made beside those there are. -/
theorem unnamed_beside {store' : Store} (h : store.Orderly aliases)
    (hshape : ∀ b ∈ aliases, ¬ IsGeneration b a) (hnew : IsGeneration a new)
    (hnames : ∀ i, store'.contains i = true → i = new ∨ store.contains i = true) :
    store'.contains a = false := by
  rw [Bool.eq_false_iff]
  intro hcontains
  rcases hnames a hcontains with rfl | hcontains
  · exact not_isGeneration_self hnew
  · rw [h.unnamed hshape] at hcontains
    cases hcontains

/-- The name that is given to a new generation is later than those there are. -/
theorem later {service : Service} {key : CollectionKey} {found : List IndexDescription}
    (h : store.Orderly aliases)
    (hfound : store.describe (service.indexNames.generationPattern key) = .ok found)
    (hnew : store.contains (service.newName key found) = false) :
    ∀ i, store.contains i = true → EarlierUnder (service.aliasName key) i (service.newName key found) :=
  fun _ hi => earlier_of_newName hfound hi (fun _ => h.name_eq hi) hnew

theorem shrinks (h : store.Orderly aliases) (hs : store.Shrinks store') : store'.Orderly aliases where
  named i hi := h.named i (hs.contains i hi)
  owned i b hi := h.owned i b (hs.carries i b hi)
  newest i b hi j hj hne := h.newest i b (hs.carries i b hi) j (hs.contains j hj) hne
  free i hi := h.free i (hs.blocked i hi)

/-- A new index that is later than those there are takes the place of all that were bound. -/
theorem grows {properties : NameMap Json} (h : store.Orderly aliases)
    (hg : store.Grows a new properties store') (hnamed : IsNamed aliases new)
    (hnew : IsGeneration a new)
    (hlater : ∀ j, store.contains j = true → EarlierUnder a j new) : store'.Orderly aliases where
  named i hi := by
    rcases hg.contains.1 hi with rfl | hi
    · exact hnamed
    · exact h.named i hi
  owned i b hi := by
    rcases (hg.carries i b).1 hi with ⟨rfl, rfl⟩ | ⟨hi, -⟩
    · exact hnew
    · exact h.owned i b hi
  newest i b hi j hj hne := by
    rcases (hg.carries i b).1 hi with ⟨rfl, rfl⟩ | ⟨hi, hother⟩
    · rcases hg.contains.1 hj with rfl | hj
      · exact absurd rfl hne
      · exact hlater j hj
    · rcases hg.contains.1 hj with rfl | hj
      · intro time time' htime
        exact absurd (hnew.unique (Option.isSome_iff_exists.2 ⟨time, htime⟩)) (Ne.symm hother)
      · exact h.newest i b hi j hj hne
  free i hi := by
    rw [hg.blocked] at hi
    split at hi
    · cases hi
    · exact h.free i hi

end Orderly

end Store

/-! ## Calls that take away -/

/-- The call adds no index, binds none and blocks none. -/
def EngineCall.Shrinks : EngineCall → Prop
  | createIndex _ _ | cloneIndex _ _ _ | putAlias _ _ | putSettings _ _ => False
  | _ => True

namespace Store

variable {store store' : Store} {i : String}

theorem shrinks_erase : store.Shrinks (NameMap.erase store i) where
  contains j hj := (NameMap.contains_erase.1 hj).2
  carries j b hj := (carries_erase.1 hj).2
  blocked j hj := by
    rw [blocked?, NameMap.get?_erase] at hj
    split at hj
    · cases hj
    · exact hj

theorem SameAliases.shrinks (h : store.SameAliases store')
    (hblocked : store.SameBy (·.writeBlocked) store') : store.Shrinks store' where
  contains _ hi := (SameBy.contains h) ▸ hi
  carries _ _ := h.carries_iff.1
  blocked i hi := (hblocked i).symm.trans hi

theorem shrinks_after {c : EngineCall} (h : c.Shrinks) : store.Shrinks (store.after c) := by
  cases c with
  | createIndex | cloneIndex | putAlias | putSettings => exact h.elim
  | deleteIndex name =>
    refine orKept_of .refl fun store' hok => ?_
    obtain ⟨-, rfl⟩ := deleteIndex_eq_ok.1 hok
    exact shrinks_erase
  | deleteAlias name a =>
    refine orKept_of .refl fun store' hok => ⟨fun i hi => ?_, fun i b hi => ?_, fun i hi => ?_⟩
    · rw [← (sameBy_deleteAlias (f := (·.writeBlocked)) (fun _ _ => rfl) hok).contains]
      exact hi
    · exact ((carries_deleteAlias hok).1 hi).2
    · exact (sameBy_deleteAlias (f := (·.writeBlocked)) (fun _ _ => rfl) hok i).symm.trans hi
  | putMapping =>
    exact orKept_of .refl fun _ hok =>
      (sameAliases_putMapping hok).shrinks (sameBy_putMapping (fun _ _ => rfl) hok)
  | reindex body =>
    refine orKept_of .refl fun store' hok => ?_
    obtain ⟨p, hp, rfl⟩ := map_eq_ok.1 hok
    exact (Alike.of_sameBy fun hf => sameBy_reindex hf hp).shrinks
  | indexDocument =>
    exact orKept_of .refl fun _ hok => (Alike.of_sameBy fun hf => sameBy_indexDocument hf hok).shrinks
  | deleteDocument =>
    exact orKept_of .refl fun _ hok =>
      (Alike.of_sameBy fun hf => sameBy_deleteDocument hf hok).shrinks
  | bulk => exact (Alike.of_sameBy fun hf => sameBy_bulk hf).shrinks
  | _ => exact .refl

theorem Orderly.after_of_shrinks {aliases : List String} {c : EngineCall}
    (h : store.Orderly aliases) (hc : c.Shrinks) : (store.after c).Orderly aliases :=
  h.shrinks (shrinks_after hc)

end Store

end SiteSearch
