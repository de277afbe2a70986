import SiteSearch.Proofs.Memory.Block

/-!
# How the indexes behind an alias are renewed

Three operations bind a new index to an alias: making a collection, moving it, and cloning an index
under its name. Each makes several calls, and when all of them are done the store shows the same
change (`Store.Grows`): the new index alone is bound to the alias, it is not blocked, and nothing else
has changed. A clone that is refused leaves everything alike (`Store.Alike`).
-/

namespace SiteSearch.Store

variable {store store' s₁ s₂ s₃ s₄ s₅ s₆ : Store} {a b i j old new source : String}

/-- The properties that an index has, where there is one with the name. -/
def properties? (store : Store) (index : String) : Option (NameMap Json) :=
  (store.get? index).map (·.properties)

theorem properties?_insert {held : StoredIndex} :
    properties? (store.insert i held) j = if i = j then some held.properties else store.properties? j := by
  rw [properties?, NameMap.get?_insert]
  split
  · rfl
  · rfl

/-! ## Nothing but documents -/

/-- Every index is bound as before, is blocked as before and has the properties it had. -/
structure Alike (store store' : Store) : Prop where
  carries : ∀ i b, store'.Carries i b ↔ store.Carries i b
  blocked : ∀ i, store'.blocked? i = store.blocked? i
  properties : ∀ i, store'.properties? i = store.properties? i

namespace Alike

theorem refl : store.Alike store := ⟨fun _ _ => .rfl, fun _ => rfl, fun _ => rfl⟩

theorem contains (h : store.Alike store') : store'.contains i = store.contains i := by
  rw [contains_eq_isSome_blocked?, contains_eq_isSome_blocked?, h.blocked]

theorem of_sameBy
    (h : ∀ {β : Type} {f : StoredIndex → β}, (∀ x documents, f { x with documents } = f x) →
      store.SameBy f store') : store.Alike store' where
  carries _ _ := SameAliases.carries_iff (h (f := (·.aliases)) fun _ _ => rfl)
  blocked := h (f := (·.writeBlocked)) fun _ _ => rfl
  properties := h (f := (·.properties)) fun _ _ => rfl

end Alike

/-! ## Blocks -/

/-- The block of an index is set or lifted, and nothing else is changed. -/
structure Sets (store : Store) (source : String) (blocked : Bool) (store' : Store) : Prop where
  there : store.contains source = true
  carries : ∀ i b, store'.Carries i b ↔ store.Carries i b
  blocked : ∀ i, store'.blocked? i = if source = i then some blocked else store.blocked? i
  properties : ∀ i, store'.properties? i = store.properties? i

theorem sets_of_putSettings {blocked : Bool} (h : store.contains source = true)
    (hput : store.putSettings source (.ofFields [("index.blocks.write", .bool blocked)]) = .ok store') :
    store.Sets source blocked store' where
  there := h
  carries _ _ := (sameAliases_putSettings hput).carries_iff
  blocked _ := blocked?_putSettings h hput
  properties := sameBy_putSettings (f := (·.properties)) (fun _ _ _ => rfl) hput

theorem Sets.contains {blocked : Bool} (h : store.Sets source blocked store') :
    store'.contains i = store.contains i := by
  rw [contains_eq_isSome_blocked?, h.blocked]
  split
  · rename_i heq
    rw [← heq, h.there]
    rfl
  · rw [← contains_eq_isSome_blocked?]

/-- A block that is set where there was none and lifted again leaves everything alike. -/
theorem Sets.alike (h : store.Sets source true s₁) (h' : s₁.Sets source false store')
    (hfree : store.blocked? source = some false) : store.Alike store' where
  carries i b := (h'.carries i b).trans (h.carries i b)
  blocked i := by
    rw [h'.blocked, h.blocked]
    split
    · rename_i heq
      rw [← heq, hfree]
    · rfl
  properties i := (h'.properties i).trans (h.properties i)

/-! ## A new index under an alias -/

/-- A new index is bound to an alias in place of all that were, and nothing else has changed. -/
structure Grows (store : Store) (aliasName new : String) (properties : NameMap Json)
    (store' : Store) : Prop where
  fresh : store.contains new = false
  carries : ∀ i b, store'.Carries i b ↔ i = new ∧ b = aliasName ∨ store.Carries i b ∧ b ≠ aliasName
  blocked : ∀ i, store'.blocked? i = if new = i then some false else store.blocked? i
  properties : ∀ i, store'.properties? i = if new = i then some properties else store.properties? i

theorem Grows.contains {properties : NameMap Json} (h : store.Grows a new properties store') :
    store'.contains i = true ↔ i = new ∨ store.contains i = true := by
  rw [contains_eq_isSome_blocked?, h.blocked, contains_eq_isSome_blocked?]
  split
  · rename_i heq
    simp [heq]
  · rename_i hne
    simp [Ne.symm hne]

section

variable {key : CollectionKey} {mapping : Mapping}

/-- What asking for a new index leaves. -/
theorem created (h : store.createIndex new (indexBody key mapping) = .ok s₁) :
    store.contains new = false ∧ (∀ i b, s₁.Carries i b ↔ store.Carries i b) ∧
      (∀ i, s₁.blocked? i = if new = i then some false else store.blocked? i) ∧
      ∀ i, s₁.properties? i =
        if new = i then some (indexOfBody (indexBody key mapping)).properties
        else store.properties? i := by
  obtain ⟨hfresh, -, rfl⟩ := createIndex_eq_ok.1 h
  refine ⟨hfresh, fun i b => ?_, fun i => ?_, fun i => properties?_insert⟩
  · rw [carries_insert_new hfresh, contains_aliases_indexOfBody]
    simp
  · rw [blocked?_insert, writeBlocked_indexOfBody]

theorem contains_created {body : Json} (h : store.createIndex new body = .ok s₁) :
    s₁.contains i = true ↔ i = new ∨ store.contains i = true := by
  obtain ⟨-, -, rfl⟩ := createIndex_eq_ok.1 h
  rw [NameMap.contains_insert, eq_comm]

/-- A collection is made: an index is asked for and bound, where the alias was not. -/
theorem grows_of_making (h₁ : store.createIndex new (indexBody key mapping) = .ok s₁)
    (h₂ : s₁.putAlias new a = .ok store') (hfree : ∀ i, ¬ store.Carries i a) :
    store.Grows a new (indexOfBody (indexBody key mapping)).properties store' := by
  obtain ⟨hfresh, hcarries, hblocked, hproperties⟩ := created h₁
  refine ⟨hfresh, fun i b => ?_, fun i => ?_, fun i => ?_⟩
  · rw [carries_putAlias h₂, hcarries]
    constructor
    · rintro (⟨rfl, rfl⟩ | h)
      · exact .inl ⟨rfl, rfl⟩
      · exact .inr ⟨h, fun heq => hfree i (heq ▸ h)⟩
    · rintro (⟨rfl, rfl⟩ | ⟨h, -⟩)
      · exact .inl ⟨rfl, rfl⟩
      · exact .inr h
  · exact (sameBy_putAlias (f := (·.writeBlocked)) (fun _ _ => rfl) h₂ i).trans (hblocked i)
  · exact (sameBy_putAlias (f := (·.properties)) (fun _ _ => rfl) h₂ i).trans (hproperties i)

/-- A collection is moved: an index is asked for, filled from the old one while that is blocked, and
bound in its place. -/
theorem grows_of_moving {failures : Nat} {body : Json} {reply : ReindexReply}
    (h₁ : store.createIndex new (indexBody key mapping) = .ok s₁) (h₂ : s₁.Sets old true s₂)
    (h₃ : s₂.reindex body failures = .ok (s₃, reply)) (h₄ : s₃.putAlias new a = .ok s₄)
    (h₅ : s₄.deleteAlias old a = .ok s₅) (h₆ : s₅.Sets old false store')
    (hold : ∀ i, store.Carries i a ↔ i = old) (hfree : store.blocked? old = some false) :
    store.Grows a new (indexOfBody (indexBody key mapping)).properties store' := by
  obtain ⟨hfresh, hcarries, hblocked, hproperties⟩ := created h₁
  have hne : new ≠ old := by
    rintro rfl
    rw [contains_iff_blocked?.2 ⟨_, hfree⟩] at hfresh
    cases hfresh
  refine ⟨hfresh, fun i b => ?_, fun i => ?_, fun i => ?_⟩
  · have hcopied : s₃.Carries i b ↔ store.Carries i b := by
      rw [(sameAliases_reindex h₃).carries_iff, h₂.carries, hcarries]
    rw [h₆.carries, carries_deleteAlias h₅, carries_putAlias h₄, hcopied]
    constructor
    · rintro ⟨hnot, ⟨rfl, rfl⟩ | h⟩
      · exact .inl ⟨rfl, rfl⟩
      · refine .inr ⟨h, ?_⟩
        rintro rfl
        exact hnot ⟨((hold i).1 h).symm, rfl⟩
    · rintro (⟨rfl, rfl⟩ | ⟨h, hother⟩)
      · exact ⟨fun heq => hne heq.1.symm, .inl ⟨rfl, rfl⟩⟩
      · exact ⟨fun heq => hother heq.2.symm, .inr h⟩
  · have hcopied : s₅.blocked? i = s₂.blocked? i :=
      (sameBy_deleteAlias (f := (·.writeBlocked)) (fun _ _ => rfl) h₅ i).trans
        ((sameBy_putAlias (f := (·.writeBlocked)) (fun _ _ => rfl) h₄ i).trans
          (sameBy_reindex (f := (·.writeBlocked)) (fun _ _ => rfl) h₃ i))
    rw [h₆.blocked, hcopied, h₂.blocked, hblocked]
    split
    · rename_i heq
      rw [← heq, if_neg hne, hfree]
    · rfl
  · have hcopied : s₅.properties? i = s₂.properties? i :=
      (sameBy_deleteAlias (f := (·.properties)) (fun _ _ => rfl) h₅ i).trans
        ((sameBy_putAlias (f := (·.properties)) (fun _ _ => rfl) h₄ i).trans
          (sameBy_reindex (f := (·.properties)) (fun _ _ => rfl) h₃ i))
    rw [h₆.properties, hcopied, h₂.properties, hproperties]

end

/-- An index is cloned while it is blocked, and the clone is bound to an alias that was not. -/
theorem grows_of_cloning {properties : NameMap Json} (h₁ : store.Sets source true s₁)
    (h₂ : s₁.cloneIndex source new (cloneBody a) = .ok s₂) (h₃ : s₂.Sets new false s₃)
    (h₄ : s₃.Sets source false store') (hfree : store.blocked? source = some false)
    (hsource : store.properties? source = some properties) (hunbound : ∀ i, ¬ store.Carries i a) :
    store.Grows a new properties store' := by
  obtain ⟨held, hheld, -, hfresh₁, rfl⟩ := cloneIndex_eq_ok.1 h₂
  have hfresh : store.contains new = false := h₁.contains.symm.trans hfresh₁
  have hne : source ≠ new := by
    rintro rfl
    rw [contains_iff_blocked?.2 ⟨_, hfree⟩] at hfresh
    cases hfresh
  have hheld' : held.properties = properties := by
    have := h₁.properties source
    rw [hsource, Store.properties?, hheld] at this
    exact Option.some.inj this
  refine ⟨hfresh, fun i b => ?_, fun i => ?_, fun i => ?_⟩
  · rw [h₄.carries, h₃.carries, carries_insert_new hfresh₁, contains_bodyAliases_cloneBody, h₁.carries]
    constructor
    · rintro (⟨rfl, rfl⟩ | h)
      · exact .inl ⟨rfl, rfl⟩
      · exact .inr ⟨h, fun heq => hunbound i (heq ▸ h)⟩
    · rintro (⟨rfl, rfl⟩ | ⟨h, -⟩)
      · exact .inl ⟨rfl, rfl⟩
      · exact .inr h
  · rw [h₄.blocked, h₃.blocked, blocked?_insert, h₁.blocked]
    by_cases hi : source = i
    · subst hi
      rw [if_pos rfl, if_neg hne.symm, hfree]
    · by_cases hj : new = i
      · simp [hj]
      · simp [hi, hj]
  · rw [h₄.properties, h₃.properties, properties?_insert, h₁.properties, hheld']

end SiteSearch.Store
