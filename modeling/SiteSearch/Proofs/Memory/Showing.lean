import SiteSearch.Proofs.Memory.Types

/-!
# What is shown behind an alias

The engine in memory reports the fields of the first index that readers reach under a name
(`Store.reported?`). It goes on reporting the same as long as readers reach the same indexes and these
keep their properties (`Store.ShowsAlike`). A call that does not touch an alias changes neither
(`Store.showsAlike_after`).
-/

namespace SiteSearch

namespace Store

variable {store store' store'' : Store} {a i name : String}

/-- The fields that are reported of the mapping behind a name. -/
def reported? (store : Store) (name : String) : Option Signature :=
  match store.getMapping name with
  | .ok live => some (.ofProperties live)
  | .error _ => none

/-- What is reported under a name is what the first index has that readers reach. -/
theorem reported?_of_readTargets {first : String} {rest : List String} {properties : NameMap Json}
    (h : store.readTargets name = .ok (first :: rest))
    (hfirst : store.properties? first = some properties) :
    store.reported? name = some (.ofProperties (.ofMap properties)) := by
  rw [reported?, getMapping_of_readTargets h hfirst]

/-- Readers under a name reach the same indexes in both stores, and these have the same properties. -/
structure ShowsAlike (store : Store) (name : String) (store' : Store) : Prop where
  contains : store'.contains name = store.contains name
  carries : ∀ i, store'.Carries i name ↔ store.Carries i name
  properties : ∀ i, store.Reads name i → store'.properties? i = store.properties? i

namespace ShowsAlike

theorem refl : store.ShowsAlike a store := ⟨rfl, fun _ => .rfl, fun _ _ => rfl⟩

theorem reads_iff (h : store.ShowsAlike a store') : store'.Reads a i ↔ store.Reads a i := by
  have hcontains := h.contains
  cases ha : store.contains a with
  | true => rw [reads_of_contains ha, reads_of_contains (hcontains.trans ha)]
  | false => rw [reads_iff_carries ha, reads_iff_carries (hcontains.trans ha), h.carries]

theorem trans (h : store.ShowsAlike a store') (h' : store'.ShowsAlike a store'') :
    store.ShowsAlike a store'' where
  contains := h'.contains.trans h.contains
  carries i := (h'.carries i).trans (h.carries i)
  properties i hi := (h'.properties i (h.reads_iff.2 hi)).trans (h.properties i hi)

theorem aliasExists (h : store.ShowsAlike a store') : store'.aliasExists a = store.aliasExists a := by
  rw [Store.aliasExists, Store.aliasExists, carriers_congr h.carries]

theorem reported (h : store.ShowsAlike a store') : store'.reported? a = store.reported? a := by
  have htargets : store'.readTargets a = store.readTargets a := by
    rw [readTargets, readTargets, carriers_congr h.carries, h.contains]
  cases hread : store.readTargets a with
  | error e =>
    rw [reported?, reported?, getMapping, getMapping, htargets, hread]
    rfl
  | ok targets =>
    cases targets with
    | nil =>
      rw [reported?, reported?, getMapping, getMapping, htargets, hread]
      rfl
    | cons first rest =>
      have hfirst : store.Reads a first := ⟨_, hread, List.mem_cons_self⟩
      obtain ⟨held, hget⟩ := NameMap.contains_eq_true.1 hfirst.contains
      have hproperties : store.properties? first = some held.properties := by
        rw [properties?, hget]
        rfl
      rw [reported?_of_readTargets hread hproperties,
        reported?_of_readTargets (htargets.trans hread) ((h.properties _ hfirst).trans hproperties)]

theorem of_same (haliases : store.SameAliases store')
    (hproperties : store.SameBy (·.properties) store') : store.ShowsAlike a store' where
  contains := haliases.contains_eq
  carries _ := haliases.carries_iff
  properties i _ := hproperties i

end ShowsAlike

/-- Nothing is reported under a name that is neither an index nor an alias. -/
theorem reported?_eq_none (hname : store.contains a = false) (hunbound : store.aliasExists a = false) :
    store.reported? a = none := by
  have hread : store.readTargets a = .error (noSuchIndex a) := by
    rw [Store.aliasExists, Bool.not_eq_false', List.isEmpty_iff] at hunbound
    rw [readTargets, hname, hunbound]
    rfl
  rw [reported?, getMapping, hread]
  rfl

/-- Under an alias that is bound there is something to report. -/
theorem exists_first_read (h : store.aliasExists a = true) :
    ∃ first rest properties, store.readTargets a = .ok (first :: rest) ∧
      store.properties? first = some properties := by
  obtain ⟨first, rest, htargets⟩ := exists_readTargets h
  have hfirst : store.Reads a first := ⟨_, htargets, List.mem_cons_self⟩
  obtain ⟨held, hget⟩ := NameMap.contains_eq_true.1 hfirst.contains
  exact ⟨first, rest, held.properties, htargets, by rw [properties?, hget]; rfl⟩

theorem exists_reported (h : store.aliasExists a = true) :
    ∃ signature, store.reported? a = some signature := by
  obtain ⟨first, rest, properties, htargets, hfirst⟩ := exists_first_read h
  exact ⟨_, reported?_of_readTargets htargets hfirst⟩

/-- Behind a mapping that is put, its fields are reported together with those that were there. -/
theorem reported?_putMapping {mapping : Mapping} (ha : store.aliasExists a = true)
    (h : store.putMapping a mapping.properties = .ok store') :
    ∃ before after, store.reported? a = some before ∧ store'.reported? a = some after ∧
      ∀ name, name ∈ after.names ↔ name ∈ before.names ∨ name ∈ mapping.signature.names := by
  obtain ⟨first, rest, properties, htargets, hfirst⟩ := exists_first_read ha
  have haliases := sameAliases_putMapping h
  have hnodup : (first :: rest).Nodup := (rising_readTargets htargets).imp fun hlt => String.ne_of_lt hlt
  rw [putMapping_properties, htargets] at h
  simp only [Except.bind] at h
  split at h
  · cases h
  obtain rfl := Except.ok.inj h
  refine ⟨_, _, reported?_of_readTargets htargets hfirst,
    reported?_of_readTargets (haliases.readTargets_eq.trans htargets)
      (by rw [properties?_withProperties hnodup, if_pos List.mem_cons_self, hfirst]; rfl), fun name => ?_⟩
  rw [Signature.mem_ofProperties_ofMap, Signature.mem_ofProperties_ofMap, NameMap.contains_foldl_insert,
    Mapping.mem_signature]
  refine or_congr_right ?_
  rw [← NameMap.names, NameMap.mem_names, Mapping.specs, NameMap.contains_ofList, List.map_map]
  rfl

end Store

/-! ## Calls -/

/-- The call leaves an alias and the indexes behind it alone. -/
def EngineCall.Spares (store : Store) (a : String) : EngineCall → Prop
  | createIndex name body => name ≠ a ∧ (Store.bodyAliases body).contains a = false
  | deleteIndex name => name ≠ a ∧ ¬ store.Carries name a
  | putAlias _ b | deleteAlias _ b => b ≠ a
  | cloneIndex _ _ _ | putMapping _ _ => False
  | _ => True

namespace Store

variable {store : Store} {a : String}

theorem showsAlike_after {c : EngineCall} (h : c.Spares store a) :
    store.ShowsAlike a (store.after c) := by
  cases c with
  | cloneIndex | putMapping => exact h.elim
  | createIndex name body =>
    refine orKept_of .refl fun store' hok => ?_
    obtain ⟨hne, hbody⟩ := h
    obtain ⟨hfresh, -, rfl⟩ := createIndex_eq_ok.1 hok
    refine ⟨?_, fun i => ?_, fun i hi => ?_⟩
    · rw [Bool.eq_iff_iff, NameMap.contains_insert]
      exact or_iff_right hne
    · rw [carries_insert_new hfresh]
      refine or_iff_right ?_
      rintro ⟨-, hgiven⟩
      rw [indexOfBody, hbody] at hgiven
      cases hgiven
    · rw [properties?_insert, if_neg]
      rintro rfl
      rw [hi.contains] at hfresh
      cases hfresh
  | deleteIndex name =>
    refine orKept_of .refl fun store' hok => ?_
    obtain ⟨hne, hfree⟩ := h
    obtain ⟨-, rfl⟩ := deleteIndex_eq_ok.1 hok
    have hother : ∀ i, store.Reads a i → name ≠ i := by
      rintro i hi rfl
      cases ha : store.contains a with
      | true => exact hne ((reads_of_contains ha).1 hi)
      | false => exact hfree ((reads_iff_carries ha).1 hi)
    refine ⟨?_, fun i => ?_, fun i hi => ?_⟩
    · rw [Bool.eq_iff_iff, NameMap.contains_erase]
      exact and_iff_right hne
    · rw [carries_erase]
      refine and_iff_right_of_imp ?_
      rintro hi rfl
      exact hfree hi
    · rw [properties?, NameMap.get?_erase, if_neg (hother i hi), ← properties?]
  | putAlias name b =>
    refine orKept_of .refl fun store' hok => ⟨?_, fun i => ?_, fun i _ => ?_⟩
    · exact SameBy.contains (sameBy_putAlias (f := fun _ => ()) (fun _ _ => rfl) hok)
    · rw [carries_putAlias hok]
      exact or_iff_right fun heq => h heq.2
    · exact sameBy_putAlias (fun _ _ => rfl) hok i
  | deleteAlias name b =>
    refine orKept_of .refl fun store' hok => ⟨?_, fun i => ?_, fun i _ => ?_⟩
    · exact SameBy.contains (sameBy_deleteAlias (f := fun _ => ()) (fun _ _ => rfl) hok)
    · rw [carries_deleteAlias hok]
      exact and_iff_right fun heq => h heq.2
    · exact sameBy_deleteAlias (fun _ _ => rfl) hok i
  | _ => exact .of_same (sameAliases_after trivial) (sameProperties_after trivial)

/-- Calls that spare the alias where they succeed change nothing that is shown behind it. -/
theorem showsAlike_leads {faults : Faults} {m m' : Memory} {t : List (Turn Memory)}
    (hl : Leads Memory.answer faults m t m') (hfaults : faults ≠ .any)
    (ht : ∀ x ∈ t.map Turn.exchange, x.2.isOk → x.1.Spares m.store a) :
    m.store.ShowsAlike a m'.store := by
  refine (hl.keeps (J := fun s => m.store.ShowsAlike a s.store)
    (P := fun x => x.2.isOk → x.1.Spares m.store a) (fun {c o s s'} hx hs ha => ?_) ht .refl).2
  cases o with
  | error e => rwa [ha.store_of_error hfaults]
  | ok answer =>
    have hspares : c.Spares s.store a := by
      have hstart := hx rfl
      cases c with
      | deleteIndex => exact ⟨hstart.1, fun hi => hstart.2 ((hs.carries _).1 hi)⟩
      | _ => exact hstart
    rcases ha.store with heq | heq
    · rwa [heq]
    · rw [heq]
      exact hs.trans (showsAlike_after hspares)

end Store

end SiteSearch
