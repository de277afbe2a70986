import SiteSearch.Proofs.Memory.Answer
import SiteSearch.Proofs.Memory.Bodies
import SiteSearch.Proofs.Service.Calls

/-!
# Generations belong to their alias

In every state that a service brings about, an index that carries an alias is a generation under it
by name (`Store.WellNamed`). A name is a generation under one alias at most, so a call that tends to
one collection takes nothing from the alias of another (`Carries.after_of_tends`).
-/

namespace SiteSearch

namespace Store

variable {store : Store} {c : EngineCall} {a b i : String}

/-- Every index is, by its name, a generation under each alias that it carries. -/
def WellNamed (store : Store) : Prop :=
  ∀ i a, store.Carries i a → IsGeneration a i

/-- A call for a collection binds nothing but generations of that collection to its alias. -/
theorem carries_after_of_tends (hc : c.Tends a) (h : (store.after c).Carries i b) :
    store.Carries i b ∨ b = a ∧ IsGeneration a i := by
  rcases store.after_cases c with heq | hok
  · rw [heq] at h
    exact .inl h
  by_cases hkeep : c.KeepsAliases
  · exact .inl ((sameAliases_after hkeep).carries_iff.1 h)
  cases c with
  | createIndex name body =>
    obtain ⟨-, key, mapping, rfl⟩ := hc
    obtain ⟨hnew, -, heq⟩ := createIndex_eq_ok.1 hok
    rw [heq, carries_insert_new hnew, contains_aliases_indexOfBody] at h
    rcases h with ⟨-, hfalse⟩ | h
    · cases hfalse
    · exact .inl h
  | deleteIndex name =>
    obtain ⟨-, heq⟩ := deleteIndex_eq_ok.1 hok
    rw [heq, carries_erase] at h
    exact .inl h.2
  | putAlias name other =>
    obtain ⟨hname, rfl⟩ := hc
    rcases (carries_putAlias hok).1 h with ⟨rfl, rfl⟩ | h
    · exact .inr ⟨rfl, hname⟩
    · exact .inl h
  | deleteAlias name other => exact .inl ((carries_deleteAlias hok).1 h).2
  | cloneIndex source target body =>
    obtain ⟨hname, rfl⟩ := hc
    obtain ⟨held, -, -, hnew, heq⟩ := cloneIndex_eq_ok.1 hok
    rw [heq, carries_insert_new hnew, contains_bodyAliases_cloneBody] at h
    rcases h with ⟨rfl, rfl⟩ | h
    · exact .inr ⟨rfl, hname⟩
    · exact .inl h
  | _ => exact absurd trivial hkeep

theorem WellNamed.after (hstore : store.WellNamed) (hc : c.Tends a) : (store.after c).WellNamed := by
  intro i b h
  rcases carries_after_of_tends hc h with h | ⟨rfl, hi⟩
  · exact hstore i b h
  · exact hi

/-- A call that takes nothing away leaves every alias where it is. -/
theorem Carries.after_of_builds (h : store.Carries i b) (hc : c.Builds a) :
    (store.after c).Carries i b := by
  rcases store.after_cases c with heq | hok
  · rwa [heq]
  by_cases hkeep : c.KeepsAliases
  · exact (sameAliases_after hkeep).carries_iff.2 h
  cases c with
  | createIndex name body =>
    obtain ⟨hnew, -, heq⟩ := createIndex_eq_ok.1 hok
    rw [heq, carries_insert_new hnew]
    exact .inr h
  | deleteIndex | deleteAlias => exact hc.elim
  | putAlias name other => exact (carries_putAlias hok).2 (.inr h)
  | cloneIndex source target body =>
    obtain ⟨held, -, -, hnew, heq⟩ := cloneIndex_eq_ok.1 hok
    rw [heq, carries_insert_new hnew]
    exact .inr h
  | _ => exact absurd trivial hkeep

/-- A call for one collection takes nothing from the alias of another. -/
theorem Carries.after_of_tends (h : store.Carries i b) (hi : IsGeneration b i) (hc : c.Tends a)
    (hne : b ≠ a) : (store.after c).Carries i b := by
  rcases store.after_cases c with heq | hok
  · rwa [heq]
  by_cases hkeep : c.KeepsAliases
  · exact (sameAliases_after hkeep).carries_iff.2 h
  cases c with
  | deleteIndex name =>
    obtain ⟨-, heq⟩ := deleteIndex_eq_ok.1 hok
    rw [heq, carries_erase]
    refine ⟨?_, h⟩
    rintro rfl
    exact hne (hi.unique hc)
  | deleteAlias name other =>
    refine (carries_deleteAlias hok).2 ⟨?_, h⟩
    rintro ⟨rfl, rfl⟩
    rcases hc with hc | rfl
    · exact hne (hi.unique hc)
    · exact hne rfl
  | createIndex | putAlias | cloneIndex => exact h.after_of_builds (a := a) hc
  | _ => exact absurd trivial hkeep

end Store

/-! ## Runs -/

section

variable {faults : Faults}

theorem Store.WellNamed.leads {m m' : Memory} {t : List (Turn Memory)} {a : String}
    (hstore : m.store.WellNamed) (hl : Leads Memory.answer faults m t m')
    (ht : ∀ x ∈ t.map Turn.exchange, x.1.Tends a) : m'.store.WellNamed :=
  (hl.keeps_store (J := Store.WellNamed) (P := fun x => x.1.Tends a)
    (fun hx hs => hs.after hx) ht hstore).2

/-- No history of a service binds an alias to an index that is no generation under it. -/
theorem History.wellNamed {w w' : World} {requests : List Request} {t : List (Turn Memory)}
    (h : History faults w requests t w') (hstore : w.memory.store.WellNamed) :
    w'.memory.store.WellNamed ∧ w'.service.indexNames = w.service.indexNames :=
  h.keeps_store (J := Store.WellNamed) (fun _ _ _ _ htends _ hs => hs.after htends) rfl hstore

theorem Store.wellNamed_empty {service : Service} : (World.empty service).memory.store.WellNamed := by
  rintro i a ⟨held, hget, -⟩
  cases hget

end

end SiteSearch
