import SiteSearch.Proofs.Service.Lookup
import SiteSearch.Service.Cleanup

/-!
# The course of a sweep

A sweep looks at the alias and at the generations, and then deletes one by one the generations that
the alias is not bound to. `Says.deleteOrphaned` says which those are, that a sweep that succeeds has
deleted every one of them and names them, and which call has failed where it does not.
-/

namespace SiteSearch

/-- The generations that a sweep deletes: those that are neither bound nor the current index. -/
def orphansAmong (names : IndexNames) (key : CollectionKey) (current : Option String)
    (found : List IndexDescription) : List Generation :=
  (generationsAmong names key found).filter fun generation =>
    !(generation.bound || current = some generation.name)

/-- The dialogues of deleting some indexes one by one, until one of them is refused. -/
inductive Sweep.Deletes : List String → List Exchange → Prop where
  | done : Deletes [] []
  | refused {index : String} {rest : List String} (e : EngineError) :
    Deletes (index :: rest) [⟨.deleteIndex index, .error e⟩]
  | deleted {index : String} {rest : List String} {d : List Exchange} (h : Deletes rest d) :
    Deletes (index :: rest) (⟨.deleteIndex index, .ok ()⟩ :: d)

theorem Sweep.Deletes.call_eq {indexes : List String} {d : List Exchange} {x : Exchange}
    (h : Sweep.Deletes indexes d) (hx : x ∈ d) : ∃ i ∈ indexes, x.1 = .deleteIndex i := by
  induction h with
  | done => cases hx
  | refused =>
    rw [List.mem_singleton.1 hx]
    exact ⟨_, List.mem_cons_self, rfl⟩
  | deleted _ ih =>
    rcases List.mem_cons.1 hx with rfl | hx
    · exact ⟨_, List.mem_cons_self, rfl⟩
    · obtain ⟨i, hi, hcall⟩ := ih hx
      exact ⟨i, List.mem_cons_of_mem _ hi, hcall⟩

namespace Operation

variable {service service' : Service} {d : List Exchange} {key : CollectionKey}

/-- A look for the current index fails only where the engine fails it, for another reason than that
nothing is there. -/
theorem Says.boundIndex? {aliasName : String} {r : Except ServiceError (Option String)}
    (h : (boundIndex? aliasName).Says service d r service') :
    ∃ o, d = [⟨.getAlias aliasName, o⟩] ∧ service' = service ∧
      (∀ index, r = .ok (some index) → ∃ bound, o = .ok bound ∧ newestIndex? bound = some index) ∧
      ∀ e, r = .error e → ∃ e', o = .error e' ∧ ∀ what, e' ≠ .notFound what := by
  unfold Operation.boundIndex? at h
  obtain ⟨resolved, service₁, d₁, d₂, rfl, hresolve, hrest⟩ := says_outcome_bind.1 h
  obtain ⟨o, rfl, hresolved, rfl⟩ := hresolve.resolveAlias
  refine ⟨o, ?_⟩
  split at hrest
  · obtain ⟨rfl, rfl, rfl⟩ := says_pure.1 hrest
    refine ⟨rfl, rfl, ?_, by simp⟩
    rintro index ⟨⟩
    exact resolvedIn_eq_ok hresolved.symm
  · obtain ⟨rfl, rfl, rfl⟩ := says_pure.1 hrest
    exact ⟨rfl, rfl, by simp, by simp⟩
  · rename_i e hother
    obtain ⟨rfl, rfl, rfl⟩ := says_throw.1 hrest
    refine ⟨rfl, rfl, by simp, fun _ _ => ?_⟩
    obtain ⟨what, rfl⟩ | hfailed := resolvedIn_eq_error hresolved.symm
    · exact (hother what rfl).elim
    · exact hfailed

/-- A loop that deletes indexes deletes all of them unless it fails. -/
theorem Says.deleteEach {ι : Type} {f : ι → String} {r : Except ServiceError PUnit} :
    ∀ {items : List ι} {service : Service} {d : List Exchange},
      Operation.Says (forIn items PUnit.unit fun i _ => do
        ask (.deleteIndex (f i))
        pure (ForInStep.yield PUnit.unit)) service d r service' →
      service' = service ∧ Sweep.Deletes (items.map f) d ∧
        (∀ u, r = .ok u → d = items.map fun i => ⟨.deleteIndex (f i), .ok ()⟩) ∧
        ∀ e, r = .error e → ∃ i ∈ items, ∃ e', ⟨.deleteIndex (f i), .error e'⟩ ∈ d
  | [], service, d, h => by
    obtain ⟨rfl, rfl, rfl⟩ := says_pure.1 h
    exact ⟨rfl, .done, by simp, by simp⟩
  | i :: items, service, d, h => by
    rw [List.forIn_cons] at h
    obtain ⟨e, hdelete, rfl⟩ | ⟨step, service₁, d₁, d₂, rfl, hdelete, hrest⟩ := says_bind.1 h
    · obtain ⟨e', rfl, -, rfl⟩ | ⟨_, d', rfl, hpure⟩ := says_ask_bind.1 hdelete
      · exact ⟨rfl, .refused e', by simp⟩
      · cases (says_pure.1 hpure).2.1
    · obtain ⟨e', -, heq, -⟩ | ⟨_, d', rfl, hpure⟩ := says_ask_bind.1 hdelete
      · cases heq
      obtain ⟨rfl, ⟨⟩, rfl⟩ := says_pure.1 hpure
      obtain ⟨rfl, hdeletes, hok, hfailed⟩ := Says.deleteEach hrest
      refine ⟨rfl, .deleted hdeletes, fun u hu => ?_, fun e he => ?_⟩
      · rw [hok u hu]
        rfl
      · obtain ⟨j, hj, e', hmem⟩ := hfailed e he
        exact ⟨j, List.mem_cons_of_mem _ hj, e', List.mem_cons_of_mem _ hmem⟩

/-- A sweep that gets as far as deleting deletes orphans only, and all of them unless a deletion
fails. -/
theorem Says.deleteOrphaned {r : Except ServiceError (List String)}
    (h : (deleteOrphaned key).Says service d r service') :
    ∃ bound d', d = ⟨.getAlias (service.aliasName key), bound⟩ :: d' ∧
      (d' = [] ∧ (∃ e, r = .error e) ∧ (∃ e, bound = .error e ∧ ∀ what, e ≠ .notFound what) ∨
      ∃ listed d'', d' = ⟨.getIndices (service.indexNames.generationPattern key), listed⟩ :: d'' ∧
        ((∃ e, foundIn listed = .error e ∧ d'' = [] ∧ r = .error e) ∨
        ∃ found current, foundIn listed = .ok found ∧
          (∀ index, current = some index →
            ∃ indexes, bound = .ok indexes ∧ newestIndex? indexes = some index) ∧
          Sweep.Deletes ((orphansAmong service.indexNames key current found).map (·.name)) d'' ∧
          (∀ swept, r = .ok swept →
            swept = (orphansAmong service.indexNames key current found).map (·.name) ∧
            d'' = (orphansAmong service.indexNames key current found).map fun g =>
              ⟨.deleteIndex g.name, .ok ()⟩) ∧
          ∀ e, r = .error e → ∃ g ∈ orphansAmong service.indexNames key current found,
            ∃ e', ⟨.deleteIndex g.name, .error e'⟩ ∈ d'')) := by
  unfold Operation.deleteOrphaned at h
  rw [says_aliasOf_bind] at h
  obtain ⟨e, hbound, rfl⟩ | ⟨current, service₁, d₁, d₂, rfl, hbound, hrest⟩ := says_bind.1 h
  · obtain ⟨o, rfl, -, -, hfailed⟩ := hbound.boundIndex?
    exact ⟨o, [], rfl, .inl ⟨rfl, ⟨e, rfl⟩, hfailed e rfl⟩⟩
  obtain ⟨o, rfl, rfl, hcurrent, -⟩ := hbound.boundIndex?
  refine ⟨o, d₂, rfl, .inr ?_⟩
  obtain ⟨e, hlist, rfl⟩ | ⟨found, service₂, d₃, d₄, rfl, hlist, hdelete⟩ := says_bind.1 hrest
  · obtain ⟨listed, rfl, hfound, -⟩ := hlist.generations
    rcases hin : foundIn listed with e' | described <;> rw [hin] at hfound <;> cases hfound
    exact ⟨listed, [], rfl, .inl ⟨e, hin, rfl, rfl⟩⟩
  obtain ⟨listed, rfl, hfound, rfl⟩ := hlist.generations
  refine ⟨listed, d₄, rfl, .inr ?_⟩
  rcases hin : foundIn listed with e | described <;> rw [hin] at hfound <;> cases hfound
  refine ⟨described, current, rfl, fun index hindex => hcurrent index (by rw [hindex]), ?_⟩
  obtain ⟨e, hloop, rfl⟩ | ⟨u, service₃, d₅, d₆, rfl, hloop, hend⟩ := says_bind.1 hdelete
  · obtain ⟨-, hdeletes, -, hfailed⟩ := hloop.deleteEach
    exact ⟨hdeletes, by simp, fun _ _ => hfailed e rfl⟩
  · obtain ⟨-, hdeletes, hok, -⟩ := hloop.deleteEach
    rw [says_record_bind, says_record_bind] at hend
    obtain ⟨rfl, rfl, -⟩ := says_pure.1 hend
    rw [List.append_nil]
    refine ⟨hdeletes, ?_, by simp⟩
    rintro swept ⟨⟩
    exact ⟨rfl, hok u rfl⟩

end Operation

end SiteSearch
