import SiteSearch.Proofs.Collection.Generation
import SiteSearch.Proofs.Service.Lookup
import SiteSearch.Service.Cleanup

/-!
# The course of a deletion

A collection is deleted generation by generation. `Says.deleteCollection` says that no generation is
deleted before every alias that it was found with has been taken from it.
-/

namespace SiteSearch.Operation

variable {service service' : Service} {d : List Exchange} {key : CollectionKey}

/-- A loop that takes aliases from an index takes all of them unless it fails. -/
theorem Says.unbindEach {index : String} {r : Except ServiceError PUnit} :
    ∀ {aliases : List String} {service : Service} {d : List Exchange},
      Operation.Says (forIn aliases PUnit.unit fun a _ => do
        ask (.deleteAlias index a)
        pure (ForInStep.yield PUnit.unit)) service d r service' →
      (∀ x ∈ d, ∃ a, x.1 = .deleteAlias index a) ∧
        ∀ u, r = .ok u → ∀ a ∈ aliases, ⟨.deleteAlias index a, .ok ()⟩ ∈ d
  | [], service, d, h => by
    obtain ⟨rfl, rfl, rfl⟩ := says_pure.1 h
    simp
  | a :: aliases, service, d, h => by
    rw [List.forIn_cons] at h
    obtain ⟨e, hunbind, rfl⟩ | ⟨step, service₁, d₁, d₂, rfl, hunbind, hrest⟩ := says_bind.1 h
    · obtain ⟨e', rfl, -, rfl⟩ | ⟨_, d', rfl, hpure⟩ := says_ask_bind.1 hunbind
      · simp
      · cases (says_pure.1 hpure).2.1
    · obtain ⟨e', -, heq, -⟩ | ⟨_, d', rfl, hpure⟩ := says_ask_bind.1 hunbind
      · cases heq
      obtain ⟨rfl, ⟨⟩, rfl⟩ := says_pure.1 hpure
      obtain ⟨hcalls, hall⟩ := Says.unbindEach hrest
      refine ⟨fun x hx => ?_, fun u hu b hb => ?_⟩
      · rcases List.mem_cons.1 hx with rfl | hx
        · exact ⟨a, rfl⟩
        · exact hcalls x hx
      · rcases List.mem_cons.1 hb with rfl | hb
        · exact List.mem_cons_self
        · exact List.mem_cons_of_mem _ (hall u hu b hb)

/-- An index is deleted behind its aliases, each of which has been taken from it. -/
theorem Says.deleteWithAliases {index : IndexDescription} {r : Except ServiceError Unit}
    (h : (deleteWithAliases index).Says service d r service') :
    ∀ x ∈ d, (∃ a, x.1 = .deleteAlias index.name a) ∨
      x.1 = .deleteIndex index.name ∧
        ∀ a ∈ index.aliases, ⟨.deleteAlias index.name a, .ok ()⟩ ∈ d := by
  unfold Operation.deleteWithAliases at h
  obtain ⟨e, hunbind, rfl⟩ | ⟨u, service₁, d₁, d₂, rfl, hunbind, hdelete⟩ := says_bind.1 h
  · exact fun x hx => .inl (hunbind.unbindEach.1 x hx)
  obtain ⟨hcalls, hall⟩ := hunbind.unbindEach
  obtain ⟨o, rfl, -, -⟩ := says_ask.1 hdelete
  intro x hx
  rcases List.mem_append.1 hx with hx | hx
  · exact .inl (hcalls x hx)
  · rw [List.mem_singleton.1 hx]
    exact .inr ⟨rfl, fun a ha => List.mem_append_left _ (hall u rfl a ha)⟩

theorem Says.deleteEachWithAliases {r : Except ServiceError PUnit} :
    ∀ {own : List IndexDescription} {service : Service} {d : List Exchange},
      Operation.Says (forIn own PUnit.unit fun index _ => do
        Operation.deleteWithAliases index
        pure (ForInStep.yield PUnit.unit)) service d r service' →
      ∀ x ∈ d, ∃ index ∈ own, (∃ a, x.1 = .deleteAlias index.name a) ∨
        x.1 = .deleteIndex index.name ∧
          ∀ a ∈ index.aliases, ⟨.deleteAlias index.name a, .ok ()⟩ ∈ d
  | [], service, d, h => by
    obtain ⟨rfl, -⟩ := says_pure.1 h
    simp
  | index :: own, service, d, h => by
    rw [List.forIn_cons] at h
    obtain ⟨e, hround, rfl⟩ | ⟨step, service₁, d₁, d₂, rfl, hround, hrest⟩ := says_bind.1 h
    · obtain ⟨e', hdelete, -⟩ | ⟨_, _, d₁, d₂, rfl, hdelete, hpure⟩ := says_bind.1 hround
      · exact fun x hx => ⟨index, List.mem_cons_self, hdelete.deleteWithAliases x hx⟩
      · cases (says_pure.1 hpure).2.1
    obtain ⟨e', -, heq⟩ | ⟨_, _, d₁, d₃, rfl, hdelete, hpure⟩ := says_bind.1 hround
    · cases heq
    obtain ⟨rfl, ⟨⟩, rfl⟩ := says_pure.1 hpure
    intro x hx
    rcases List.mem_append.1 hx with hx | hx
    · rw [List.append_nil] at hx
      refine ⟨index, List.mem_cons_self, (hdelete.deleteWithAliases x hx).imp_right ?_⟩
      exact fun hdeleted => ⟨hdeleted.1, fun a ha => by simp [hdeleted.2 a ha]⟩
    · obtain ⟨other, hother, hcall⟩ := Says.deleteEachWithAliases hrest x hx
      refine ⟨other, List.mem_cons_of_mem _ hother, hcall.imp_right ?_⟩
      exact fun hdeleted => ⟨hdeleted.1, fun a ha => List.mem_append_right _ (hdeleted.2 a ha)⟩

/-- A deletion looks at the generations first. What it deletes then are generations that it has found,
each behind all the aliases that it was found with. -/
theorem Says.deleteCollection {r : Except ServiceError (List String)}
    (h : (deleteCollection key).Says service d r service') :
    ∃ listed d', d = ⟨.getIndices (service.indexNames.generationPattern key), listed⟩ :: d' ∧
      (d' = [] ∨ ∃ found, foundIn listed = .ok found ∧
        ∀ x ∈ d', ∃ index ∈ found, IsGeneration (service.aliasName key) index.name ∧
          ((∃ a, x.1 = .deleteAlias index.name a) ∨
            x.1 = .deleteIndex index.name ∧
              ∀ a ∈ index.aliases, ⟨.deleteAlias index.name a, .ok ()⟩ ∈ d')) := by
  unfold Operation.deleteCollection at h
  obtain ⟨e, hlist, rfl⟩ | ⟨found, service₁, d₁, d₂, rfl, hlist, hrest⟩ := says_bind.1 h
  · obtain ⟨listed, rfl, -, -⟩ := hlist.coveredIndexes
    exact ⟨listed, [], rfl, .inl rfl⟩
  obtain ⟨listed, rfl, hfound, rfl⟩ := hlist.coveredIndexes
  refine ⟨listed, d₂, rfl, .inr ⟨found, hfound.symm, ?_⟩⟩
  rw [says_get_bind] at hrest
  have hown : ∀ {d : List Exchange} {r : Except ServiceError PUnit} {service₂ : Service},
      Operation.Says (forIn (found.filter fun index => service₁.indexNames.isGenerationOf key index.name)
        PUnit.unit fun index _ => do
          Operation.deleteWithAliases index
          pure (ForInStep.yield PUnit.unit)) service₁ d r service₂ →
      ∀ x ∈ d, ∃ index ∈ found, IsGeneration (service₁.aliasName key) index.name ∧
        ((∃ a, x.1 = .deleteAlias index.name a) ∨
          x.1 = .deleteIndex index.name ∧
            ∀ a ∈ index.aliases, ⟨.deleteAlias index.name a, .ok ()⟩ ∈ d) := by
    intro d r service₂ hloop x hx
    obtain ⟨index, hindex, hcall⟩ := hloop.deleteEachWithAliases x hx
    obtain ⟨hfound, hgeneration⟩ := List.mem_filter.1 hindex
    exact ⟨index, hfound, hgeneration, hcall⟩
  obtain ⟨e, hloop, rfl⟩ | ⟨u, service₂, d₃, d₄, rfl, hloop, hend⟩ := says_bind.1 hrest
  · exact hown hloop
  · unfold forgetSignature at hend
    rw [says_changeCache_bind, says_record_bind, says_record_bind] at hend
    obtain ⟨rfl, -⟩ := says_pure.1 hend
    rw [List.append_nil]
    exact hown hloop

end SiteSearch.Operation
