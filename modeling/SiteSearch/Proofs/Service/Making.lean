import SiteSearch.Proofs.Memory.Look
import SiteSearch.Proofs.Service.History

/-!
# The course of making a collection

A collection that is asked for is made where its alias is not bound: an index is asked for, and it is
bound. `Says.makes` says that there is no other way, and that the signature is remembered behind it;
`Runs.making` says what this does to the store of the engine.
-/

namespace SiteSearch

/-- Exchanges at which no collection is made: looks, and a new index that is refused. -/
inductive Making.Scouts (key : CollectionKey) (mapping : Mapping) : Exchange → Prop where
  | aliasExists {name : String} (o : (EngineCall.aliasExists name).Outcome) :
    Scouts key mapping ⟨.aliasExists name, o⟩
  | getIndices {pattern : String} (o : (EngineCall.getIndices pattern).Outcome) :
    Scouts key mapping ⟨.getIndices pattern, o⟩
  | refused (index : String) (e : EngineError) :
    Scouts key mapping ⟨.createIndex index (indexBody key mapping), .error e⟩

theorem Making.Scouts.idle {key : CollectionKey} {mapping : Mapping} {x : Exchange}
    (h : Making.Scouts key mapping x) : x.Idle := by
  cases h with
  | aliasExists | getIndices => exact .looks (fun _ => rfl) _
  | refused _ e => exact .failed e

/-- The ends of the dialogues of making a collection, once a new index has a name. -/
inductive Making.Ends (service : Service) (key : CollectionKey) (index : String) :
    List Exchange → Except ServiceError Bool → Prop where
  /-- The new index is refused, and the alias is bound by then. -/
  | lost (e : EngineError) :
    Ends service key index [⟨.createIndex index (indexBody key service.mapping), .error e⟩,
      ⟨.aliasExists (service.aliasName key), .ok true⟩] (.ok false)
  /-- The new index is refused, and the alias is not bound even then. -/
  | refused (e : EngineError) {o : (EngineCall.aliasExists _).Outcome} (ho : o ≠ .ok true) :
    Ends service key index [⟨.createIndex index (indexBody key service.mapping), .error e⟩,
      ⟨.aliasExists (service.aliasName key), o⟩] (.error (.ofEngine e))
  /-- The new index is made, and is to be bound. -/
  | made (o : (EngineCall.putAlias _ _).Outcome) :
    Ends service key index [⟨.createIndex index (indexBody key service.mapping), .ok ()⟩,
      ⟨.putAlias index (service.aliasName key), o⟩] ((Operation.resultOf o).map fun _ => true)

/-- The dialogues of making a collection, each with its result. -/
inductive Making.Goes (service : Service) (key : CollectionKey) :
    List Exchange → Except ServiceError Bool → Prop where
  /-- The look at the alias has failed. -/
  | unlooked (e : EngineError) :
    Goes service key [⟨.aliasExists (service.aliasName key), .error e⟩] (.error (.ofEngine e))
  /-- The alias is bound already. -/
  | found : Goes service key [⟨.aliasExists (service.aliasName key), .ok true⟩] (.ok false)
  /-- The look at the generations has failed. -/
  | unlisted {listed : (EngineCall.getIndices _).Outcome} {e : ServiceError}
    (h : foundIn listed = .error e) :
    Goes service key [⟨.aliasExists (service.aliasName key), .ok false⟩,
      ⟨.getIndices (service.indexNames.generationPattern key), listed⟩] (.error e)
  /-- A new index is named after the generations that are found. -/
  | named {listed : (EngineCall.getIndices _).Outcome} {found : List IndexDescription}
    {d : List Exchange} {r : Except ServiceError Bool} (h : foundIn listed = .ok found)
    (hends : Making.Ends service key (service.newName key found) d r) :
    Goes service key (⟨.aliasExists (service.aliasName key), .ok false⟩ ::
      ⟨.getIndices (service.indexNames.generationPattern key), listed⟩ :: d) r

namespace Operation

variable {service service' : Service} {d : List Exchange} {key : CollectionKey}

/-- Making a collection has no other dialogues. The signature of its mapping is remembered behind a
success. -/
theorem Says.making_goes {r : Except ServiceError Bool}
    (h : (ensureExists key).Says service d r service') :
    Making.Goes service key d r ∧
      service'.cache =
        if r = .ok true then service.cache.insert key service.mapping.signature
        else service.cache := by
  unfold Operation.ensureExists at h
  rw [says_aliasOf_bind] at h
  obtain ⟨e, rfl, rfl, rfl⟩ | ⟨bound, d₁, rfl, hmake⟩ := says_ask_bind.1 h
  · exact ⟨.unlooked e, rfl⟩
  split at hmake
  · rename_i htrue
    obtain rfl : bound = true := htrue
    obtain ⟨rfl, rfl, rfl⟩ := says_pure.1 hmake
    exact ⟨.found, rfl⟩
  rename_i hfree
  obtain rfl : bound = false := by simpa using hfree
  rw [says_currentModelMapping_bind] at hmake
  obtain ⟨e, hnext, rfl⟩ | ⟨index, service₁, d₂, d₃, rfl, hnext, hcreate⟩ := says_bind.1 hmake
  · obtain ⟨listed, rfl, hnew, rfl⟩ := hnext.nextGeneration
    rcases hin : foundIn listed with e' | found <;> rw [hin] at hnew <;> cases hnew
    exact ⟨.unlisted hin, rfl⟩
  obtain ⟨listed, rfl, hnew, rfl⟩ := hnext.nextGeneration
  obtain ⟨found, hin, rfl⟩ := map_eq_ok.1 hnew.symm
  obtain ⟨e | _, d₄, rfl, hbind⟩ := says_attempt_bind.1 hcreate
  · obtain ⟨o, d₅, rfl, hdone⟩ := says_attempt_bind.1 hbind
    rcases o with e' | _ | _
    · obtain ⟨rfl, rfl, rfl⟩ := says_throw.1 (says_record_bind.1 hdone)
      exact ⟨.named hin (.refused e nofun), rfl⟩
    · obtain ⟨rfl, rfl, rfl⟩ := says_throw.1 (says_record_bind.1 hdone)
      exact ⟨.named hin (.refused e nofun), rfl⟩
    · obtain ⟨rfl, rfl, rfl⟩ := says_pure.1 hdone
      exact ⟨.named hin (.lost e), rfl⟩
  · obtain ⟨e | _, d₅, rfl, hdone⟩ := says_attempt_bind.1 hbind
    · obtain ⟨rfl, rfl, rfl⟩ := says_throw.1 (says_record_bind.1 hdone)
      exact ⟨.named hin (.made (.error e)), rfl⟩
    · dsimp only at hdone
      unfold rememberSignature at hdone
      rw [says_changeCache_bind, says_record_bind, says_record_bind] at hdone
      obtain ⟨rfl, rfl, rfl⟩ := says_pure.1 hdone
      exact ⟨.named hin (.made (.ok ())), rfl⟩

/-- Making a collection comes to nothing, which is a success only where the alias has been found bound;
or a new index is made and is to be bound, and behind that the signature of its mapping is
remembered. -/
theorem Says.makes {r : Except ServiceError Bool}
    (h : (ensureExists key).Says service d r service') :
    (r ≠ .ok true ∧
      (r = .ok false → ∃ d', d = d' ++ [⟨.aliasExists (service.aliasName key), .ok true⟩]) ∧
      service'.cache = service.cache ∧ ∀ x ∈ d, Making.Scouts key service.mapping x) ∨
    ∃ listed found o, foundIn listed = .ok found ∧
      d = [⟨.aliasExists (service.aliasName key), .ok false⟩,
        ⟨.getIndices (service.indexNames.generationPattern key), listed⟩,
        ⟨.createIndex (service.newName key found) (indexBody key service.mapping), .ok ()⟩,
        ⟨.putAlias (service.newName key found) (service.aliasName key), o⟩] ∧
      r = (resultOf o).map (fun _ => true) ∧
      service'.cache =
        if o.isOk then service.cache.insert key service.mapping.signature else service.cache := by
  obtain ⟨hgoes, hcache⟩ := h.making_goes
  cases hgoes with
  | unlooked e => exact .inl ⟨by simp, by simp, hcache, by simpa using .aliasExists _⟩
  | found => exact .inl ⟨by simp, fun _ => ⟨[], rfl⟩, hcache, by simpa using .aliasExists _⟩
  | unlisted =>
    exact .inl ⟨by simp, by simp, hcache, by simpa using ⟨.aliasExists _, .getIndices _⟩⟩
  | named hin hends =>
    cases hends with
    | lost =>
      exact .inl ⟨by simp, fun _ => ⟨[_, _, _], rfl⟩, hcache,
        by simpa using ⟨.aliasExists _, .getIndices _, .refused _ _, .aliasExists _⟩⟩
    | refused =>
      exact .inl ⟨by simp, by simp, hcache,
        by simpa using ⟨.aliasExists _, .getIndices _, .refused _ _, .aliasExists _⟩⟩
    | made o =>
      refine .inr ⟨_, _, o, hin, rfl, rfl, hcache.trans ?_⟩
      cases o <;> rfl

/-- Making a collection leaves the store as it is, or the alias is bound nowhere, a new index is made
and is to be bound. -/
theorem Runs.making {faults : Faults} {w w' : World} {t : List (Turn Memory)}
    {r : Except ServiceError Bool} (h : (ensureExists key).Runs faults w t r w')
    (hfaults : faults ≠ .any) :
    (w'.memory.store = w.memory.store ∧ w'.service.cache = w.service.cache ∧ r ≠ .ok true) ∨
    ∃ listed found s₁ s₂ s₃ o, foundIn listed = .ok found ∧ s₁.store = w.memory.store ∧
      Answers Memory.answer faults (.getIndices (w.service.indexNames.generationPattern key)) s₁
        listed s₂ ∧
      (∀ i, ¬ w.memory.store.Carries i (w.service.aliasName key)) ∧
      w.memory.store.createIndex (w.service.newName key found) (indexBody key w.service.mapping) =
        .ok s₃.store ∧
      Answers Memory.answer faults
        (.putAlias (w.service.newName key found) (w.service.aliasName key)) s₃ o w'.memory ∧
      r = (resultOf o).map (fun _ => true) ∧
      w'.service.cache =
        if o.isOk then w.service.cache.insert key w.service.mapping.signature
        else w.service.cache := by
  obtain ⟨hsaid, hl⟩ := h
  rcases hsaid.makes with ⟨hr, -, hcache, hscouts⟩ | ⟨listed, found, o, hin, ht, hr, hcache⟩
  · exact .inl ⟨(hl.idle hfaults fun x hx => (hscouts x hx).idle).2, hcache, hr⟩
  obtain ⟨s₁, t₁, rfl, hlook, ht₁, hl₁⟩ := hl.first ht
  obtain ⟨s₂, t₂, rfl, hlist, ht₂, hl₂⟩ := hl₁.first ht₁
  obtain ⟨s₃, t₃, rfl, hcreate, ht₃, hl₃⟩ := hl₂.first ht₂
  obtain ⟨s₄, t₄, rfl, hbind, ht₄, hl₄⟩ := hl₃.first ht₃
  obtain ⟨-, rfl⟩ := hl₄.none ht₄
  have hs₁ : s₁.store = w.memory.store := hlook.store_of_looks fun _ => rfl
  have hs₂ : s₂.store = w.memory.store := (hlist.store_of_looks fun _ => rfl).trans hs₁
  have hcreated := hcreate.perform_of_ok
  rw [hs₂] at hcreated
  refine .inr ⟨listed, found, s₁, s₂, s₃, o, hin, hs₁, hlist, fun i hi => ?_, hcreated, hbind, hr, hcache⟩
  have hexists : w.memory.store.aliasExists (w.service.aliasName key) = false :=
    Except.ok.inj hlook.of_ok.1
  rw [Store.aliasExists_iff.2 ⟨i, hi⟩] at hexists
  cases hexists

end Operation

end SiteSearch
