import SiteSearch.Proofs.Service.Calls
import SiteSearch.Proofs.Service.Sweep

/-!
# The course of a look for drift

A look for drift goes by the signature that is remembered, or else by the mapping that the engine
tells, which is remembered from then on. A mapping that is put is remembered by its own signature,
whatever the index had before. Deleting and sweeping learn nothing: they forget at most.
-/

namespace SiteSearch

/-- What is remembered behind has been remembered before, and indexes are named as before. -/
structure Service.Forgets (service service' : Service) : Prop where
  names : service'.indexNames = service.indexNames
  cache : ∀ key signature, service'.cache.peek? key = some signature →
    service.cache.peek? key = some signature

theorem Service.Forgets.refl {service : Service} : service.Forgets service :=
  ⟨rfl, fun _ _ => id⟩

theorem Service.Forgets.trans {service service' service'' : Service} (h : service.Forgets service')
    (h' : service'.Forgets service'') : service.Forgets service'' :=
  ⟨h'.names.trans h.names, fun key signature hpeek => h.cache key signature (h'.cache key signature hpeek)⟩

namespace SignatureCache

variable {cache : SignatureCache} {key : CollectionKey}

theorem peek?_counted {hit : Bool} : (cache.counted hit).peek? key = cache.peek? key := by
  cases hit <;> rfl

theorem peek?_clear : cache.clear.peek? key = none := rfl

theorem peek?_of_invalidate {other : CollectionKey} {signature : Signature}
    (h : (cache.invalidate key).peek? other = some signature) : cache.peek? other = some signature := by
  rw [peek?_invalidate] at h
  split at h
  · cases h
  · exact h

end SignatureCache

namespace Operation

variable {α β : Type} {service service' : Service} {d : List Exchange} {key : CollectionKey}

/-! ## Pushing and comparing -/

/-- A mapping is put in one call, and where that succeeds its signature is remembered. -/
theorem Says.updateMapping {r : Except ServiceError Signature}
    (h : (updateMapping key).Says service d r service') :
    ∃ o, d = [⟨.putMapping (service.aliasName key) service.mapping.properties, o⟩] ∧
      r = (resultOf o).map (fun _ => service.mapping.signature) ∧
      service'.indexNames = service.indexNames ∧
      service'.cache =
        if o.isOk then service.cache.insert key service.mapping.signature else service.cache := by
  unfold Operation.updateMapping at h
  rw [says_aliasOf_bind, says_currentModelMapping_bind] at h
  obtain ⟨e | _, d', rfl, hdone⟩ := says_attempt_bind.1 h
  · obtain ⟨rfl, rfl, rfl⟩ := says_throw.1 (says_record_bind.1 hdone)
    exact ⟨_, rfl, rfl, rfl, rfl⟩
  · dsimp only at hdone
    unfold rememberSignature at hdone
    rw [says_changeCache_bind, says_record_bind] at hdone
    obtain ⟨rfl, rfl, rfl⟩ := says_pure.1 hdone
    exact ⟨_, rfl, rfl, rfl, rfl⟩

/-- The signature of what is indexed is the remembered one where there is one; otherwise the engine is
asked, and what it tells is remembered. -/
theorem Says.indexedSignature {r : Except ServiceError Signature}
    (h : (indexedSignature key).Says service d r service') :
    service'.indexNames = service.indexNames ∧ service'.mapping = service.mapping ∧
      ((∃ signature, service.cache.peek? key = some signature ∧ d = [] ∧ r = .ok signature ∧
          ∀ other, service'.cache.peek? other = service.cache.peek? other) ∨
        service.cache.peek? key = none ∧ ∃ o,
          d = [⟨.getMapping (service.aliasName key), o⟩] ∧ r = (resultOf o).map .ofProperties ∧
          ∀ other, service'.cache.peek? other =
            match o with
            | .ok live => if key.siteId = other.siteId then some (.ofProperties live)
              else service.cache.peek? other
            | .error _ => service.cache.peek? other) := by
  unfold Operation.indexedSignature Operation.cachedSignature at h
  obtain ⟨e, hcached, rfl⟩ | ⟨cached, service₁, d₁, d₂, rfl, hcached, hrest⟩ := says_bind.1 h
  · rw [says_get_bind, says_modify_bind, says_record_bind] at hcached
    cases (says_pure.1 hcached).2.1
  rw [says_get_bind, says_modify_bind, says_record_bind] at hcached
  obtain ⟨rfl, heq, rfl⟩ := says_pure.1 hcached
  obtain rfl := Except.ok.inj heq
  split at hrest
  · rename_i signature hpeek
    obtain ⟨rfl, rfl, rfl⟩ := says_pure.1 hrest
    exact ⟨rfl, rfl, .inl ⟨signature, hpeek, rfl, rfl, fun other => SignatureCache.peek?_counted⟩⟩
  · rename_i hpeek
    unfold Operation.currentMapping at hrest
    rw [List.nil_append]
    obtain ⟨e, hlive, rfl⟩ | ⟨live, service₂, d₃, d₄, rfl, hlive, hremember⟩ := says_bind.1 hrest
    · rw [says_aliasOf_bind] at hlive
      obtain ⟨o, rfl, ho, rfl⟩ := says_ask.1 hlive
      refine ⟨rfl, rfl, .inr ⟨hpeek, o, rfl, by rw [← ho]; rfl, fun other => ?_⟩⟩
      obtain ⟨e, rfl⟩ : ∃ e, o = .error e := by
        cases o with
        | ok => cases ho
        | error e => exact ⟨e, rfl⟩
      exact SignatureCache.peek?_counted
    · rw [says_aliasOf_bind] at hlive
      obtain ⟨o, rfl, ho, rfl⟩ := says_ask.1 hlive
      obtain rfl := resultOf_eq_ok.1 ho.symm
      unfold rememberSignature at hremember
      rw [says_changeCache_bind] at hremember
      obtain ⟨rfl, rfl, rfl⟩ := says_pure.1 hremember
      refine ⟨rfl, rfl, .inr ⟨hpeek, _, rfl, rfl, fun other => ?_⟩⟩
      exact (SignatureCache.peek?_insert _ _ _ _).trans (by rw [SignatureCache.peek?_counted])

theorem Says.signatureDiff {r : Except ServiceError SignatureDiff}
    (h : (signatureDiff key).Says service d r service') :
    ∃ r', (Operation.indexedSignature key).Says service d r' service' ∧
      r = r'.map fun signature => signature.diff service.mapping.signature := by
  unfold Operation.signatureDiff at h
  obtain ⟨e, hindexed, rfl⟩ | ⟨signature, service₁, d₁, d₂, rfl, hindexed, hrest⟩ := says_bind.1 h
  · exact ⟨.error e, hindexed, rfl⟩
  · rw [says_currentModelMapping_bind] at hrest
    obtain ⟨rfl, rfl, rfl⟩ := says_pure.1 hrest
    rw [List.append_nil]
    obtain ⟨-, hmapping, -⟩ := hindexed.indexedSignature
    exact ⟨.ok signature, hindexed, by rw [hmapping]; rfl⟩

/-! ## Learning nothing -/

/-- The operation learns no signature and leaves the naming of indexes as it is. -/
def LearnsNothing (op : Operation α) : Prop :=
  ∀ ⦃service : Service⦄ ⦃d : List Exchange⦄ ⦃r : Except ServiceError α⦄ ⦃service' : Service⦄,
    op.Says service d r service' → service.Forgets service'

theorem learnsNothing_bind {op : Operation α} {f : α → Operation β} (h : op.LearnsNothing)
    (hf : ∀ a, (f a).LearnsNothing) : (op >>= f).LearnsNothing := by
  intro service d r service' hop
  obtain ⟨e, h₁, -⟩ | ⟨a, service₁, d₁, d₂, -, h₁, h₂⟩ := says_bind.1 hop
  · exact h h₁
  · exact (h h₁).trans (hf a h₂)

theorem learnsNothing_pure {a : α} : (pure a : Operation α).LearnsNothing := by
  intro service d r service' hop
  obtain ⟨-, -, rfl⟩ := says_pure.1 hop
  exact .refl

theorem learnsNothing_throw {e : ServiceError} : (throw e : Operation α).LearnsNothing := by
  intro service d r service' hop
  obtain ⟨-, -, rfl⟩ := says_throw.1 hop
  exact .refl

theorem learnsNothing_get : (get : Operation Service).LearnsNothing := by
  intro service d r service' hop
  obtain ⟨-, -, rfl⟩ := says_get.1 hop
  exact .refl

theorem learnsNothing_modify {f : Service → Service} (h : ∀ service : Service, service.Forgets (f service)) :
    (modify f : Operation PUnit).LearnsNothing := by
  intro service d r service' hop
  obtain ⟨-, -, rfl⟩ := says_modify.1 hop
  exact h service

theorem learnsNothing_record {event : MetricEvent} : (record event).LearnsNothing :=
  learnsNothing_modify fun _ => ⟨rfl, fun _ _ => id⟩

theorem learnsNothing_aliasOf : (aliasOf key).LearnsNothing :=
  learnsNothing_bind learnsNothing_get fun _ => learnsNothing_pure

theorem learnsNothing_attempt {c : EngineCall} : (attempt c).LearnsNothing := by
  intro service d r service' hop
  obtain ⟨o, -, -, rfl⟩ := says_attempt.1 hop
  exact .refl

theorem learnsNothing_ask {c : EngineCall} : (ask c).LearnsNothing := by
  intro service d r service' hop
  obtain ⟨o, -, -, rfl⟩ := says_ask.1 hop
  exact .refl

theorem learnsNothing_forgetSignature : (forgetSignature key).LearnsNothing := by
  refine learnsNothing_bind (learnsNothing_modify fun service => ⟨rfl, fun other signature => ?_⟩)
    fun _ => learnsNothing_bind learnsNothing_get fun _ => learnsNothing_record
  intro hpeek
  exact SignatureCache.peek?_of_invalidate hpeek

/-- A loop learns nothing when its rounds do not. -/
theorem learnsNothing_forIn {ι : Type} {f : ι → Operation PUnit} (h : ∀ i, (f i).LearnsNothing) :
    ∀ {items : List ι}, LearnsNothing
      (forIn items PUnit.unit fun i _ => do f i; pure (ForInStep.yield PUnit.unit))
  | [] => learnsNothing_pure
  | i :: items => by
    rw [List.forIn_cons]
    refine learnsNothing_bind (learnsNothing_bind (h i) fun _ => learnsNothing_pure) fun step => ?_
    cases step with
    | done => exact learnsNothing_pure
    | yield => exact learnsNothing_forIn h

theorem learnsNothing_coveredIndexes : (coveredIndexes key).LearnsNothing := by
  refine learnsNothing_bind learnsNothing_get fun _ => learnsNothing_bind learnsNothing_attempt ?_
  rintro (e | found)
  · cases e with
    | notFound => exact learnsNothing_pure
    | _ => exact learnsNothing_throw
  · exact learnsNothing_pure

theorem learnsNothing_deleteOrphaned : (deleteOrphaned key).LearnsNothing := by
  have hbound : ∀ aliasName, (boundIndex? aliasName).LearnsNothing := by
    intro aliasName service d r service' hop
    obtain ⟨o, -, rfl, -⟩ := hop.boundIndex?
    exact .refl
  have hgenerations : (generations key).LearnsNothing :=
    learnsNothing_bind learnsNothing_coveredIndexes fun _ =>
      learnsNothing_bind learnsNothing_get fun _ => learnsNothing_pure
  exact learnsNothing_bind learnsNothing_aliasOf fun _ => learnsNothing_bind (hbound _) fun _ =>
    learnsNothing_bind hgenerations fun _ =>
    learnsNothing_bind (learnsNothing_forIn fun _ => learnsNothing_ask) fun _ =>
    learnsNothing_bind learnsNothing_record fun _ => learnsNothing_bind learnsNothing_record fun _ =>
    learnsNothing_pure

theorem learnsNothing_deleteCollection : (deleteCollection key).LearnsNothing := by
  have hdelete : ∀ index, (deleteWithAliases index).LearnsNothing := fun _ =>
    learnsNothing_bind (learnsNothing_forIn fun _ => learnsNothing_ask) fun _ => learnsNothing_ask
  exact learnsNothing_bind learnsNothing_coveredIndexes fun _ =>
    learnsNothing_bind learnsNothing_get fun _ =>
    learnsNothing_bind (learnsNothing_forIn hdelete) fun _ =>
    learnsNothing_bind learnsNothing_forgetSignature fun _ =>
    learnsNothing_bind learnsNothing_record fun _ => learnsNothing_bind learnsNothing_record fun _ =>
    learnsNothing_pure

theorem learnsNothing_outcome {op : Operation α} (h : op.LearnsNothing) : (outcome op).LearnsNothing := by
  intro service d r service' hop
  obtain ⟨r', hop', -⟩ := says_outcome.1 hop
  exact h hop'

theorem learnsNothing_finish {r : Except ServiceError α} : (finish r).LearnsNothing := by
  cases r with
  | ok a => exact learnsNothing_pure
  | error e => exact learnsNothing_throw

theorem learnsNothing_whileBlocked {index : String} {op : Operation α} (h : op.LearnsNothing) :
    (whileBlocked index op).LearnsNothing := by
  have hblocked : (isBlocked index).LearnsNothing :=
    learnsNothing_bind learnsNothing_ask fun _ => learnsNothing_pure
  refine learnsNothing_bind hblocked fun wasBlocked => ?_
  split
  · exact h
  · exact learnsNothing_bind learnsNothing_ask fun _ =>
      learnsNothing_bind (learnsNothing_outcome h) fun _ =>
      learnsNothing_bind (learnsNothing_outcome learnsNothing_ask) fun _ => learnsNothing_finish

theorem learnsNothing_copyAndRebind {a old new : String} {body : Json} :
    (copyAndRebind a old new body).LearnsNothing := by
  have hrebind : (rebind a old new).LearnsNothing := by
    refine learnsNothing_bind learnsNothing_attempt ?_
    rintro (e | _)
    · exact learnsNothing_bind learnsNothing_record fun _ => learnsNothing_throw
    · exact learnsNothing_ask
  refine learnsNothing_bind learnsNothing_attempt ?_
  rintro (e | reply)
  · exact learnsNothing_bind learnsNothing_record fun _ => learnsNothing_throw
  show LearnsNothing (if reply.failures.isEmpty then _ else _)
  split
  · exact learnsNothing_bind hrebind fun _ => learnsNothing_pure
  · exact learnsNothing_bind learnsNothing_record fun _ => learnsNothing_throw

theorem learnsNothing_cloneBlocked {source new a : String} :
    (cloneBlocked source new a).LearnsNothing :=
  learnsNothing_bind learnsNothing_ask fun _ => learnsNothing_ask

/-! ## Learning behind a success only -/

/-- Where the operation fails it has learnt nothing. -/
def FailsUnlearned (op : Operation α) : Prop :=
  ∀ ⦃service : Service⦄ ⦃d : List Exchange⦄ ⦃e : ServiceError⦄ ⦃service' : Service⦄,
    op.Says service d (.error e) service' → service.Forgets service'

theorem failsUnlearned_bind {op : Operation α} {f : α → Operation β} (h : op.LearnsNothing)
    (hf : ∀ a, (f a).FailsUnlearned) : (op >>= f).FailsUnlearned := by
  intro service d e service' hop
  obtain ⟨_, h₁, -⟩ | ⟨a, service₁, d₁, d₂, -, h₁, h₂⟩ := says_bind.1 hop
  · exact h h₁
  · exact (h h₁).trans (hf a h₂)

/-- A reindex remembers the signature of the new mapping when nothing can fail any more. -/
theorem failsUnlearned_reindex : (reindex key).FailsUnlearned := by
  have hresolve : ∀ name, (resolveAlias name).LearnsNothing := by
    intro name service d r service' hop
    obtain ⟨o, -, -, rfl⟩ := hop.resolveAlias
    exact .refl
  have hmapping : currentModelMapping.LearnsNothing :=
    learnsNothing_bind learnsNothing_get fun _ => learnsNothing_pure
  have hnext : (nextGeneration key).LearnsNothing := by
    intro service d r service' hop
    obtain ⟨o, -, -, rfl⟩ := hop.nextGeneration
    exact .refl
  refine failsUnlearned_bind learnsNothing_aliasOf fun a => failsUnlearned_bind (hresolve a) fun old =>
    failsUnlearned_bind hmapping fun mapping => failsUnlearned_bind hnext fun new =>
    failsUnlearned_bind learnsNothing_ask fun _ =>
    failsUnlearned_bind (learnsNothing_whileBlocked learnsNothing_copyAndRebind) fun reply => ?_
  intro service d e service' hop
  unfold rememberSignature at hop
  rw [says_changeCache_bind, says_record_bind, says_record_bind, says_record_bind] at hop
  cases (says_pure.1 hop).2.1

end Operation

end SiteSearch
