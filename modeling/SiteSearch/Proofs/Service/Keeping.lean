import SiteSearch.Proofs.Collection.Generation
import SiteSearch.Proofs.Service.Move
import SiteSearch.Service.Cleanup
import SiteSearch.Service.Drift
import SiteSearch.Service.Indexing

/-!
# Operations that only remember

Operations on collections and documents change nothing in the service but what it remembers and what it
has told about its work (`Service.Like`). So all of their calls are those of the service as it was in
front of them: the alias, the pattern of the generations and the mapping are known beforehand.
`Operation.Keeps` says this together with a bound for the calls, and there is one lemma for each
operation. The lock that indexing an element takes is given back by the end, whatever has happened in
between (`keeps_indexElement`).
-/

namespace SiteSearch

/-- The service is another one but for what it remembers and what it has told. -/
def Service.Like (base service : Service) : Prop :=
  ∃ cache metrics, service = { base with cache, metrics }

namespace Service.Like

variable {base service service' : Service}

theorem refl : base.Like base := ⟨_, _, rfl⟩

theorem trans (h : base.Like service) (h' : service.Like service') : base.Like service' := by
  obtain ⟨_, _, rfl⟩ := h
  obtain ⟨cache, metrics, rfl⟩ := h'
  exact ⟨cache, metrics, rfl⟩

theorem indexNames (h : base.Like service) : service.indexNames = base.indexNames := by
  obtain ⟨_, _, rfl⟩ := h
  rfl

theorem mapping (h : base.Like service) : service.mapping = base.mapping := by
  obtain ⟨_, _, rfl⟩ := h
  rfl

theorem config (h : base.Like service) : service.config = base.config := by
  obtain ⟨_, _, rfl⟩ := h
  rfl

theorem now (h : base.Like service) : service.now = base.now := by
  obtain ⟨_, _, rfl⟩ := h
  rfl

theorem fieldNames (h : base.Like service) : service.fieldNames = base.fieldNames := by
  obtain ⟨_, _, rfl⟩ := h
  rfl

theorem locks (h : base.Like service) : service.locks = base.locks := by
  obtain ⟨_, _, rfl⟩ := h
  rfl

end Service.Like

namespace Operation

variable {α β : Type}

/-- Begun in a service like another one, the operation leaves such a service. Whatever the engine
answers, it makes only calls of a kind and comes only to results of a kind. -/
def Keeps (base : Service) (P : EngineCall → Prop) (op : Operation α) (Q : α → Prop) : Prop :=
  ∀ ⦃service : Service⦄ ⦃d : List Exchange⦄ ⦃r : Except ServiceError α⦄ ⦃service' : Service⦄,
    base.Like service → op.Says service d r service' →
      base.Like service' ∧ (∀ x ∈ d, P x.1) ∧ ∀ a, r = .ok a → Q a

section

variable {base : Service} {P : EngineCall → Prop} {Q : α → Prop} {key : CollectionKey}

/-- What an operation asks in all services of a name, it asks in each of them. -/
theorem Keeps.asksOnly {names : IndexNames} {op : Operation α}
    (h : ∀ base : Service, base.indexNames = names → Keeps base P op Q) : AsksOnly names P op Q := by
  intro service d r service' hnames hop
  obtain ⟨hlike, hd, hr⟩ := h service hnames .refl hop
  exact ⟨hlike.indexNames.trans hnames, hd, hr⟩

theorem Keeps.mono {P' : EngineCall → Prop} {Q' : α → Prop} {op : Operation α}
    (h : Keeps base P op Q) (hP : ∀ c, P c → P' c) (hQ : ∀ a, Q a → Q' a) : Keeps base P' op Q' := by
  intro service d r service' hlike hop
  obtain ⟨hlike', hd, hr⟩ := h hlike hop
  exact ⟨hlike', fun x hx => hP _ (hd x hx), fun a ha => hQ a (hr a ha)⟩

theorem keeps_pure {a : α} (h : Q a) : Keeps base P (pure a) Q := by
  intro service d r service' hlike hop
  obtain ⟨rfl, rfl, rfl⟩ := says_pure.1 hop
  refine ⟨hlike, by simp, ?_⟩
  rintro b ⟨⟩
  exact h

theorem keeps_throw {e : ServiceError} : Keeps base P (throw e : Operation α) Q := by
  intro service d r service' hlike hop
  obtain ⟨rfl, rfl, rfl⟩ := says_throw.1 hop
  exact ⟨hlike, by simp, by simp⟩

theorem keeps_bind {op : Operation α} {f : α → Operation β} {R : β → Prop} (h : Keeps base P op Q)
    (hf : ∀ a, Q a → Keeps base P (f a) R) : Keeps base P (op >>= f) R := by
  intro service d r service' hlike hop
  obtain ⟨e, h₁, rfl⟩ | ⟨a, service₁, d₁, d₂, rfl, h₁, h₂⟩ := says_bind.1 hop
  · obtain ⟨hlike', hd, -⟩ := h hlike h₁
    exact ⟨hlike', hd, by simp⟩
  · obtain ⟨hlike₁, hd₁, hQ⟩ := h hlike h₁
    obtain ⟨hlike₂, hd₂, hR⟩ := hf a (hQ a rfl) hlike₁ h₂
    refine ⟨hlike₂, fun x hx => ?_, hR⟩
    rcases List.mem_append.1 hx with hx | hx
    · exact hd₁ x hx
    · exact hd₂ x hx

theorem keeps_get : Keeps base P get base.Like := by
  intro service d r service' hlike hop
  obtain ⟨rfl, rfl, rfl⟩ := says_get.1 hop
  refine ⟨hlike, by simp, ?_⟩
  rintro b ⟨⟩
  exact hlike

theorem keeps_modify {f : Service → Service} (h : ∀ service : Service, service.Like (f service)) :
    Keeps base P (modify f) fun _ => True := by
  intro service d r service' hlike hop
  obtain ⟨rfl, rfl, rfl⟩ := says_modify.1 hop
  exact ⟨hlike.trans (h service), by simp, fun _ _ => .intro⟩

theorem keeps_attempt {c : EngineCall} (h : P c) : Keeps base P (attempt c) fun _ => True := by
  intro service d r service' hlike hop
  obtain ⟨o, rfl, rfl, rfl⟩ := says_attempt.1 hop
  exact ⟨hlike, by simpa using h, fun _ _ => .intro⟩

theorem keeps_ask {c : EngineCall} (h : P c) : Keeps base P (ask c) fun _ => True := by
  intro service d r service' hlike hop
  obtain ⟨o, rfl, rfl, rfl⟩ := says_ask.1 hop
  exact ⟨hlike, by simpa using h, fun _ _ => .intro⟩

theorem keeps_outcome {op : Operation α} (h : Keeps base P op Q) :
    Keeps base P (outcome op) fun r => ∀ a, r = .ok a → Q a := by
  intro service d r service' hlike hop
  obtain ⟨r', hop', rfl⟩ := says_outcome.1 hop
  obtain ⟨hlike', hd, hQ⟩ := h hlike hop'
  refine ⟨hlike', hd, ?_⟩
  rintro b ⟨⟩
  exact hQ

theorem keeps_finish {r : Except ServiceError α} (h : ∀ a, r = .ok a → Q a) :
    Keeps base P (finish r) Q := by
  cases r with
  | ok a => exact keeps_pure (h a rfl)
  | error e => exact keeps_throw

theorem keeps_record {event : MetricEvent} : Keeps base P (record event) fun _ => True :=
  keeps_modify fun _ => ⟨_, _, rfl⟩

theorem keeps_changeCache {change : SignatureCache → SignatureCache} :
    Keeps base P (changeCache change) fun _ => True :=
  keeps_bind (keeps_modify fun _ => ⟨_, _, rfl⟩) fun _ _ => keeps_bind keeps_get fun _ _ => keeps_record

theorem keeps_aliasOf : Keeps base P (aliasOf key) fun a => a = base.aliasName key :=
  keeps_bind keeps_get fun _ h => keeps_pure (Service.aliasName_congr h.indexNames)

theorem keeps_currentModelMapping : Keeps base P currentModelMapping fun m => m = base.mapping :=
  keeps_bind keeps_get fun _ h => keeps_pure h.mapping

/-- A loop makes the calls of its rounds. -/
theorem keeps_forIn {ι : Type} {f : ι → Operation PUnit} :
    ∀ {items : List ι}, (∀ i ∈ items, Keeps base P (f i) fun _ => True) →
      Keeps base P (forIn items PUnit.unit fun i _ => do f i; pure (ForInStep.yield PUnit.unit))
        fun _ => True
  | [], _ => keeps_pure .intro
  | i :: items, h => by
    rw [List.forIn_cons]
    have hround : Keeps base P (do f i; pure (ForInStep.yield PUnit.unit))
        (· = ForInStep.yield PUnit.unit) :=
      keeps_bind (h i (by simp)) fun _ _ => keeps_pure rfl
    refine keeps_bind hround ?_
    rintro _ rfl
    exact keeps_forIn fun j hj => h j (by simp [hj])

/-! ## Looking -/

theorem keeps_coveredIndexes (hlist : P (.getIndices (base.indexNames.generationPattern key))) :
    Keeps base P (coveredIndexes key) fun _ => True := by
  refine keeps_bind keeps_get fun service hlike => ?_
  rw [hlike.indexNames]
  refine keeps_bind (keeps_attempt hlist) ?_
  rintro (e | found) -
  · cases e with
    | notFound => exact keeps_pure .intro
    | _ => exact keeps_throw
  · exact keeps_pure .intro

theorem keeps_generations (hlist : P (.getIndices (base.indexNames.generationPattern key))) :
    Keeps base P (generations key) fun found =>
      ∀ g ∈ found, IsGeneration (base.aliasName key) g.name := by
  refine keeps_bind (keeps_coveredIndexes hlist) fun found _ =>
    keeps_bind keeps_get fun service hlike => keeps_pure fun g hg => ?_
  rw [hlike.indexNames] at hg
  obtain ⟨index, -, time, htime, rfl⟩ := mem_generationsAmong.1 hg
  exact Option.isSome_iff_exists.2 ⟨time, htime⟩

theorem keeps_nextGeneration (hlist : P (.getIndices (base.indexNames.generationPattern key))) :
    Keeps base P (nextGeneration key) fun name => IsGeneration (base.aliasName key) name := by
  refine keeps_bind keeps_get fun _ _ => keeps_bind (keeps_generations hlist) fun _ _ =>
    keeps_bind keeps_get fun service hlike => keeps_pure ?_
  rw [hlike.indexNames]
  exact IndexNames.isGeneration_generationName _

theorem keeps_resolveAlias {name : String} (hget : P (.getAlias name)) :
    Keeps base P (resolveAlias name) fun _ => True := by
  refine keeps_bind (keeps_ask hget) fun bound _ => ?_
  split
  · exact keeps_pure .intro
  · exact keeps_throw

theorem keeps_resolveIndex {source : String} (hget : P (.getAlias source))
    (hlist : P (.getIndices source)) : Keeps base P (resolveIndex source) fun _ => True := by
  refine keeps_bind (keeps_outcome (keeps_resolveAlias hget)) fun resolved _ => ?_
  split
  · refine keeps_bind (keeps_ask hlist) fun found _ => ?_
    split
    · exact keeps_pure .intro
    · exact keeps_throw
  · exact keeps_finish fun _ _ => .intro

theorem keeps_boundIndex? {name : String} (hget : P (.getAlias name)) :
    Keeps base P (boundIndex? name) fun _ => True := by
  refine keeps_bind (keeps_outcome (keeps_resolveAlias hget)) fun resolved _ => ?_
  split
  · exact keeps_pure .intro
  · exact keeps_pure .intro
  · exact keeps_throw

theorem keeps_whileBlocked {index : String} {op : Operation α} (hget : P (.getSettings index))
    (hput : ∀ settings, P (.putSettings index settings)) (hop : Keeps base P op Q) :
    Keeps base P (whileBlocked index op) Q := by
  have hblocked : Keeps base P (isBlocked index) fun _ => True :=
    keeps_bind (keeps_ask hget) fun _ _ => keeps_pure .intro
  refine keeps_bind hblocked fun wasBlocked _ => ?_
  split
  · exact hop
  · refine keeps_bind (keeps_ask (hput _)) fun _ _ => keeps_bind (keeps_outcome hop) ?_
    intro result hresult
    refine keeps_bind (keeps_outcome (keeps_ask (hput _))) fun lifted _ => ?_
    exact keeps_finish fun a ha => hresult a (bothOutcomes_eq_ok.1 ha).1

end

/-! ## Operations on a collection -/

section

variable {base : Service} {P : EngineCall → Prop} {key : CollectionKey}

theorem keeps_updateMapping
    (hput : P (.putMapping (base.aliasName key) base.mapping.properties)) :
    Keeps base P (updateMapping key) fun _ => True := by
  refine keeps_bind keeps_aliasOf ?_
  rintro _ rfl
  refine keeps_bind keeps_currentModelMapping ?_
  rintro _ rfl
  refine keeps_bind (keeps_attempt hput) ?_
  rintro (e | _) -
  · exact keeps_bind keeps_record fun _ _ => keeps_throw
  · exact keeps_bind keeps_changeCache fun _ _ => keeps_bind keeps_record fun _ _ =>
      keeps_pure .intro

theorem keeps_syncMapping (hget : P (.getMapping (base.aliasName key)))
    (hput : P (.putMapping (base.aliasName key) base.mapping.properties)) :
    Keeps base P (syncMapping key) fun _ => True := by
  have hcached : Keeps base P (cachedSignature key) fun _ => True :=
    keeps_bind keeps_get fun _ _ => keeps_bind (keeps_modify fun _ => ⟨_, _, rfl⟩) fun _ _ =>
      keeps_bind keeps_record fun _ _ => keeps_pure .intro
  have hlive : Keeps base P (currentMapping key) fun _ => True := by
    refine keeps_bind keeps_aliasOf ?_
    rintro _ rfl
    exact keeps_ask hget
  have hindexed : Keeps base P (indexedSignature key) fun _ => True := by
    refine keeps_bind hcached fun cached _ => ?_
    split
    · exact keeps_pure .intro
    · exact keeps_bind hlive fun _ _ => keeps_bind keeps_changeCache fun _ _ => keeps_pure .intro
  have hdiff : Keeps base P (signatureDiff key) fun _ => True :=
    keeps_bind hindexed fun _ _ => keeps_bind keeps_currentModelMapping fun _ _ => keeps_pure .intro
  refine keeps_bind hdiff fun diff _ => ?_
  split
  · exact keeps_pure .intro
  split
  · exact keeps_pure .intro
  · exact keeps_bind (keeps_updateMapping hput) fun _ _ => keeps_pure .intro

theorem keeps_deleteOrphaned (hget : P (.getAlias (base.aliasName key)))
    (hlist : P (.getIndices (base.indexNames.generationPattern key)))
    (hdelete : ∀ name, IsGeneration (base.aliasName key) name → P (.deleteIndex name)) :
    Keeps base P (deleteOrphaned key) fun _ => True := by
  refine keeps_bind keeps_aliasOf ?_
  rintro _ rfl
  refine keeps_bind (keeps_boundIndex? hget) fun current _ =>
    keeps_bind (keeps_generations hlist) fun found hfound => ?_
  refine keeps_bind (keeps_forIn fun g hg => keeps_ask (hdelete _ ?_)) fun _ _ =>
    keeps_bind keeps_record fun _ _ => keeps_bind keeps_record fun _ _ => keeps_pure .intro
  exact hfound g (List.mem_filter.1 hg).1

theorem keeps_deleteCollection (hlist : P (.getIndices (base.indexNames.generationPattern key)))
    (hunbind : ∀ name a, IsGeneration (base.aliasName key) name → P (.deleteAlias name a))
    (hdelete : ∀ name, IsGeneration (base.aliasName key) name → P (.deleteIndex name)) :
    Keeps base P (deleteCollection key) fun _ => True := by
  refine keeps_bind (keeps_coveredIndexes hlist) fun found _ =>
    keeps_bind keeps_get fun service hlike => ?_
  refine keeps_bind (keeps_forIn fun index hindex => ?_) fun _ _ =>
    keeps_bind keeps_changeCache fun _ _ => keeps_bind keeps_record fun _ _ =>
    keeps_bind keeps_record fun _ _ => keeps_pure .intro
  have hown : IsGeneration (base.aliasName key) index.name := by
    rw [Service.aliasName, ← hlike.indexNames]
    exact (List.mem_filter.1 hindex).2
  exact keeps_bind (keeps_forIn fun _ _ => keeps_ask (hunbind _ _ hown)) fun _ _ =>
    keeps_ask (hdelete _ hown)

theorem keeps_ensureExists (hlook : P (.aliasExists (base.aliasName key)))
    (hlist : P (.getIndices (base.indexNames.generationPattern key)))
    (hcreate : ∀ name, IsGeneration (base.aliasName key) name →
      P (.createIndex name (indexBody key base.mapping)))
    (hbind : ∀ name, IsGeneration (base.aliasName key) name →
      P (.putAlias name (base.aliasName key))) :
    Keeps base P (ensureExists key) fun _ => True := by
  refine keeps_bind keeps_aliasOf ?_
  rintro _ rfl
  refine keeps_bind (keeps_ask hlook) fun bound _ => ?_
  split
  · exact keeps_pure .intro
  refine keeps_bind keeps_currentModelMapping ?_
  rintro _ rfl
  refine keeps_bind (keeps_nextGeneration hlist) fun generation hgeneration =>
    keeps_bind (keeps_attempt (hcreate _ hgeneration)) ?_
  rintro (e | _) -
  · refine keeps_bind (keeps_attempt hlook) fun retried _ => ?_
    split
    · exact keeps_pure .intro
    · exact keeps_bind keeps_record fun _ _ => keeps_throw
  · refine keeps_bind (keeps_attempt (hbind _ hgeneration)) ?_
    rintro (e | _) -
    · exact keeps_bind keeps_record fun _ _ => keeps_throw
    · exact keeps_bind keeps_changeCache fun _ _ => keeps_bind keeps_record fun _ _ =>
        keeps_bind keeps_record fun _ _ => keeps_pure .intro

/-- A call of a reindex of the collection with an alias and a mapping. -/
inductive Reindexing (base : Service) (key : CollectionKey) : EngineCall → Prop where
  | getAlias : Reindexing base key (.getAlias (base.aliasName key))
  | getIndices : Reindexing base key (.getIndices (base.indexNames.generationPattern key))
  | createIndex {new : String} (h : IsGeneration (base.aliasName key) new) :
    Reindexing base key (.createIndex new (indexBody key base.mapping))
  | getSettings (old : String) : Reindexing base key (.getSettings old)
  | putSettings (old : String) (settings : Json) : Reindexing base key (.putSettings old settings)
  | reindex (old : String) {new : String} (h : IsGeneration (base.aliasName key) new) :
    Reindexing base key (.reindex (copyBody old new base.mapping.names))
  | putAlias {new : String} (h : IsGeneration (base.aliasName key) new) :
    Reindexing base key (.putAlias new (base.aliasName key))
  | deleteAlias (old : String) : Reindexing base key (.deleteAlias old (base.aliasName key))

theorem keeps_reindex : Keeps base (Reindexing base key) (reindex key) fun _ => True := by
  refine keeps_bind keeps_aliasOf ?_
  rintro _ rfl
  refine keeps_bind (keeps_resolveAlias .getAlias) fun old _ =>
    keeps_bind keeps_currentModelMapping ?_
  rintro _ rfl
  refine keeps_bind (keeps_nextGeneration .getIndices) fun new hnew =>
    keeps_bind (keeps_ask (.createIndex hnew)) fun _ _ => ?_
  have hrebind : Keeps base (Reindexing base key) (rebind (base.aliasName key) old new)
      fun _ => True := by
    refine keeps_bind (keeps_attempt (.putAlias hnew)) ?_
    rintro (e | _) -
    · exact keeps_bind keeps_record fun _ _ => keeps_throw
    · exact keeps_ask (.deleteAlias old)
  have hcopy : Keeps base (Reindexing base key)
      (copyAndRebind (base.aliasName key) old new (copyBody old new base.mapping.names))
      fun _ => True := by
    refine keeps_bind (keeps_attempt (.reindex old hnew)) ?_
    rintro (e | reply) -
    · exact keeps_bind keeps_record fun _ _ => keeps_throw
    show Keeps _ _ (if reply.failures.isEmpty then _ else _) _
    split
    · exact keeps_bind hrebind fun _ _ => keeps_pure .intro
    · exact keeps_bind keeps_record fun _ _ => keeps_throw
  exact keeps_bind (keeps_whileBlocked (.getSettings old) (.putSettings old) hcopy) fun reply _ =>
    keeps_bind keeps_changeCache fun _ _ => keeps_bind keeps_record fun _ _ =>
    keeps_bind keeps_record fun _ _ => keeps_bind keeps_record fun _ _ => keeps_pure .intro

/-- A call of a clone to the collection with an alias. -/
inductive Copying (base : Service) (key : CollectionKey) (source : String) : EngineCall → Prop where
  | aliasExists : Copying base key source (.aliasExists (base.aliasName key))
  | getAlias : Copying base key source (.getAlias source)
  | find : Copying base key source (.getIndices source)
  | getIndices : Copying base key source (.getIndices (base.indexNames.generationPattern key))
  | getSettings (index : String) : Copying base key source (.getSettings index)
  | putSettings (index : String) (settings : Json) :
    Copying base key source (.putSettings index settings)
  | cloneIndex (index : String) {new : String} (h : IsGeneration (base.aliasName key) new) :
    Copying base key source (.cloneIndex index new (cloneBody (base.aliasName key)))

theorem keeps_clone {source : String} :
    Keeps base (Copying base key source) (clone key source) fun _ => True := by
  refine keeps_bind keeps_aliasOf ?_
  rintro _ rfl
  refine keeps_bind (keeps_ask .aliasExists) fun bound _ => ?_
  split
  · exact keeps_bind keeps_record fun _ _ => keeps_throw
  refine keeps_bind (keeps_resolveIndex .getAlias .find) fun index _ =>
    keeps_bind (keeps_nextGeneration .getIndices) fun new hnew => ?_
  have hcopy : Keeps base (Copying base key source)
      (cloneBlocked index new (base.aliasName key)) fun _ => True :=
    keeps_bind (keeps_ask (.cloneIndex index hnew)) fun _ _ => keeps_ask (.putSettings new _)
  refine keeps_bind (keeps_outcome (keeps_whileBlocked (.getSettings index) (.putSettings index) hcopy)) ?_
  rintro (e | _) -
  · exact keeps_bind keeps_record fun _ _ => keeps_throw
  · exact keeps_bind keeps_changeCache fun _ _ => keeps_bind keeps_record fun _ _ =>
      keeps_bind keeps_record fun _ _ => keeps_pure .intro

end

/-! ## Operations on documents -/

section

variable {base : Service} {P : EngineCall → Prop} {key : CollectionKey} {element : Element}

theorem keeps_delete {id : ElementId}
    (hdelete : P (.deleteDocument (base.aliasName key) (Text.writeWord id))) :
    Keeps base P (delete id key) fun _ => True := by
  refine keeps_bind keeps_aliasOf ?_
  rintro _ rfl
  refine keeps_bind (keeps_attempt hdelete) fun deleted _ => ?_
  split
  · exact keeps_record
  · exact keeps_record
  · exact keeps_bind keeps_record fun _ _ => keeps_throw

theorem keeps_bulkDelete {ids : List ElementId}
    (hbulk : P (.bulk (ids.map fun id => .delete (base.aliasName key) (Text.writeWord id)))) :
    Keeps base P (bulkDelete ids key) fun _ => True := by
  unfold bulkDelete
  split
  · exact keeps_pure .intro
  refine keeps_bind keeps_aliasOf ?_
  rintro _ rfl
  refine keeps_bind (keeps_attempt hbulk) ?_
  rintro (e | _) -
  · exact keeps_bind keeps_record fun _ _ => keeps_throw
  · exact keeps_bind keeps_record fun _ _ => keeps_pure .intro

theorem keeps_upsert {document : Document} (hmake : Keeps base P (ensureExists key) fun _ => True)
    (hwrite : P (.indexDocument (base.aliasName key) (Text.writeWord document.id) document.toJson)) :
    Keeps base P (upsert document key) fun _ => True := by
  refine keeps_bind hmake fun _ _ => keeps_bind keeps_aliasOf ?_
  rintro _ rfl
  refine keeps_bind (keeps_attempt hwrite) ?_
  rintro (e | _) -
  · exact keeps_bind keeps_record fun _ _ => keeps_throw
  · exact keeps_record

theorem keeps_buildDocument :
    Keeps base P (buildDocument element) fun document =>
      base.fieldNames.document? element = .ok document :=
  keeps_bind keeps_get fun _ hlike => keeps_finish fun _ hbuilt => hlike.fieldNames ▸ hbuilt

theorem keeps_replaceDocument (hdelete : Keeps base P (delete element.id key) fun _ => True)
    (hwrite : ∀ document, Keeps base P (upsert document key) fun _ => True) :
    Keeps base P (replaceDocument element key) fun _ => True :=
  keeps_bind keeps_buildDocument fun document _ => keeps_bind hdelete fun _ _ => hwrite document

/-- Whatever becomes of the document, the locks behind the indexing of an element are those in front. -/
theorem keeps_indexElement
    (hreplace : ∀ locks,
      Keeps { base with locks } P (replaceDocument element key) fun _ => True) :
    Keeps base P (indexElement element key) fun _ => True := by
  intro service d r service' hlike h
  unfold indexElement at h
  dsimp only at h
  rw [says_get_bind] at h
  split at h
  · exact keeps_bind keeps_record (fun _ _ => keeps_pure .intro) hlike h
  · rename_i locks hlocks
    rw [says_modify_bind] at h
    obtain ⟨r', service₁, d₁, d₂, rfl, hreplaced, hdone⟩ := says_outcome_bind.1 h
    rw [says_modify_bind] at hdone
    obtain ⟨cache, metrics, rfl⟩ := hlike
    obtain ⟨⟨cache₁, metrics₁, rfl⟩, hcalls, -⟩ := hreplace locks ⟨cache, metrics, rfl⟩ hreplaced
    have hreleased : base.Like { { base with locks, cache := cache₁, metrics := metrics₁ } with
        locks := locks.release (elementLock element.id element.siteId) } := by
      rw [Locks.release_of_acquire? hlocks]
      exact ⟨cache₁, metrics₁, rfl⟩
    have hend : Keeps base P (do let _ ← finish r'; pure true) fun _ => True :=
      keeps_bind (keeps_finish (Q := fun _ => True) fun _ _ => .intro) fun _ _ => keeps_pure .intro
    obtain ⟨hlike', hnone, -⟩ := hend hreleased hdone
    exact ⟨hlike', fun x hx => (List.mem_append.1 hx).elim (hcalls x) (hnone x), fun _ _ => .intro⟩

end

end Operation

end SiteSearch
