import SiteSearch.Proofs.Collection.Reserved
import SiteSearch.Proofs.Service.InStep
import SiteSearch.Proofs.Service.Keeping

/-!
# Operations on a collection in two worlds

Two worlds are abreast for a collection when their stores are, and their services differ only in what they
remember and have told (`World.Abreast`). An operation on the collection takes the same course in both
and leaves them abreast (`Operation.Steady`): there is one lemma for each operation that can be run over
many collections, `steady_reindex` and its companions.

A move goes on with names that it has found or made, and these have to stay: `steady_resolveAlias_bind`
and `steady_createIndex_bind` put them among the names that have to be there for the rest of the move.
-/

namespace SiteSearch

/-- Two worlds are alike for a collection, as far as it works on them. -/
structure World.Abreast (base : Service) (key : CollectionKey) (start start' : Store)
    (there : List String) (w w' : World) : Prop where
  like : base.Like w.service
  like' : base.Like w'.service
  calm : w.memory.pendingFailures = 0
  calm' : w'.memory.pendingFailures = 0
  stores : Store.Abreast (base.aliasName key) start start' there w.memory.store w'.memory.store

/-- A failure that an operation goes on behind leaves the same names there. -/
theorem World.Abreast.mono {base : Service} {key : CollectionKey} {start start' : Store}
    {there fewer : List String} {w w' : World} (h : World.Abreast base key start start' there w w')
    (hfewer : ∀ i ∈ fewer, i ∈ there) : World.Abreast base key start start' fewer w w' :=
  { h with stores := h.stores.mono hfewer }

namespace Operation

variable {α β : Type}

/-- In two worlds that are abreast for a collection the operation makes the same calls, comes to the same
result, of a kind, or to the same failure, and leaves the worlds abreast. -/
def Steady (base : Service) (key : CollectionKey) (start start' : Store) (there : List String)
    (op : Operation α) (P : α → Prop) : Prop :=
  InStep (World.Abreast base key start start' there) op op
    (fun x y w w' => x = y ∧ P x ∧ World.Abreast base key start start' there w w')
    (World.Abreast base key start start' there)

section

variable {base : Service} {key : CollectionKey} {start start' : Store} {there : List String}
variable {P : α → Prop}

/-! ## Ways to build an operation -/

theorem steady_pure {a : α} (h : P a) : Steady base key start start' there (pure a) P :=
  inStep_pure fun _ _ hw => ⟨rfl, h, hw⟩

theorem steady_throw {e : ServiceError} :
    Steady base key start start' there (throw e : Operation α) P :=
  inStep_throw fun _ _ => id

theorem steady_bind {op : Operation α} {f : α → Operation β} {P' : β → Prop}
    (h : Steady base key start start' there op P)
    (hf : ∀ a, P a → Steady base key start start' there (f a) P') :
    Steady base key start start' there (op >>= f) P' := by
  refine inStep_bind h fun a b => ?_
  refine inStep_of (p := a = b ∧ P a) (fun _ _ hw => ⟨hw.1, hw.2.1⟩) ?_
  rintro ⟨rfl, ha⟩
  exact (hf a ha).mono (fun _ _ hw => hw.2.2) (fun _ _ _ _ => id) fun _ _ => id

theorem steady_outcome {op : Operation α} (h : Steady base key start start' there op P) :
    Steady base key start start' there (outcome op) fun r => ∀ a, r = .ok a → P a := by
  refine (inStep_outcome h).mono (fun _ _ => id) (fun r r' w w' hends => ?_) fun _ _ => id
  cases hends with
  | ok hw =>
    obtain ⟨rfl, hP, habreast⟩ := hw
    refine ⟨rfl, ?_, habreast⟩
    rintro _ ⟨⟩
    exact hP
  | error habreast => exact ⟨rfl, nofun, habreast⟩

theorem steady_finish {r : Except ServiceError α} (h : ∀ a, r = .ok a → P a) :
    Steady base key start start' there (finish r) P := by
  cases r with
  | ok a => exact steady_pure (h a rfl)
  | error e => exact steady_throw

/-- What is read of a service is the same in both worlds. -/
theorem inStep_get_bind {f f' : Service → Operation β} {Q : β → β → WorldRel} {E : WorldRel}
    (h : ∀ service, base.Like service → f service = f base)
    (h' : ∀ service, base.Like service → f' service = f' base)
    (hf : InStep (World.Abreast base key start start' there) (f base) (f' base) Q E) :
    InStep (World.Abreast base key start start' there) (get >>= f) (get >>= f') Q E := by
  refine inStep_bind (E := E) (Q := fun s s' w w' =>
    base.Like s ∧ base.Like s' ∧ World.Abreast base key start start' there w w') ?_ fun s s' => ?_
  · exact inStep_get fun _ _ hw => ⟨hw.like, hw.like', hw⟩
  · refine inStep_of (p := base.Like s ∧ base.Like s') (fun _ _ hw => ⟨hw.1, hw.2.1⟩) ?_
    rintro ⟨hs, hs'⟩
    rw [h s hs, h' s' hs']
    exact hf.mono (fun _ _ hw => hw.2.2) (fun _ _ _ _ => id) fun _ _ => id

theorem steady_get_bind {f : Service → Operation α}
    (h : ∀ service, base.Like service → f service = f base)
    (hf : Steady base key start start' there (f base) P) :
    Steady base key start start' there (get >>= f) P :=
  inStep_get_bind h h hf

theorem steady_modify {f : Service → Service} (h : ∀ service : Service, service.Like (f service)) :
    Steady base key start start' there (modify f) fun _ => True :=
  inStep_modify fun _ _ hw =>
    ⟨rfl, .intro, { hw with like := hw.like.trans (h _), like' := hw.like'.trans (h _) }⟩

theorem steady_record {event : MetricEvent} :
    Steady base key start start' there (record event) fun _ => True :=
  steady_modify fun _ => ⟨_, _, rfl⟩

/-- What is remembered may differ between the worlds, and so may what is told of its size. -/
theorem steady_changeCache {change : SignatureCache → SignatureCache} :
    Steady base key start start' there (changeCache change) fun _ => True := by
  refine inStep_bind (steady_modify fun _ => ⟨_, _, rfl⟩) fun _ _ => ?_
  refine inStep_bind (Q := fun _ _ => World.Abreast base key start start' there)
    (inStep_get fun _ _ hw => hw.2.2) fun service service' => ?_
  exact inStep_modify fun _ _ hw => ⟨rfl, .intro, { hw with
    like := hw.like.trans ⟨_, _, rfl⟩, like' := hw.like'.trans ⟨_, _, rfl⟩ }⟩

theorem steady_aliasOf :
    Steady base key start start' there (aliasOf key) fun a => a = base.aliasName key := by
  refine steady_get_bind (fun service h => ?_) (steady_pure rfl)
  rw [Service.aliasName_congr h.indexNames]

theorem steady_currentModelMapping :
    Steady base key start start' there currentModelMapping fun m => m = base.mapping := by
  refine steady_get_bind (fun service h => ?_) (steady_pure rfl)
  rw [h.mapping]

/-- A loop over the same items keeps the worlds abreast if each round does. -/
theorem steady_forIn {ι : Type} {f : ι → Operation PUnit} :
    ∀ {items : List ι},
      (∀ i ∈ items, Steady base key start start' there (f i) fun _ => True) →
      Steady base key start start' there
        (forIn items PUnit.unit fun i _ => do f i; pure (ForInStep.yield PUnit.unit)) fun _ => True
  | [], _ => steady_pure .intro
  | i :: items, h => by
    rw [List.forIn_cons]
    have hround : Steady base key start start' there (do f i; pure (ForInStep.yield PUnit.unit))
        (· = ForInStep.yield PUnit.unit) :=
      steady_bind (h i (by simp)) fun _ _ => steady_pure rfl
    refine steady_bind hround ?_
    rintro _ rfl
    exact steady_forIn fun j hj => h j (by simp [hj])

/-! ## Calls -/

section

variable (haround : Store.AlikeAround (base.aliasName key) start start')

include haround

/-- Behind a call that a collection makes about itself the worlds are abreast. -/
theorem abreast_after {c : EngineCall} {w w' : World} (hc : c.Confined (base.aliasName key) there)
    (hw : World.Abreast base key start start' there w w') :
    (Memory.answer c w.memory).1 = (Memory.answer c w'.memory).1 ∧
      World.Abreast base key start start' there ⟨w.service, (Memory.answer c w.memory).2⟩
        ⟨w'.service, (Memory.answer c w'.memory).2⟩ := by
  obtain ⟨hout, hstores⟩ := hw.stores.answer haround hc (hw.calm.trans hw.calm'.symm)
  exact ⟨hout, { hw with
    calm := Memory.calm_answer hw.calm, calm' := Memory.calm_answer hw.calm', stores := hstores }⟩

theorem steady_attempt {c : EngineCall} (hc : c.Confined (base.aliasName key) there) :
    Steady base key start start' there (attempt c) fun _ => True := by
  refine inStep_attempt fun w w' hw => ?_
  obtain ⟨hout, hbehind⟩ := abreast_after haround hc hw
  exact ⟨hout, .intro, hbehind⟩

theorem steady_ask {c : EngineCall} (hc : c.Confined (base.aliasName key) there) :
    Steady base key start start' there (ask c) fun _ => True := by
  refine steady_bind (steady_attempt haround hc) fun o _ => ?_
  cases o with
  | ok => exact steady_pure .intro
  | error => exact steady_throw

/-- An index that is found behind the alias is there. -/
theorem inStep_resolveAlias :
    InStep (World.Abreast base key start start' there) (resolveAlias (base.aliasName key))
      (resolveAlias (base.aliasName key))
      (fun old old' w w' => old = old' ∧ World.Abreast base key start start' (old :: there) w w')
      (World.Abreast base key start start' there) := by
  have hask : InStep (World.Abreast base key start start' there)
      (ask (.getAlias (base.aliasName key))) (ask (.getAlias (base.aliasName key)))
      (fun bound bound' w w' => bound = bound' ∧ World.Abreast base key start start' there w w' ∧
        ∀ i ∈ bound, World.Abreast base key start start' (i :: there) w w')
      (World.Abreast base key start start' there) := by
    refine inStep_ask fun w w' hw => ?_
    obtain ⟨hout, hbehind⟩ := abreast_after haround .getAlias hw
    rw [← hout]
    cases hbound : (Memory.answer (.getAlias (base.aliasName key)) w.memory).1 with
    | error e => exact .error hbehind
    | ok bound =>
      refine .ok ⟨rfl, hbehind, fun i hi => ?_⟩
      have hheard : Answers Memory.answer .none (.getAlias (base.aliasName key)) w.memory (.ok bound)
          (Memory.answer (.getAlias (base.aliasName key)) w.memory).2 := by
        rw [← hbound]
        exact .heard
      rw [hheard.bound_eq] at hi
      have hcarries := Store.mem_carriers.1 hi
      exact { hbehind with stores := { hbehind.stores with
        reserved := List.forall_mem_cons.2
          ⟨hw.stores.reserved_of_carries haround hcarries, hw.stores.reserved⟩
        holds := List.forall_mem_cons.2 ⟨hcarries.contains, hw.stores.holds⟩ } }
  refine inStep_bind hask fun bound bound' => ?_
  refine inStep_of (p := bound = bound') (fun _ _ hw => hw.1) ?_
  rintro rfl
  split
  · rename_i old hnewest
    exact inStep_pure fun _ _ hw => ⟨rfl, hw.2.2 old (mem_of_newestIndex? hnewest)⟩
  · exact inStep_throw fun _ _ hw => hw.2.1

/-- What follows the look at an alias may go by what was found. -/
theorem steady_resolveAlias_bind {f : String → Operation β} {P' : β → Prop}
    (hf : ∀ old, IsReserved (base.aliasName key) old →
      Steady base key start start' (old :: there) (f old) P') :
    Steady base key start start' there (resolveAlias (base.aliasName key) >>= f) P' := by
  refine inStep_bind (inStep_resolveAlias haround) fun old old' => ?_
  refine inStep_of (p := old = old' ∧ IsReserved (base.aliasName key) old)
    (fun _ _ hw => ⟨hw.1, hw.2.stores.reserved old List.mem_cons_self⟩) ?_
  rintro ⟨rfl, hold⟩
  refine (hf old hold).mono (fun _ _ hw => hw.2) (fun _ _ _ _ hw => ⟨hw.1, hw.2.1, ?_⟩) fun _ _ hw => ?_
  · exact hw.2.2.mono fun _ => List.mem_cons_of_mem _
  · exact hw.mono fun _ => List.mem_cons_of_mem _

/-- What follows a new index may go by it. -/
theorem steady_createIndex_bind {name : String} {body : Json} {f : Unit → Operation β} {P' : β → Prop}
    (hname : IsGeneration (base.aliasName key) name)
    (hf : Steady base key start start' (name :: there) (f ()) P') :
    Steady base key start start' there (ask (.createIndex name body) >>= f) P' := by
  have hask : InStep (World.Abreast base key start start' there) (ask (.createIndex name body))
      (ask (.createIndex name body))
      (fun _ _ w w' => World.Abreast base key start start' (name :: there) w w')
      (World.Abreast base key start start' there) := by
    refine inStep_ask fun w w' hw => ?_
    obtain ⟨hout, hbehind⟩ := abreast_after haround (.createIndex hname body) hw
    rw [← hout]
    cases hmade : (Memory.answer (.createIndex name body) w.memory).1 with
    | error e => exact .error hbehind
    | ok =>
      have hheard : Answers Memory.answer .none (.createIndex name body) w.memory (.ok ())
          (Memory.answer (.createIndex name body) w.memory).2 := by
        rw [← hmade]
        exact .heard
      obtain ⟨-, -, hstore⟩ := Store.createIndex_eq_ok.1 hheard.perform_of_ok
      refine .ok { hbehind with stores := { hbehind.stores with
        reserved := List.forall_mem_cons.2 ⟨.inr hname, hbehind.stores.reserved⟩
        holds := List.forall_mem_cons.2 ⟨?_, hbehind.stores.holds⟩ } }
      rw [hstore]
      exact NameMap.contains_insert.2 (.inl rfl)
  refine inStep_bind hask fun _ _ => ?_
  refine hf.mono (fun _ _ => id) (fun _ _ _ _ hw => ⟨hw.1, hw.2.1, ?_⟩) fun _ _ hw => ?_
  · exact hw.2.2.mono fun _ => List.mem_cons_of_mem _
  · exact hw.mono fun _ => List.mem_cons_of_mem _

end

/-! ## Looking -/

/-- A look at the pattern of a collection, no call going wrong. -/
theorem Runs.covered {w w' : World} {t : List (Turn Memory)}
    {r : Except ServiceError (List IndexDescription)} (h : (coveredIndexes key).Runs .none w t r w') :
    t.map Turn.call = [.getIndices (w.service.indexNames.generationPattern key)] ∧
      (∃ found, r = .ok found ∧
        w.memory.store.describe (w.service.indexNames.generationPattern key) = .ok found) ∧
      w'.service = w.service ∧ w'.memory.store = w.memory.store ∧
      w'.memory.pendingFailures = w.memory.pendingFailures := by
  obtain ⟨o, ht, rfl, hservice⟩ := h.1.coveredIndexes
  obtain ⟨s, t', rfl, hlook, ht', hl⟩ := h.2.first ht
  obtain ⟨rfl, rfl⟩ := hl.none ht'
  obtain ⟨found, hfound, hdescribe⟩ := hlook.exists_found
  refine ⟨rfl, ⟨found, hfound, hdescribe⟩, hservice, hlook.store_of_looks fun _ => rfl, ?_⟩
  rw [hlook.of_none.2]
  rfl

/-- The pattern of a collection may cover different indexes in the two worlds, but the same generations
of the collection. -/
theorem inStep_coveredIndexes {E : WorldRel} :
    InStep (World.Abreast base key start start' there) (coveredIndexes key) (coveredIndexes key)
      (fun found found' w w' => ownAmong base.indexNames key found = ownAmong base.indexNames key found' ∧
        World.Abreast base key start start' there w w') E := by
  intro w₁ t₁ r₁ w₁' w₂ t₂ r₂ w₂' hw h₁ h₂
  obtain ⟨ht₁, ⟨found₁, rfl, hfound₁⟩, hservice₁, hstore₁, hcalm₁⟩ := h₁.covered
  obtain ⟨ht₂, ⟨found₂, rfl, hfound₂⟩, hservice₂, hstore₂, hcalm₂⟩ := h₂.covered
  rw [hw.like.indexNames] at ht₁ hfound₁
  rw [hw.like'.indexNames] at ht₂ hfound₂
  refine ⟨ht₁.trans ht₂.symm, .ok ⟨hw.stores.ownAmong_eq hfound₁ hfound₂, ?_⟩⟩
  constructor
  · rw [hservice₁]
    exact hw.like
  · rw [hservice₂]
    exact hw.like'
  · exact hcalm₁.trans hw.calm
  · exact hcalm₂.trans hw.calm'
  · rw [hstore₁, hstore₂]
    exact hw.stores

theorem steady_generations : Steady base key start start' there (generations key) fun found =>
    ∀ g ∈ found, IsGeneration (base.aliasName key) g.name := by
  refine inStep_bind inStep_coveredIndexes fun found found' => ?_
  refine inStep_of (fun _ _ hw => hw.1) fun hown => ?_
  have hread : ∀ found, ∀ service, base.Like service →
      (pure (generationsAmong service.indexNames key found) : Operation (List Generation)) =
        pure (generationsAmong base.indexNames key found) := by
    intro found service h
    rw [h.indexNames]
  refine InStep.mono (inStep_get_bind (hread found) (hread found') ?_) (fun _ _ hw => hw.2)
    (fun _ _ _ _ => id) fun _ _ => id
  refine inStep_pure fun _ _ hw => ⟨?_, fun g hg => ?_, hw⟩
  · rw [← generationsAmong_ownAmong, hown, generationsAmong_ownAmong]
  · obtain ⟨index, -, time, htime, rfl⟩ := mem_generationsAmong.1 hg
    exact Option.isSome_iff_exists.2 ⟨time, htime⟩

theorem steady_nextGeneration : Steady base key start start' there (nextGeneration key) fun name =>
    IsGeneration (base.aliasName key) name := by
  refine steady_get_bind (fun service h => by rw [h.now]) ?_
  refine steady_bind steady_generations fun found _ => ?_
  refine steady_get_bind (fun service h => by rw [h.indexNames]) (steady_pure ?_)
  exact IndexNames.isGeneration_generationName _

/-! ## Operations on a collection -/

section

variable (haround : Store.AlikeAround (base.aliasName key) start start')

include haround

theorem steady_boundIndex? :
    Steady base key start start' there (boundIndex? (base.aliasName key)) fun _ => True := by
  have hresolved : Steady base key start start' there (resolveAlias (base.aliasName key)) fun _ => True :=
    (inStep_resolveAlias haround).mono (fun _ _ => id)
      (fun _ _ _ _ hw => ⟨hw.1, .intro, hw.2.mono fun _ => List.mem_cons_of_mem _⟩) fun _ _ => id
  refine steady_bind (steady_outcome hresolved) fun resolved _ => ?_
  split
  · exact steady_pure .intro
  · exact steady_pure .intro
  · exact steady_throw

theorem steady_whileBlocked {index : String} {op : Operation α} (hindex : index ∈ there)
    (hop : Steady base key start start' there op P) :
    Steady base key start start' there (whileBlocked index op) P := by
  have hblocked : Steady base key start start' there (isBlocked index) fun _ => True :=
    steady_bind (steady_ask haround (.getSettings hindex)) fun _ _ => steady_pure .intro
  have hset : ∀ blocked, Steady base key start start' there (setBlock index blocked) fun _ => True :=
    fun _ => steady_ask haround (.putSettings hindex _)
  refine steady_bind hblocked fun wasBlocked _ => ?_
  split
  · exact hop
  · refine steady_bind (hset true) fun _ _ => steady_bind (steady_outcome hop) fun result hresult => ?_
    refine steady_bind (steady_outcome (hset false)) fun lifted _ => ?_
    exact steady_finish fun a ha => hresult a (bothOutcomes_eq_ok.1 ha).1

theorem steady_updateMapping :
    Steady base key start start' there (updateMapping key) fun _ => True := by
  refine steady_bind steady_aliasOf ?_
  rintro _ rfl
  refine steady_bind steady_currentModelMapping ?_
  rintro _ rfl
  refine steady_bind (steady_attempt haround (.putMapping _)) ?_
  rintro (e | _) -
  · exact steady_bind steady_record fun _ _ => steady_throw
  · exact steady_bind steady_changeCache fun _ _ => steady_bind steady_record fun _ _ =>
      steady_pure .intro

/-- A sweep may delete what the alias was found to be bound to, so nothing has to stay. -/
theorem steady_deleteOrphaned :
    Steady base key start start' [] (deleteOrphaned key) fun _ => True := by
  refine steady_bind steady_aliasOf ?_
  rintro _ rfl
  refine steady_bind (steady_boundIndex? haround) fun current _ =>
    steady_bind steady_generations fun found hfound => ?_
  refine steady_bind (steady_forIn fun g hg => steady_ask haround (.deleteIndex (.inr ?_) (by simp)))
    fun _ _ => steady_bind steady_record fun _ _ => steady_bind steady_record fun _ _ =>
    steady_pure .intro
  exact hfound g (List.mem_filter.1 hg).1

/-- A deletion goes by the generations among what the pattern covers. -/
theorem steady_deleteCollection :
    Steady base key start start' [] (deleteCollection key) fun _ => True := by
  refine inStep_bind inStep_coveredIndexes fun found found' => ?_
  refine inStep_of (fun _ _ hw => hw.1) fun hown => ?_
  refine InStep.mono (inStep_get_bind ?_ ?_ ?_) (fun _ _ hw => hw.2) (fun _ _ _ _ => id) fun _ _ => id
  · rintro _ ⟨cache, metrics, rfl⟩
    rfl
  · rintro _ ⟨cache, metrics, rfl⟩
    rfl
  have hgenerations : ∀ index ∈ ownAmong base.indexNames key found,
      IsGeneration (base.aliasName key) index.name := fun _ => isGeneration_of_mem_ownAmong
  unfold ownAmong at hown hgenerations
  dsimp only
  rw [← hown]
  generalize found.filter _ = own at hgenerations
  refine steady_bind (steady_forIn fun index hindex => ?_) fun _ _ =>
    steady_bind steady_changeCache fun _ _ => steady_bind steady_record fun _ _ =>
    steady_bind steady_record fun _ _ => steady_pure .intro
  have hname := hgenerations index hindex
  exact steady_bind (steady_forIn fun _ _ => steady_ask haround (.deleteAlias (.inr hname) _)) fun _ _ =>
    steady_ask haround (.deleteIndex (.inr hname) (by simp))

theorem steady_reindex :
    Steady base key start start' [] (reindex key) fun _ => True := by
  refine steady_bind steady_aliasOf ?_
  rintro _ rfl
  refine steady_resolveAlias_bind haround fun old hold => ?_
  refine steady_bind steady_currentModelMapping ?_
  rintro _ rfl
  refine steady_bind steady_nextGeneration fun new hnew => ?_
  refine steady_createIndex_bind haround hnew ?_
  have hrebind : Steady base key start start' [new, old] (rebind (base.aliasName key) old new)
      fun _ => True := by
    refine steady_bind (steady_attempt haround (.putAlias (.inr hnew))) ?_
    rintro (e | _) -
    · exact steady_bind steady_record fun _ _ => steady_throw
    · exact steady_ask haround (.deleteAlias hold _)
  have hcopy : Steady base key start start' [new, old]
      (copyAndRebind (base.aliasName key) old new (copyBody old new base.mapping.names))
      fun _ => True := by
    refine steady_bind (steady_attempt haround (.reindex (by simp) (by simp) _)) ?_
    rintro (e | reply) -
    · exact steady_bind steady_record fun _ _ => steady_throw
    show Steady _ _ _ _ _ (if reply.failures.isEmpty then _ else _) _
    split
    · exact steady_bind hrebind fun _ _ => steady_pure .intro
    · exact steady_bind steady_record fun _ _ => steady_throw
  exact steady_bind (steady_whileBlocked haround (by simp) hcopy) fun reply _ =>
    steady_bind steady_changeCache fun _ _ => steady_bind steady_record fun _ _ =>
    steady_bind steady_record fun _ _ => steady_bind steady_record fun _ _ => steady_pure .intro

end

end

end Operation

end SiteSearch
