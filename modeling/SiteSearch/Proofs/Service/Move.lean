import SiteSearch.Proofs.Collection.Generation
import SiteSearch.Proofs.Service.Lookup

/-!
# The course of a move

A reindex scouts first: it looks at the alias and at the generations, and asks for a new index. Where
that succeeds there is a `Move` from the old index to the new one, and its dialogue goes on in one of
three ways (`Move.Goes`): it halts before the new index is bound; it binds the new index and fails to
unbind the old one; or it does both. Only a copy that reports no failures is followed by the binding.

`Says.reindex` says that a reindex has no other dialogues.
-/

namespace SiteSearch

/-- The call that sets or lifts the block of an index. -/
abbrev blockCall (index : String) (blocked : Bool) : EngineCall :=
  .putSettings index (.ofFields [("index.blocks.write", .bool blocked)])

/-- A move of a collection from one index to a new one. -/
structure Move where
  key : CollectionKey
  aliasName : String
  oldIndex : String
  newIndex : String
  /-- The mapping of the new index. -/
  mapping : Mapping

namespace Move

variable (m : Move)

/-! ## The calls of a move -/

abbrev create : EngineCall := .createIndex m.newIndex (indexBody m.key m.mapping)

abbrev look : EngineCall := .getSettings m.oldIndex

abbrev setBlock (blocked : Bool) : EngineCall := blockCall m.oldIndex blocked

abbrev copy : EngineCall := .reindex (copyBody m.oldIndex m.newIndex m.mapping.names)

abbrev bind : EngineCall := .putAlias m.newIndex m.aliasName

abbrev unbind : EngineCall := .deleteAlias m.oldIndex m.aliasName

/-- What a move does once its new index is made. -/
def operation : Operation ReindexReply :=
  Operation.whileBlocked m.oldIndex (Operation.copyAndRebind m.aliasName m.oldIndex m.newIndex
    (copyBody m.oldIndex m.newIndex m.mapping.names))

/-- The exchanges in which a move that succeeds brings over the documents and then the alias. -/
def transfer (reply : ReindexReply) : List Exchange :=
  [⟨m.copy, .ok reply⟩, ⟨m.bind, .ok ()⟩, ⟨m.unbind, .ok ()⟩]

/-- The report of a move. -/
def report (reply : ReindexReply) : ReindexReport :=
  { aliasName := m.aliasName, oldIndex := m.oldIndex, newIndex := m.newIndex, total := reply.total,
    took := reply.took }

/-- Exchanges about the block of the old index. -/
inductive Guards : Exchange → Prop where
  | look (o : m.look.Outcome) : Guards ⟨m.look, o⟩
  | setBlock (blocked : Bool) (o : (m.setBlock blocked).Outcome) : Guards ⟨m.setBlock blocked, o⟩

/-- Exchanges that do not bind the new index. -/
inductive Prepares : Exchange → Prop where
  | guards {x : Exchange} (h : m.Guards x) : Prepares x
  | copy (o : m.copy.Outcome) : Prepares ⟨m.copy, o⟩
  | bind (e : EngineError) : Prepares ⟨m.bind, .error e⟩

/-- The ways in which a move goes on once its new index is made, each with its result. -/
inductive Goes : List Exchange → Except ServiceError ReindexReply → Prop where
  /-- The new index is not bound. -/
  | halted {d : List Exchange} {e : ServiceError} (hd : ∀ x ∈ d, m.Prepares x) : Goes d (.error e)
  /-- The new index is bound, and the old one is not unbound. -/
  | doubled {d₁ d₂ : List Exchange} {reply : ReindexReply} {e : EngineError}
    (h₁ : ∀ x ∈ d₁, m.Guards x) (h₂ : ∀ x ∈ d₂, m.Guards x) (hclean : reply.failures = []) :
    Goes (d₁ ++ ⟨m.copy, .ok reply⟩ :: ⟨m.bind, .ok ()⟩ :: ⟨m.unbind, .error e⟩ :: d₂)
      (.error (.ofEngine e))
  /-- The new index is bound in place of the old one. -/
  | moved {d₁ d₂ : List Exchange} {reply : ReindexReply} {r : Except ServiceError ReindexReply}
    (h₁ : ∀ x ∈ d₁, m.Guards x) (h₂ : ∀ x ∈ d₂, m.Guards x) (hclean : reply.failures = [])
    (hr : r = .ok reply ∨ ∃ e, r = .error (.ofEngine e)) :
    Goes (d₁ ++ ⟨m.copy, .ok reply⟩ :: ⟨m.bind, .ok ()⟩ :: ⟨m.unbind, .ok ()⟩ :: d₂) r

/-- Exchanges of a reindex that comes to no move. -/
inductive Scouts : Exchange → Prop where
  | getAlias {name : String} (o : (EngineCall.getAlias name).Outcome) : Scouts ⟨.getAlias name, o⟩
  | getIndices {pattern : String} (o : (EngineCall.getIndices pattern).Outcome) :
    Scouts ⟨.getIndices pattern, o⟩
  | refused (m : Move) (e : EngineError) : Scouts ⟨m.create, .error e⟩

/-- The move is one that a reindex of the collection may come to. -/
structure For (service : Service) (key : CollectionKey) : Prop where
  key_eq : m.key = key
  alias_eq : m.aliasName = service.aliasName key
  mapping_eq : m.mapping = service.mapping
  generation : IsGeneration m.aliasName m.newIndex

variable {m} {d : List Exchange} {r : Except ServiceError ReindexReply} {x : Exchange}

theorem Goes.cons (hx : m.Guards x) (h : m.Goes d r) : m.Goes (x :: d) r := by
  have hcons : ∀ {P : Exchange → Prop} {d : List Exchange}, P x → (∀ y ∈ d, P y) →
      ∀ y ∈ x :: d, P y := by
    intro P d hx hd y hy
    rcases List.mem_cons.1 hy with rfl | hy
    · exact hx
    · exact hd y hy
  cases h with
  | halted hd => exact .halted (hcons (.guards hx) hd)
  | doubled h₁ h₂ hclean => exact .doubled (hcons hx h₁) h₂ hclean
  | moved h₁ h₂ hclean hr => exact .moved (hcons hx h₁) h₂ hclean hr

/-- When the block is lifted at the end, its outcome counts only where all else has succeeded. -/
theorem Goes.lift {o : (m.setBlock false).Outcome} (h : m.Goes d r) :
    m.Goes (d ++ [⟨m.setBlock false, o⟩]) (Operation.bothOutcomes r (Operation.resultOf o)) := by
  have hlift : m.Guards ⟨m.setBlock false, o⟩ := .setBlock false o
  have happend : ∀ {P : Exchange → Prop} {d : List Exchange} {y : Exchange}, P y →
      (∀ z ∈ d, P z) → ∀ z ∈ d ++ [y], P z := by
    intro P d y hy hd z hz
    rcases List.mem_append.1 hz with hz | hz
    · exact hd z hz
    · rw [List.mem_singleton.1 hz]
      exact hy
  cases h with
  | halted hd => exact .halted (happend (.guards hlift) hd)
  | doubled h₁ h₂ hclean =>
    rw [List.append_assoc]
    exact .doubled h₁ (happend hlift h₂) hclean
  | moved h₁ h₂ hclean hr =>
    rw [List.append_assoc]
    refine .moved h₁ (happend hlift h₂) hclean ?_
    rcases hr with rfl | ⟨e, rfl⟩
    · rcases o with e | _
      · exact .inr ⟨e, rfl⟩
      · exact .inl rfl
    · exact .inr ⟨e, rfl⟩

/-- Where the copy or the binding fails, or the copy reports failures, the new index is not bound. -/
theorem Goes.prepares_of_failed (h : m.Goes d r)
    (hfailed : (∃ old new n, r = .error (.partialFailure old new n)) ∨
      ∃ e, ⟨m.copy, .error e⟩ ∈ d ∨ ⟨m.bind, .error e⟩ ∈ d) : ∀ x ∈ d, m.Prepares x := by
  have hguards : ∀ {d : List Exchange} {e : EngineError}, (∀ x ∈ d, m.Guards x) →
      ⟨m.copy, .error e⟩ ∉ d ∧ ⟨m.bind, .error e⟩ ∉ d := by
    intro d e hd
    constructor
    · intro hmem
      cases hd _ hmem
    · intro hmem
      cases hd _ hmem
  cases h with
  | halted hd => exact hd
  | @doubled _ _ _ e h₁ h₂ _ =>
    obtain ⟨old, new, n, heq⟩ | ⟨e', hmem⟩ := hfailed
    · cases e <;> cases heq
    · simp [hguards h₁, hguards h₂] at hmem
  | moved h₁ h₂ _ hr =>
    obtain ⟨old, new, n, rfl⟩ | ⟨e, hmem⟩ := hfailed
    · rcases hr with heq | ⟨e, heq⟩
      · cases heq
      · cases e <;> cases heq
    · simp [hguards h₁, hguards h₂] at hmem

end Move

namespace Operation

variable {service service' : Service} {d : List Exchange} {m : Move}

theorem Says.rebind {r : Except ServiceError Unit}
    (h : (rebind m.aliasName m.oldIndex m.newIndex).Says service d r service') :
    (∃ e, d = [⟨m.bind, .error e⟩] ∧ r = .error (.ofEngine e)) ∨
      ∃ o, d = [⟨m.bind, .ok ()⟩, ⟨m.unbind, o⟩] ∧ r = resultOf o ∧ service' = service := by
  unfold Operation.rebind at h
  rw [says_attempt_bind] at h
  obtain ⟨e | _, d', rfl, h⟩ := h
  · obtain ⟨rfl, rfl, -⟩ := says_throw.1 (says_record_bind.1 h)
    exact .inl ⟨e, rfl, rfl⟩
  · obtain ⟨o, rfl, rfl, rfl⟩ := says_ask.1 h
    exact .inr ⟨o, rfl, rfl, rfl⟩

/-- The dialogues of a copy and the binding behind it: each call is made only where those before it
have succeeded, and the binding only where the copy reports no failures. -/
theorem Says.copyAndRebind {r : Except ServiceError ReindexReply}
    (h : (copyAndRebind m.aliasName m.oldIndex m.newIndex
      (copyBody m.oldIndex m.newIndex m.mapping.names)).Says service d r service') :
    (∃ o e, (∀ reply, o = .ok reply → reply.failures ≠ []) ∧ d = [⟨m.copy, o⟩] ∧ r = .error e) ∨
    (∃ reply e, d = [⟨m.copy, .ok reply⟩, ⟨m.bind, .error e⟩] ∧ r = .error (.ofEngine e)) ∨
    ∃ reply o, reply.failures = [] ∧
      d = [⟨m.copy, .ok reply⟩, ⟨m.bind, .ok ()⟩, ⟨m.unbind, o⟩] ∧
      r = (resultOf o).map (fun _ => reply) ∧ service' = service := by
  unfold Operation.copyAndRebind at h
  rw [says_attempt_bind] at h
  obtain ⟨e | reply, d', rfl, h⟩ := h
  · obtain ⟨rfl, rfl, -⟩ := says_throw.1 (says_record_bind.1 h)
    exact .inl ⟨_, _, by simp, rfl, rfl⟩
  dsimp only at h
  split at h
  · rename_i hclean
    have hclean : reply.failures = [] := List.isEmpty_iff.1 hclean
    right
    obtain ⟨e, hrebind, rfl⟩ | ⟨_, service₁, d₁, d₂, rfl, hrebind, hdone⟩ := says_bind.1 h
    · obtain ⟨e', rfl, heq⟩ | ⟨o, rfl, heq, rfl⟩ := hrebind.rebind
      · cases heq
        exact .inl ⟨reply, e', rfl, rfl⟩
      · exact .inr ⟨reply, o, hclean, rfl, by rw [← heq]; rfl, rfl⟩
    · obtain ⟨e', -, heq⟩ | ⟨o, rfl, heq, rfl⟩ := hrebind.rebind
      · cases heq
      · obtain ⟨rfl, rfl, rfl⟩ := says_pure.1 hdone
        exact .inr ⟨reply, o, hclean, rfl, by rw [← heq]; rfl, rfl⟩
  · rename_i hunclean
    obtain ⟨rfl, rfl, -⟩ := says_throw.1 (says_record_bind.1 h)
    refine .inl ⟨_, _, fun reply' heq hclean => hunclean ?_, rfl, rfl⟩
    rw [Except.ok.inj heq, hclean]
    rfl

theorem Says.copyAndRebind_goes {r : Except ServiceError ReindexReply}
    (h : (Operation.copyAndRebind m.aliasName m.oldIndex m.newIndex
      (copyBody m.oldIndex m.newIndex m.mapping.names)).Says service d r service') :
    m.Goes d r := by
  have hnone : ∀ x ∈ ([] : List Exchange), m.Guards x := by simp
  obtain ⟨o, e, -, rfl, rfl⟩ | ⟨reply, e, rfl, rfl⟩ | ⟨reply, e | _, hclean, rfl, rfl, -⟩ :=
    h.copyAndRebind
  · refine .halted fun x hx => ?_
    rw [List.mem_singleton.1 hx]
    exact .copy _
  · refine .halted fun x hx => ?_
    obtain rfl | rfl : x = _ ∨ x = _ := by simpa using hx
    · exact .copy _
    · exact .bind _
  · exact .doubled hnone hnone hclean
  · exact .moved hnone hnone hclean (.inl rfl)

theorem bothOutcomes_eq_ok {α : Type} {result : Except ServiceError α}
    {lifted : Except ServiceError Unit} {a : α} :
    bothOutcomes result lifted = .ok a ↔ result = .ok a ∧ lifted = .ok () := by
  obtain _ | _ := result <;> obtain _ | _ := lifted <;> simp [bothOutcomes]

/-- The dialogues of an operation under the block: it is run without more ado where the index is
blocked already; otherwise the block is set before and lifted behind it. -/
theorem Says.whileBlocked {α : Type} {op : Operation α} {index : String} {r : Except ServiceError α}
    (h : (whileBlocked index op).Says service d r service') :
    (∃ e, d = [⟨.getSettings index, .error e⟩] ∧ r = .error (.ofEngine e)) ∨
    (∃ settings d', saysBlocked settings = true ∧ d = ⟨.getSettings index, .ok settings⟩ :: d' ∧
      op.Says service d' r service') ∨
    (∃ settings e, d = [⟨.getSettings index, .ok settings⟩, ⟨blockCall index true, .error e⟩] ∧
      r = .error (.ofEngine e)) ∨
    ∃ settings d' r' o, saysBlocked settings = false ∧
      d = ⟨.getSettings index, .ok settings⟩ :: ⟨blockCall index true, .ok ()⟩ ::
        (d' ++ [⟨blockCall index false, o⟩]) ∧
      op.Says service d' r' service' ∧ r = bothOutcomes r' (resultOf o) := by
  unfold Operation.whileBlocked Operation.isBlocked at h
  obtain ⟨e, hlook, rfl⟩ | ⟨blocked, service₁, d₁, d₂, rfl, hlook, hrest⟩ := says_bind.1 h
  · obtain ⟨e', rfl, ⟨⟩, -⟩ | ⟨settings, d', -, hpure⟩ := says_ask_bind.1 hlook
    · exact .inl ⟨e', rfl, rfl⟩
    · cases (says_pure.1 hpure).2.1
  obtain ⟨e', -, ⟨⟩, -⟩ | ⟨settings, d', rfl, hpure⟩ := says_ask_bind.1 hlook
  obtain ⟨rfl, ⟨⟩, rfl⟩ := says_pure.1 hpure
  right
  split at hrest
  · rename_i hblocked
    exact .inl ⟨settings, d₂, hblocked, rfl, hrest⟩
  · rename_i hblocked
    right
    unfold Operation.setBlock at hrest
    obtain ⟨e, rfl, rfl, -⟩ | ⟨_, d', rfl, hinner⟩ := says_ask_bind.1 hrest
    · exact .inl ⟨settings, e, rfl, rfl⟩
    · obtain ⟨r', service₂, d₃, d₄, rfl, hop, houter⟩ := says_outcome_bind.1 hinner
      obtain ⟨lifted, service₃, d₅, d₆, rfl, hlift, hend⟩ := says_outcome_bind.1 houter
      obtain ⟨o, rfl, rfl, rfl⟩ := says_ask.1 hlift
      obtain ⟨rfl, rfl, rfl⟩ := says_finish.1 hend
      exact .inr ⟨settings, d₃, r', o, by simpa using hblocked, by simp, hop, rfl⟩

/-- A move goes on in one of the three ways. -/
theorem Says.goes {r : Except ServiceError ReindexReply}
    (h : m.operation.Says service d r service') : m.Goes d r := by
  obtain ⟨e, rfl, rfl⟩ | ⟨settings, d', -, rfl, hop⟩ | ⟨settings, e, rfl, rfl⟩ |
    ⟨settings, d', r', o, -, rfl, hop, rfl⟩ := h.whileBlocked
  · refine .halted fun x hx => ?_
    rw [List.mem_singleton.1 hx]
    exact .guards (.look _)
  · exact hop.copyAndRebind_goes.cons (.look _)
  · refine .halted fun x hx => ?_
    obtain rfl | rfl : x = _ ∨ x = _ := by simpa using hx
    · exact .guards (.look _)
    · exact .guards (.setBlock true _)
  · exact (hop.copyAndRebind_goes.lift.cons (.setBlock true _)).cons (.look _)

/-! ## The whole of a reindex -/

/-- A reindex either comes to no move, or it finds the old index behind the alias and makes the new
one, and the move begins. Behind a move that succeeds the signature is remembered. -/
theorem Says.reindex {key : CollectionKey} {r : Except ServiceError ReindexReport}
    (h : (reindex key).Says service d r service') :
    ((∃ e, r = .error e) ∧ service' = service ∧ ∀ x ∈ d, Move.Scouts x) ∨
    ∃ m : Move, m.For service key ∧ ∃ bound found described d' r' service₁,
      newestIndex? bound = some m.oldIndex ∧ foundIn found = .ok described ∧
      m.newIndex = service.newName key described ∧
      d = ⟨.getAlias m.aliasName, .ok bound⟩ ::
        ⟨.getIndices (service.indexNames.generationPattern key), found⟩ ::
        ⟨m.create, .ok ()⟩ :: d' ∧
      m.operation.Says service d' r' service₁ ∧ r = r'.map m.report ∧
      ∀ reply, r' = .ok reply →
        service'.cache = service₁.cache.insert key service.mapping.signature := by
  unfold Operation.reindex at h
  rw [says_aliasOf_bind] at h
  obtain ⟨e, hresolve, rfl⟩ | ⟨old, service₁, d₁, d₂, rfl, hresolve, hrest⟩ := says_bind.1 h
  · obtain ⟨o, rfl, -, rfl⟩ := hresolve.resolveAlias
    refine .inl ⟨⟨e, rfl⟩, rfl, fun x hx => ?_⟩
    rw [List.mem_singleton.1 hx]
    exact .getAlias _
  obtain ⟨o, rfl, hold, rfl⟩ := hresolve.resolveAlias
  obtain ⟨bound, rfl, hnewest⟩ := resolvedIn_eq_ok hold.symm
  rw [says_currentModelMapping_bind] at hrest
  obtain ⟨e, hnext, rfl⟩ | ⟨new, service₂, d₃, d₄, rfl, hnext, hcreate⟩ := says_bind.1 hrest
  · obtain ⟨found, rfl, -, rfl⟩ := hnext.nextGeneration
    refine .inl ⟨⟨e, rfl⟩, rfl, fun x hx => ?_⟩
    obtain rfl | rfl : x = _ ∨ x = _ := by simpa using hx
    · exact .getAlias _
    · exact .getIndices _
  obtain ⟨found, rfl, hnew, rfl⟩ := hnext.nextGeneration
  obtain ⟨described, hin, rfl⟩ := map_eq_ok.1 hnew.symm
  have hgeneration : IsGeneration (service₂.aliasName key) (service₂.newName key described) :=
    IndexNames.isGeneration_generationName _
  let m : Move := ⟨key, service₂.aliasName key, old, service₂.newName key described, service₂.mapping⟩
  obtain ⟨e, rfl, rfl, rfl⟩ | ⟨_, d', rfl, hmove⟩ := says_ask_bind.1 hcreate
  · refine .inl ⟨⟨_, rfl⟩, rfl, fun x hx => ?_⟩
    obtain rfl | rfl | rfl : x = _ ∨ x = _ ∨ x = _ := by simpa using hx
    · exact .getAlias _
    · exact .getIndices _
    · exact .refused m e
  refine .inr ⟨m, ⟨rfl, rfl, rfl, hgeneration⟩, bound, found, described, ?_⟩
  obtain ⟨e, hop, rfl⟩ | ⟨reply, service₃, d₅, d₆, rfl, hop, hend⟩ := says_bind.1 hmove
  · exact ⟨d', .error e, service', hnewest, hin, rfl, rfl, hop, rfl, by simp⟩
  · unfold rememberSignature at hend
    rw [says_changeCache_bind, says_record_bind, says_record_bind, says_record_bind] at hend
    obtain ⟨rfl, rfl, rfl⟩ := says_pure.1 hend
    exact ⟨d₅, .ok reply, service₃, hnewest, hin, rfl, by rw [List.append_nil]; rfl, hop, rfl,
      fun _ _ => rfl⟩

/-- A reindex that succeeds has one of two dialogues. Between its opening and the end it sets the block
and lifts it again, unless it finds that the old index is blocked already. -/
theorem Says.reindex_ok {key : CollectionKey} {report : ReindexReport}
    (h : (Operation.reindex key).Says service d (.ok report) service') :
    ∃ m : Move, m.For service key ∧ ∃ bound found settings reply d',
      newestIndex? bound = some m.oldIndex ∧ report = m.report reply ∧
      d = ⟨.getAlias m.aliasName, .ok bound⟩ ::
        ⟨.getIndices (service.indexNames.generationPattern key), found⟩ ::
        ⟨m.create, .ok ()⟩ :: ⟨m.look, .ok settings⟩ :: d' ∧
      (saysBlocked settings = true ∧ d' = m.transfer reply ∨
        saysBlocked settings = false ∧ d' = ⟨m.setBlock true, .ok ()⟩ ::
          (m.transfer reply ++ [⟨m.setBlock false, .ok ()⟩])) := by
  have htransfer : ∀ {m : Move} {d : List Exchange} {reply : ReindexReply} {s s' : Service},
      (Operation.copyAndRebind m.aliasName m.oldIndex m.newIndex
        (copyBody m.oldIndex m.newIndex m.mapping.names)).Says s d (.ok reply) s' →
      d = m.transfer reply := by
    intro m d reply s s' h
    obtain ⟨o, e, -, -, heq⟩ | ⟨reply', e, -, heq⟩ | ⟨reply', e | _, -, rfl, heq, -⟩ :=
      h.copyAndRebind
    · cases heq
    · cases heq
    · cases heq
    · obtain rfl := Except.ok.inj heq
      rfl
  obtain ⟨⟨e, heq⟩, -⟩ | ⟨m, hm, bound, found, -, d', r', service₁, hnewest, -, -, rfl, hmove, heq, -⟩ :=
    h.reindex
  · cases heq
  obtain e | reply := r'
  · cases heq
  obtain rfl := Except.ok.inj heq
  obtain ⟨e, -, heq⟩ | ⟨settings, d₁, hblocked, rfl, hop⟩ | ⟨settings, e, -, heq⟩ |
    ⟨settings, d₁, r₁, o, hfree, rfl, hop, heq⟩ := hmove.whileBlocked
  · cases heq
  · exact ⟨m, hm, bound, found, settings, reply, _, hnewest, rfl, rfl,
      .inl ⟨hblocked, htransfer hop⟩⟩
  · cases heq
  · obtain e | reply' := r₁
    · cases heq
    obtain e | _ := o
    · cases heq
    obtain rfl := Except.ok.inj heq
    rw [htransfer hop]
    exact ⟨m, hm, bound, found, settings, reply, _, hnewest, rfl, rfl, .inr ⟨hfree, rfl⟩⟩

end Operation

end SiteSearch
