import SiteSearch.Proofs.Engine.Run
import SiteSearch.Service.Operation

/-!
# Dialogues of operations

What an operation of the service says to the engine, from one state of the service to the next
(`Operation.Says`). There is one rule for each way to build an operation; `says_bind` is the one
that takes longer operations apart.

`Operation.AsksOnly` bounds the calls of an operation from above: whatever the engine answers, it
makes only calls of one kind and comes only to results of one kind, and it never changes how indexes
are named.
-/

namespace SiteSearch

/-- Services that name indexes alike have the same alias for a collection. -/
theorem Service.aliasName_congr {service service' : Service} {key : CollectionKey}
    (h : service'.indexNames = service.indexNames) :
    service'.aliasName key = service.aliasName key := by
  rw [Service.aliasName, h, Service.aliasName]

namespace Operation

variable {α β : Type}

/-- The dialogues of an operation, each with its result and the state of the service behind it. -/
def Says (op : Operation α) (service : Service) (d : List Exchange) (r : Except ServiceError α)
    (service' : Service) : Prop :=
  Program.Says (op.run.run service) d (r, service')

section

variable {service service' : Service} {d : List Exchange}

theorem says_pure {a : α} {r : Except ServiceError α} :
    (pure a : Operation α).Says service d r service' ↔
      d = [] ∧ r = .ok a ∧ service' = service := by
  show d = [] ∧ (r, service') = (.ok a, service) ↔ _
  simp

theorem says_throw {e : ServiceError} {r : Except ServiceError α} :
    (throw e : Operation α).Says service d r service' ↔
      d = [] ∧ r = .error e ∧ service' = service := by
  show d = [] ∧ (r, service') = (.error e, service) ↔ _
  simp

/-- What follows a result: the next operation, or nothing behind a failure. -/
def followedBy (f : α → Operation β) :
    Except ServiceError α × Service → Program (Except ServiceError β × Service)
  | (.ok a, service) => (f a).run.run service
  | (.error e, service) => .done (.error e, service)

theorem says_bind {op : Operation α} {f : α → Operation β} {r : Except ServiceError β} :
    (op >>= f).Says service d r service' ↔
      (∃ e, op.Says service d (.error e) service' ∧ r = .error e) ∨
      ∃ a service₁ d₁ d₂, d = d₁ ++ d₂ ∧ op.Says service d₁ (.ok a) service₁ ∧
        (f a).Says service₁ d₂ r service' := by
  have hrun : (op >>= f).run.run service = (op.run.run service).bind (followedBy f) := by
    show Program.bind _ _ = Program.bind _ _
    congr 1
    funext p
    obtain ⟨r | r, s⟩ := p <;> rfl
  rw [Says, hrun, Program.says_bind]
  constructor
  · rintro ⟨d₁, ⟨r₁, service₁⟩, d₂, rfl, h₁, h₂⟩
    cases r₁ with
    | ok a => exact .inr ⟨a, service₁, d₁, d₂, rfl, h₁, h₂⟩
    | error e =>
      obtain ⟨rfl, heq⟩ := h₂
      obtain ⟨rfl, rfl⟩ := Prod.mk.inj heq
      rw [List.append_nil]
      exact .inl ⟨e, h₁, rfl⟩
  · rintro (⟨e, h, rfl⟩ | ⟨a, service₁, d₁, d₂, rfl, h₁, h₂⟩)
    · exact ⟨d, (.error e, service'), [], by simp, h, rfl, rfl⟩
    · exact ⟨d₁, (.ok a, service₁), d₂, rfl, h₁, h₂⟩

theorem says_get {r : Except ServiceError Service} :
    (get : Operation Service).Says service d r service' ↔
      d = [] ∧ r = .ok service ∧ service' = service := by
  show d = [] ∧ (r, service') = (.ok service, service) ↔ _
  simp

theorem says_modify {f : Service → Service} {r : Except ServiceError Unit} :
    (modify f : Operation Unit).Says service d r service' ↔
      d = [] ∧ r = .ok () ∧ service' = f service := by
  show d = [] ∧ (r, service') = (.ok (), f service) ↔ _
  simp

theorem says_attempt {c : EngineCall} {r : Except ServiceError c.Outcome} :
    (attempt c).Says service d r service' ↔
      ∃ o, d = [⟨c, o⟩] ∧ r = .ok o ∧ service' = service := by
  constructor
  · rintro ⟨o, d', rfl, rfl, h⟩
    obtain ⟨rfl, rfl⟩ := Prod.mk.inj h
    exact ⟨o, rfl, rfl, rfl⟩
  · rintro ⟨o, rfl, rfl, rfl⟩
    exact ⟨o, [], rfl, rfl, rfl⟩

/-- The result that the outcome of a call stands for. -/
def resultOf (o : Except EngineError α) : Except ServiceError α :=
  o.mapError .ofEngine

theorem resultOf_eq_ok {o : Except EngineError α} {a : α} : resultOf o = .ok a ↔ o = .ok a := by
  cases o with
  | error e => exact ⟨nofun, nofun⟩
  | ok b =>
    constructor <;>
    · intro h
      obtain rfl := Except.ok.inj h
      rfl

theorem says_ofOutcome {o : Except EngineError α} {r : Except ServiceError α} :
    (ofOutcome o).Says service d r service' ↔
      d = [] ∧ r = resultOf o ∧ service' = service := by
  cases o with
  | ok a => exact says_pure
  | error e => exact says_throw

theorem says_ask {c : EngineCall} {r : Except ServiceError c.Answer} :
    (ask c).Says service d r service' ↔
      ∃ o, d = [⟨c, o⟩] ∧ r = resultOf o ∧ service' = service := by
  rw [ask, says_bind]
  constructor
  · rintro (⟨e, h, rfl⟩ | ⟨o, service₁, d₁, d₂, rfl, h₁, h₂⟩)
    · obtain ⟨o, -, heq, -⟩ := says_attempt.1 h
      cases heq
    · obtain ⟨o', rfl, heq, rfl⟩ := says_attempt.1 h₁
      cases heq
      obtain ⟨rfl, rfl, rfl⟩ := says_ofOutcome.1 h₂
      exact ⟨o, by simp, rfl, rfl⟩
  · rintro ⟨o, rfl, rfl, rfl⟩
    exact .inr ⟨o, service', [⟨c, o⟩], [], by simp, says_attempt.2 ⟨o, rfl, rfl, rfl⟩,
      says_ofOutcome.2 ⟨rfl, rfl, rfl⟩⟩

theorem says_outcome {op : Operation α} {r : Except ServiceError (Except ServiceError α)} :
    (outcome op).Says service d r service' ↔
      ∃ r', op.Says service d r' service' ∧ r = .ok r' := by
  have hrun : (outcome op).run.run service =
      (op.run.run service).bind fun p => .done (.ok p.1, p.2) := rfl
  rw [Says, hrun, Program.says_bind]
  constructor
  · rintro ⟨d₁, ⟨r', service₁⟩, d₂, rfl, h₁, rfl, heq⟩
    obtain ⟨rfl, rfl⟩ := Prod.mk.inj heq
    rw [List.append_nil]
    exact ⟨r', h₁, rfl⟩
  · rintro ⟨r', h, rfl⟩
    exact ⟨d, (r', service'), [], by simp, h, rfl, rfl⟩

theorem says_finish {r' r : Except ServiceError α} :
    (finish r').Says service d r service' ↔ d = [] ∧ r = r' ∧ service' = service := by
  cases r' with
  | ok a => exact says_pure
  | error e => exact says_throw

theorem says_record {event : MetricEvent} {r : Except ServiceError Unit} :
    (record event).Says service d r service' ↔
      d = [] ∧ r = .ok () ∧ service' = { service with metrics := service.metrics ++ [event] } :=
  says_modify

theorem says_aliasOf {key : CollectionKey} {r : Except ServiceError String} :
    (aliasOf key).Says service d r service' ↔
      d = [] ∧ r = .ok (service.aliasName key) ∧ service' = service := by
  show d = [] ∧ (r, service') = (.ok (service.aliasName key), service) ↔ _
  simp

theorem says_currentModelMapping {r : Except ServiceError Mapping} :
    currentModelMapping.Says service d r service' ↔
      d = [] ∧ r = .ok service.mapping ∧ service' = service := by
  show d = [] ∧ (r, service') = (.ok service.mapping, service) ↔ _
  simp

/-! ### Opening a sequence

Where the first of two operations cannot fail, the failing branch of `says_bind` drops out. -/

variable {r : Except ServiceError β}

theorem says_silent_bind {op : Operation α} {f : α → Operation β} {a : α} {service₁ : Service}
    (hop : ∀ d r service', op.Says service d r service' ↔
      d = [] ∧ r = .ok a ∧ service' = service₁) :
    (op >>= f).Says service d r service' ↔ (f a).Says service₁ d r service' := by
  rw [says_bind]
  constructor
  · rintro (⟨e, h, -⟩ | ⟨_, _, d₁, d₂, rfl, h, hf⟩)
    · cases ((hop _ _ _).1 h).2.1
    · obtain ⟨rfl, ⟨⟩, rfl⟩ := (hop _ _ _).1 h
      exact hf
  · intro hf
    exact .inr ⟨a, service₁, [], d, rfl, (hop _ _ _).2 ⟨rfl, rfl, rfl⟩, hf⟩

theorem says_get_bind {f : Service → Operation β} :
    (get >>= f).Says service d r service' ↔ (f service).Says service d r service' :=
  says_silent_bind fun _ _ _ => says_get

theorem says_modify_bind {g : Service → Service} {f : PUnit → Operation β} :
    (modify g >>= f).Says service d r service' ↔ (f ⟨⟩).Says (g service) d r service' :=
  says_silent_bind fun _ _ _ => says_modify

theorem says_record_bind {event : MetricEvent} {f : PUnit → Operation β} :
    (record event >>= f).Says service d r service' ↔
      (f ⟨⟩).Says { service with metrics := service.metrics ++ [event] } d r service' :=
  says_modify_bind

theorem says_aliasOf_bind {key : CollectionKey} {f : String → Operation β} :
    (aliasOf key >>= f).Says service d r service' ↔
      (f (service.aliasName key)).Says service d r service' :=
  says_silent_bind fun _ _ _ => says_aliasOf

theorem says_currentModelMapping_bind {f : Mapping → Operation β} :
    (currentModelMapping >>= f).Says service d r service' ↔
      (f service.mapping).Says service d r service' :=
  says_silent_bind fun _ _ _ => says_currentModelMapping

theorem says_changeCache_bind {change : SignatureCache → SignatureCache}
    {f : PUnit → Operation β} :
    (changeCache change >>= f).Says service d r service' ↔
      (f ⟨⟩).Says { service with
        cache := change service.cache
        metrics := service.metrics ++ [.signatureEntries (change service.cache).size] } d r
        service' := by
  refine says_silent_bind fun d r service' => ?_
  rw [changeCache, says_modify_bind, says_get_bind]
  exact says_record

theorem says_attempt_bind {c : EngineCall} {f : c.Outcome → Operation β} :
    (attempt c >>= f).Says service d r service' ↔
      ∃ o d', d = ⟨c, o⟩ :: d' ∧ (f o).Says service d' r service' := by
  rw [says_bind]
  constructor
  · rintro (⟨e, h, -⟩ | ⟨o, _, d₁, d₂, rfl, h, hf⟩)
    · obtain ⟨_, -, heq, -⟩ := says_attempt.1 h
      cases heq
    · obtain ⟨_, rfl, ⟨⟩, rfl⟩ := says_attempt.1 h
      exact ⟨o, d₂, rfl, hf⟩
  · rintro ⟨o, d', rfl, hf⟩
    exact .inr ⟨o, service, [_], d', rfl, says_attempt.2 ⟨o, rfl, rfl, rfl⟩, hf⟩

theorem says_ask_bind {c : EngineCall} {f : c.Answer → Operation β} :
    (ask c >>= f).Says service d r service' ↔
      (∃ e, d = [⟨c, .error e⟩] ∧ r = .error (.ofEngine e) ∧ service' = service) ∨
      ∃ a d', d = ⟨c, .ok a⟩ :: d' ∧ (f a).Says service d' r service' := by
  rw [says_bind]
  constructor
  · rintro (⟨e, h, rfl⟩ | ⟨a, _, d₁, d₂, rfl, h, hf⟩)
    · obtain ⟨o | o, rfl, ⟨⟩, rfl⟩ := says_ask.1 h
      exact .inl ⟨o, rfl, rfl, rfl⟩
    · obtain ⟨o | o, rfl, ⟨⟩, rfl⟩ := says_ask.1 h
      exact .inr ⟨a, d₂, rfl, hf⟩
  · rintro (⟨e, rfl, rfl, rfl⟩ | ⟨a, d', rfl, hf⟩)
    · exact .inl ⟨.ofEngine e, says_ask.2 ⟨_, rfl, rfl, rfl⟩, rfl⟩
    · exact .inr ⟨a, service, [_], d', rfl, says_ask.2 ⟨_, rfl, rfl, rfl⟩, hf⟩

theorem says_outcome_bind {op : Operation α} {f : Except ServiceError α → Operation β} :
    (outcome op >>= f).Says service d r service' ↔
      ∃ r' service₁ d₁ d₂, d = d₁ ++ d₂ ∧ op.Says service d₁ r' service₁ ∧
        (f r').Says service₁ d₂ r service' := by
  rw [says_bind]
  constructor
  · rintro (⟨e, h, -⟩ | ⟨r', service₁, d₁, d₂, rfl, h, hf⟩)
    · obtain ⟨_, -, heq⟩ := says_outcome.1 h
      cases heq
    · obtain ⟨_, hop, ⟨⟩⟩ := says_outcome.1 h
      exact ⟨r', service₁, d₁, d₂, rfl, hop, hf⟩
  · rintro ⟨r', service₁, d₁, d₂, rfl, hop, hf⟩
    exact .inr ⟨r', service₁, d₁, d₂, rfl, says_outcome.2 ⟨r', hop, rfl⟩, hf⟩

end

/-! ## Bounds -/

/-- Whatever the engine answers, the operation makes only calls of a kind and comes only to results
of a kind, and leaves the naming of indexes as it is. -/
def AsksOnly (names : IndexNames) (P : EngineCall → Prop) (op : Operation α) (Q : α → Prop) : Prop :=
  ∀ ⦃service : Service⦄ ⦃d : List Exchange⦄ ⦃r : Except ServiceError α⦄ ⦃service' : Service⦄,
    service.indexNames = names → op.Says service d r service' →
      service'.indexNames = names ∧ (∀ x ∈ d, P x.1) ∧ ∀ a, r = .ok a → Q a

section

variable {names : IndexNames} {P P' : EngineCall → Prop} {Q Q' : α → Prop}

theorem AsksOnly.mono {op : Operation α} (h : AsksOnly names P op Q) (hP : ∀ c, P c → P' c)
    (hQ : ∀ a, Q a → Q' a) : AsksOnly names P' op Q' := by
  intro service d r service' hnames hop
  obtain ⟨h₁, h₂, h₃⟩ := h hnames hop
  exact ⟨h₁, fun x hx => hP _ (h₂ x hx), fun a ha => hQ a (h₃ a ha)⟩

theorem asksOnly_pure {a : α} (h : Q a) : AsksOnly names P (pure a) Q := by
  intro service d r service' hnames hop
  obtain ⟨rfl, rfl, rfl⟩ := says_pure.1 hop
  refine ⟨hnames, by simp, ?_⟩
  rintro b ⟨⟩
  exact h

theorem asksOnly_throw {e : ServiceError} : AsksOnly names P (throw e : Operation α) Q := by
  intro service d r service' hnames hop
  obtain ⟨rfl, rfl, rfl⟩ := says_throw.1 hop
  exact ⟨hnames, by simp, by simp⟩

theorem asksOnly_bind {op : Operation α} {f : α → Operation β} {R : β → Prop}
    (h : AsksOnly names P op Q) (hf : ∀ a, Q a → AsksOnly names P (f a) R) :
    AsksOnly names P (op >>= f) R := by
  intro service d r service' hnames hop
  obtain ⟨e, h₁, rfl⟩ | ⟨a, service₁, d₁, d₂, rfl, h₁, h₂⟩ := says_bind.1 hop
  · obtain ⟨hn, hd, -⟩ := h hnames h₁
    exact ⟨hn, hd, by simp⟩
  · obtain ⟨hn₁, hd₁, hQ⟩ := h hnames h₁
    obtain ⟨hn₂, hd₂, hR⟩ := hf a (hQ a rfl) hn₁ h₂
    refine ⟨hn₂, fun x hx => ?_, hR⟩
    rcases List.mem_append.1 hx with hx | hx
    · exact hd₁ x hx
    · exact hd₂ x hx

theorem asksOnly_get : AsksOnly names P get fun service => service.indexNames = names := by
  intro service d r service' hnames hop
  obtain ⟨rfl, rfl, rfl⟩ := says_get.1 hop
  refine ⟨hnames, by simp, ?_⟩
  rintro b ⟨⟩
  exact hnames

theorem asksOnly_modify {f : Service → Service} (h : ∀ s, (f s).indexNames = s.indexNames) :
    AsksOnly names P (modify f) fun _ => True := by
  intro service d r service' hnames hop
  obtain ⟨rfl, rfl, rfl⟩ := says_modify.1 hop
  exact ⟨(h service).trans hnames, by simp, fun _ _ => .intro⟩

theorem asksOnly_attempt {c : EngineCall} (h : P c) :
    AsksOnly names P (attempt c) fun _ => True := by
  intro service d r service' hnames hop
  obtain ⟨o, rfl, rfl, rfl⟩ := says_attempt.1 hop
  exact ⟨hnames, by simpa using h, fun _ _ => .intro⟩

theorem asksOnly_outcome {op : Operation α} (h : AsksOnly names P op Q) :
    AsksOnly names P (outcome op) fun r => ∀ a, r = .ok a → Q a := by
  intro service d r service' hnames hop
  obtain ⟨r', hop', rfl⟩ := says_outcome.1 hop
  obtain ⟨hn, hd, hQ⟩ := h hnames hop'
  refine ⟨hn, hd, ?_⟩
  rintro b ⟨⟩
  exact hQ

theorem asksOnly_finish {r : Except ServiceError α} (h : ∀ a, r = .ok a → Q a) :
    AsksOnly names P (finish r) Q := by
  cases r with
  | ok a => exact asksOnly_pure (h a rfl)
  | error e => exact asksOnly_throw

theorem asksOnly_record {event : MetricEvent} : AsksOnly names P (record event) fun _ => True :=
  asksOnly_modify fun _ => rfl

theorem asksOnly_aliasOf {key : CollectionKey} :
    AsksOnly names P (aliasOf key) fun a => a = names.aliasName key :=
  asksOnly_bind asksOnly_get fun _ h => asksOnly_pure (by rw [Service.aliasName, h])

end

end Operation

end SiteSearch
