import SiteSearch.Proofs.Service.History

/-!
# Operations in step

Two operations keep in step when, from worlds that are related, they make the same calls and both come
to related results or both to the same failure, as long as no call goes wrong (`Operation.InStep`). The
worlds that they leave are related again, in one way behind a success and in another behind a failure.
There is one rule for each way to build an operation, so what two worlds have in common is followed
through an operation without looking at either of the two runs.
-/

namespace SiteSearch

/-- How two worlds are related. -/
abbrev WorldRel := World → World → Prop

namespace Operation

variable {α β : Type}

/-- Two results, each with the world behind it: both successes or both the same failure. -/
inductive EndsAlike (Q : α → α → WorldRel) (E : WorldRel) :
    Except ServiceError α → Except ServiceError α → WorldRel where
  | ok {a b : α} {w₁ w₂ : World} (h : Q a b w₁ w₂) : EndsAlike Q E (.ok a) (.ok b) w₁ w₂
  | error {e : ServiceError} {w₁ w₂ : World} (h : E w₁ w₂) :
    EndsAlike Q E (.error e) (.error e) w₁ w₂

/-- From related worlds the operations make the same calls and end alike, no call going wrong. -/
def InStep (R : WorldRel) (op op' : Operation α) (Q : α → α → WorldRel) (E : WorldRel) : Prop :=
  ∀ ⦃w₁ t₁ r₁ w₁' w₂ t₂ r₂ w₂'⦄, R w₁ w₂ → op.Runs .none w₁ t₁ r₁ w₁' →
    op'.Runs .none w₂ t₂ r₂ w₂' →
    t₁.map Turn.call = t₂.map Turn.call ∧ EndsAlike Q E r₁ r₂ w₁' w₂'

section

variable {R R' : WorldRel} {Q Q' : α → α → WorldRel} {E E' : WorldRel} {op op' : Operation α}
variable {w w' : World} {t : List (Turn Memory)}

theorem EndsAlike.mono {r r' : Except ServiceError α} (h : EndsAlike Q E r r' w w')
    (hQ : ∀ a b w₁ w₂, Q a b w₁ w₂ → Q' a b w₁ w₂) (hE : ∀ w₁ w₂, E w₁ w₂ → E' w₁ w₂) :
    EndsAlike Q' E' r r' w w' := by
  cases h with
  | ok h => exact .ok (hQ _ _ _ _ h)
  | error h => exact .error (hE _ _ h)

theorem InStep.mono (h : InStep R op op' Q E) (hR : ∀ w₁ w₂, R' w₁ w₂ → R w₁ w₂)
    (hQ : ∀ a b w₁ w₂, Q a b w₁ w₂ → Q' a b w₁ w₂) (hE : ∀ w₁ w₂, E w₁ w₂ → E' w₁ w₂) :
    InStep R' op op' Q' E' := by
  intro w₁ t₁ r₁ w₁' w₂ t₂ r₂ w₂' hrel h₁ h₂
  obtain ⟨hcalls, hends⟩ := h (hR _ _ hrel) h₁ h₂
  exact ⟨hcalls, hends.mono hQ hE⟩

/-- What related worlds have in common may be used for the operations. -/
theorem inStep_of {p : Prop} (hp : ∀ w₁ w₂, R w₁ w₂ → p) (h : p → InStep R op op' Q E) :
    InStep R op op' Q E :=
  fun _ _ _ _ _ _ _ _ hrel h₁ h₂ => h (hp _ _ hrel) hrel h₁ h₂

/-! ## Runs without calls, and with one -/

/-- A run in which nothing is said. -/
theorem Runs.silent {service' : Service} {r r' : Except ServiceError α}
    (h : op.Runs .none w t r w')
    (hop : ∀ d r service, op.Says w.service d r service → d = [] ∧ r = r' ∧ service = service') :
    t = [] ∧ r = r' ∧ w' = ⟨service', w.memory⟩ := by
  obtain ⟨hd, rfl, hservice⟩ := hop _ _ _ h.1
  obtain ⟨rfl, hmemory⟩ := h.2.none hd
  refine ⟨rfl, rfl, ?_⟩
  rw [← hservice, ← hmemory]

theorem Runs.attempted {c : EngineCall} {r : Except ServiceError c.Outcome}
    (h : (attempt c).Runs .none w t r w') :
    t.map Turn.call = [c] ∧ r = .ok (Memory.answer c w.memory).1 ∧
      w' = ⟨w.service, (Memory.answer c w.memory).2⟩ := by
  obtain ⟨o, ht, rfl, hservice⟩ := says_attempt.1 h.1
  obtain ⟨s, t', rfl, ha, ht', hl⟩ := h.2.first ht
  obtain ⟨rfl, hlast⟩ := hl.none ht'
  obtain ⟨rfl, rfl⟩ := ha.of_none
  refine ⟨rfl, rfl, ?_⟩
  rw [← hservice, ← hlast]

theorem Runs.asked {c : EngineCall} {r : Except ServiceError c.Answer}
    (h : (ask c).Runs .none w t r w') :
    t.map Turn.call = [c] ∧ r = resultOf (Memory.answer c w.memory).1 ∧
      w' = ⟨w.service, (Memory.answer c w.memory).2⟩ := by
  obtain ⟨o, ht, rfl, hservice⟩ := says_ask.1 h.1
  obtain ⟨ht', hr, hw⟩ := Runs.attempted (r := .ok o) ⟨says_attempt.2 ⟨o, ht, rfl, hservice⟩, h.2⟩
  exact ⟨ht', congrArg resultOf (Except.ok.inj hr), hw⟩

theorem inStep_silent {r r' : Except ServiceError α} {f g : Service → Service}
    (hop : ∀ service d r₁ service', op.Says service d r₁ service' →
      d = [] ∧ r₁ = r ∧ service' = f service)
    (hop' : ∀ service d r₁ service', op'.Says service d r₁ service' →
      d = [] ∧ r₁ = r' ∧ service' = g service)
    (h : ∀ w₁ w₂, R w₁ w₂ → EndsAlike Q E r r' ⟨f w₁.service, w₁.memory⟩ ⟨g w₂.service, w₂.memory⟩) :
    InStep R op op' Q E := by
  intro w₁ t₁ r₁ w₁' w₂ t₂ r₂ w₂' hrel h₁ h₂
  obtain ⟨rfl, rfl, rfl⟩ := h₁.silent (hop _)
  obtain ⟨rfl, rfl, rfl⟩ := h₂.silent (hop' _)
  exact ⟨rfl, h _ _ hrel⟩

theorem inStep_pure {a b : α} (h : ∀ w₁ w₂, R w₁ w₂ → Q a b w₁ w₂) :
    InStep R (pure a) (pure b) Q E :=
  inStep_silent (f := id) (g := id) (fun _ _ _ _ => says_pure.1) (fun _ _ _ _ => says_pure.1)
    fun _ _ hrel => .ok (h _ _ hrel)

theorem inStep_throw {e : ServiceError} (h : ∀ w₁ w₂, R w₁ w₂ → E w₁ w₂) :
    InStep R (throw e) (throw e) Q E :=
  inStep_silent (f := id) (g := id) (fun _ _ _ _ => says_throw.1) (fun _ _ _ _ => says_throw.1)
    fun _ _ hrel => .error (h _ _ hrel)

theorem inStep_get {Q : Service → Service → WorldRel}
    (h : ∀ w₁ w₂, R w₁ w₂ → Q w₁.service w₂.service w₁ w₂) : InStep R get get Q E := by
  intro w₁ t₁ r₁ w₁' w₂ t₂ r₂ w₂' hrel h₁ h₂
  obtain ⟨rfl, rfl, rfl⟩ := h₁.silent fun _ _ _ => says_get.1
  obtain ⟨rfl, rfl, rfl⟩ := h₂.silent fun _ _ _ => says_get.1
  exact ⟨rfl, .ok (h _ _ hrel)⟩

theorem inStep_modify {f g : Service → Service} {Q : PUnit → PUnit → WorldRel}
    (h : ∀ w₁ w₂, R w₁ w₂ → Q ⟨⟩ ⟨⟩ ⟨f w₁.service, w₁.memory⟩ ⟨g w₂.service, w₂.memory⟩) :
    InStep R (modify f) (modify g) Q E :=
  inStep_silent (fun _ _ _ _ => says_modify.1) (fun _ _ _ _ => says_modify.1)
    fun _ _ hrel => .ok (h _ _ hrel)

theorem inStep_attempt {c : EngineCall} {Q : c.Outcome → c.Outcome → WorldRel}
    (h : ∀ w₁ w₂, R w₁ w₂ → Q (Memory.answer c w₁.memory).1 (Memory.answer c w₂.memory).1
      ⟨w₁.service, (Memory.answer c w₁.memory).2⟩ ⟨w₂.service, (Memory.answer c w₂.memory).2⟩) :
    InStep R (attempt c) (attempt c) Q E := by
  intro w₁ t₁ r₁ w₁' w₂ t₂ r₂ w₂' hrel h₁ h₂
  obtain ⟨ht₁, rfl, rfl⟩ := h₁.attempted
  obtain ⟨ht₂, rfl, rfl⟩ := h₂.attempted
  exact ⟨ht₁.trans ht₂.symm, .ok (h _ _ hrel)⟩

theorem inStep_ask {c : EngineCall} {Q : c.Answer → c.Answer → WorldRel}
    (h : ∀ w₁ w₂, R w₁ w₂ →
      EndsAlike Q E (resultOf (Memory.answer c w₁.memory).1) (resultOf (Memory.answer c w₂.memory).1)
        ⟨w₁.service, (Memory.answer c w₁.memory).2⟩ ⟨w₂.service, (Memory.answer c w₂.memory).2⟩) :
    InStep R (ask c) (ask c) Q E := by
  intro w₁ t₁ r₁ w₁' w₂ t₂ r₂ w₂' hrel h₁ h₂
  obtain ⟨ht₁, rfl, rfl⟩ := h₁.asked
  obtain ⟨ht₂, rfl, rfl⟩ := h₂.asked
  exact ⟨ht₁.trans ht₂.symm, h _ _ hrel⟩

/-! ## One operation after another -/

theorem inStep_bind {f g : α → Operation β} {Q' : β → β → WorldRel} (h : InStep R op op' Q E)
    (hf : ∀ a b, InStep (Q a b) (f a) (g b) Q' E) : InStep R (op >>= f) (op' >>= g) Q' E := by
  intro w₁ t₁ r₁ w₁' w₂ t₂ r₂ w₂' hrel h₁ h₂
  rcases runs_bind.1 h₁ with ⟨e, hop₁, rfl⟩ | ⟨a, v₁, p₁, q₁, rfl, hop₁, hf₁⟩
  · rcases runs_bind.1 h₂ with ⟨e', hop₂, rfl⟩ | ⟨b, v₂, p₂, q₂, rfl, hop₂, -⟩
    · obtain ⟨hcalls, hends⟩ := h hrel hop₁ hop₂
      cases hends with
      | error hE => exact ⟨hcalls, .error hE⟩
    · cases (h hrel hop₁ hop₂).2
  · rcases runs_bind.1 h₂ with ⟨e', hop₂, rfl⟩ | ⟨b, v₂, p₂, q₂, rfl, hop₂, hf₂⟩
    · cases (h hrel hop₁ hop₂).2
    · obtain ⟨hcalls, hends⟩ := h hrel hop₁ hop₂
      cases hends with
      | ok hQ =>
        obtain ⟨hcalls', hends'⟩ := hf a b hQ hf₁ hf₂
        rw [List.map_append, List.map_append, hcalls, hcalls']
        exact ⟨rfl, hends'⟩

theorem inStep_outcome {E' : WorldRel} (h : InStep R op op' Q E) :
    InStep R (outcome op) (outcome op') (EndsAlike Q E) E' := by
  intro w₁ t₁ r₁ w₁' w₂ t₂ r₂ w₂' hrel h₁ h₂
  obtain ⟨r, hop₁, rfl⟩ := says_outcome.1 h₁.1
  obtain ⟨r', hop₂, rfl⟩ := says_outcome.1 h₂.1
  obtain ⟨hcalls, hends⟩ := h hrel ⟨hop₁, h₁.2⟩ ⟨hop₂, h₂.2⟩
  exact ⟨hcalls, .ok hends⟩

end

end Operation

end SiteSearch
