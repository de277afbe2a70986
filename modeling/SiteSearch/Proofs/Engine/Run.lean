import SiteSearch.Engine.Program

/-!
# Runs of programs

A program has two sides. What it says is a dialogue: the calls it makes, each with the outcome it is
given, and the result it comes to (`Program.Says`). What an engine does with the calls is a chain of
turns, each from one state to the next (`Leads`); a call may go wrong on the way as far as `Faults`
allows. A run is both at once (`Program.Runs`).

`says_bind` and `leads_append` take a run apart where one program follows another, and `Leads.keeps`
carries a property of states through all turns when each single call keeps it.
-/

namespace SiteSearch

/-- What may go wrong with an engine call. -/
inductive Faults where
  /-- Nothing: every call is performed and answered. -/
  | none
  /-- A call may fail before the engine has performed it. -/
  | unperformed
  /-- A call may fail, whether or not the engine has performed it. -/
  | any
  deriving DecidableEq, Repr

variable {σ α β : Type}

/-- How a call may end in a state, and the state it leaves. -/
inductive Answers (engine : Engine σ) (faults : Faults) (call : EngineCall) (s : σ) :
    call.Outcome → σ → Prop where
  | heard : Answers engine faults call s (engine call s).1 (engine call s).2
  | unperformed (e : EngineError) (h : faults ≠ .none) : Answers engine faults call s (.error e) s
  | unheard (e : EngineError) (h : faults = .any) :
    Answers engine faults call s (.error e) (engine call s).2

/-- A call with the outcome it was given. -/
abbrev Exchange := (call : EngineCall) × call.Outcome

/-- An exchange with the states around it. -/
structure Turn (σ : Type) where
  call : EngineCall
  outcome : call.Outcome
  before : σ
  after : σ

/-- A turn without its states. -/
def Turn.exchange (u : Turn σ) : Exchange := ⟨u.call, u.outcome⟩

/-- Turns that lead from one state to another. -/
def Leads (engine : Engine σ) (faults : Faults) : σ → List (Turn σ) → σ → Prop
  | s, [], s' => s' = s
  | s, u :: t, s' =>
    u.before = s ∧ Answers engine faults u.call s u.outcome u.after ∧ Leads engine faults u.after t s'

/-- The dialogues of a program, with the result of each. -/
def Program.Says : Program α → List Exchange → α → Prop
  | done b, d, a => d = [] ∧ a = b
  | call c next, d, a => ∃ o d', d = ⟨c, o⟩ :: d' ∧ (next o).Says d' a

/-- A run of a program: a dialogue of its own that an engine takes part in. -/
def Program.Runs (engine : Engine σ) (faults : Faults) (p : Program α) (s : σ) (t : List (Turn σ))
    (a : α) (s' : σ) : Prop :=
  p.Says (t.map Turn.exchange) a ∧ Leads engine faults s t s'

/-! ## One program after another -/

theorem Program.says_bind {p : Program α} {f : α → Program β} {d : List Exchange} {b : β} :
    (p.bind f).Says d b ↔ ∃ d₁ a d₂, d = d₁ ++ d₂ ∧ p.Says d₁ a ∧ (f a).Says d₂ b := by
  induction p generalizing d with
  | done a =>
    constructor
    · intro h
      exact ⟨[], a, d, rfl, ⟨rfl, rfl⟩, h⟩
    · rintro ⟨d₁, a', d₂, rfl, ⟨rfl, rfl⟩, h⟩
      exact h
  | call c next ih =>
    constructor
    · rintro ⟨o, d', rfl, h⟩
      obtain ⟨d₁, a, d₂, rfl, h₁, h₂⟩ := (ih o).1 h
      exact ⟨⟨c, o⟩ :: d₁, a, d₂, rfl, ⟨o, d₁, rfl, h₁⟩, h₂⟩
    · rintro ⟨_, a, d₂, rfl, ⟨o, d₁, rfl, h₁⟩, h₂⟩
      exact ⟨o, d₁ ++ d₂, rfl, (ih o).2 ⟨d₁, a, d₂, rfl, h₁, h₂⟩⟩

section

variable {engine : Engine σ} {faults : Faults}

theorem leads_append {s s' : σ} {t₁ t₂ : List (Turn σ)} :
    Leads engine faults s (t₁ ++ t₂) s' ↔
      ∃ s₁, Leads engine faults s t₁ s₁ ∧ Leads engine faults s₁ t₂ s' := by
  induction t₁ generalizing s with
  | nil => simp [Leads]
  | cons u t₁ ih =>
    simp only [List.cons_append, Leads, ih]
    constructor
    · rintro ⟨h, ha, s₁, h₁, h₂⟩
      exact ⟨s₁, ⟨h, ha, h₁⟩, h₂⟩
    · rintro ⟨s₁, ⟨h, ha, h₁⟩, h₂⟩
      exact ⟨h, ha, s₁, h₁, h₂⟩

/-- The first turn of a chain whose dialogue is known. -/
theorem Leads.first {s s' : σ} {t : List (Turn σ)} {c : EngineCall} {o : c.Outcome}
    {d : List Exchange} (h : Leads engine faults s t s')
    (hd : t.map Turn.exchange = ⟨c, o⟩ :: d) :
    ∃ s₁ t', t = ⟨c, o, s, s₁⟩ :: t' ∧ Answers engine faults c s o s₁ ∧
      t'.map Turn.exchange = d ∧ Leads engine faults s₁ t' s' := by
  obtain _ | ⟨⟨c', o', b, s₁⟩, t'⟩ := t
  · simp at hd
  · obtain ⟨rfl, ha, hl⟩ := h
    simp only [List.map_cons, Turn.exchange, List.cons.injEq, Sigma.mk.injEq] at hd
    obtain ⟨⟨rfl, ho⟩, hd⟩ := hd
    obtain rfl := eq_of_heq ho
    exact ⟨s₁, t', rfl, ha, hd, hl⟩

/-- A chain whose dialogue is known to fall into two parts falls into two chains. -/
theorem Leads.split {s s' : σ} {t : List (Turn σ)} {d₁ d₂ : List Exchange}
    (h : Leads engine faults s t s') (hd : t.map Turn.exchange = d₁ ++ d₂) :
    ∃ s₁ t₁ t₂, t = t₁ ++ t₂ ∧ t₁.map Turn.exchange = d₁ ∧ t₂.map Turn.exchange = d₂ ∧
      Leads engine faults s t₁ s₁ ∧ Leads engine faults s₁ t₂ s' := by
  obtain ⟨t₁, t₂, rfl, h₁, h₂⟩ := List.map_eq_append_iff.1 hd
  obtain ⟨s₁, hl₁, hl₂⟩ := leads_append.1 h
  exact ⟨s₁, t₁, t₂, rfl, h₁, h₂, hl₁, hl₂⟩

theorem Leads.none {s s' : σ} {t : List (Turn σ)} (h : Leads engine faults s t s')
    (hd : t.map Turn.exchange = []) : t = [] ∧ s' = s := by
  obtain rfl := List.map_eq_nil_iff.1 hd
  exact ⟨rfl, h⟩

/-! ## Invariants -/

/-- What each exchange of a kind keeps holds in all states of a chain of such exchanges. -/
theorem Leads.keeps {J : σ → Prop} {P : Exchange → Prop}
    (hstep : ∀ {c o s s'}, P ⟨c, o⟩ → J s → Answers engine faults c s o s' → J s') :
    ∀ {t : List (Turn σ)} {s s' : σ}, Leads engine faults s t s' →
      (∀ x ∈ t.map Turn.exchange, P x) → J s → (∀ u ∈ t, J u.after) ∧ J s'
  | [], s, s', h, _, hs => by
    obtain rfl : s' = s := h
    exact ⟨by simp, hs⟩
  | u :: t, s, s', ⟨_, ha, hl⟩, hP, hs => by
    have hu : J u.after := hstep (hP u.exchange (by simp)) hs ha
    obtain ⟨ht, hs'⟩ := Leads.keeps hstep hl (fun x hx => hP x (by simp [hx])) hu
    refine ⟨fun v hv => ?_, hs'⟩
    rcases List.mem_cons.1 hv with rfl | hv
    · exact hu
    · exact ht v hv

/-- It holds in the last state as in those that the turns leave. -/
theorem Leads.keeps_in {J : σ → Prop} {P : Exchange → Prop} {t : List (Turn σ)} {s s' m : σ}
    (h : Leads engine faults s t s')
    (hstep : ∀ {c o s s'}, P ⟨c, o⟩ → J s → Answers engine faults c s o s' → J s')
    (ht : ∀ x ∈ t.map Turn.exchange, P x) (hs : J s) (hm : m = s' ∨ ∃ u ∈ t, m = u.after) : J m := by
  obtain ⟨hturns, hlast⟩ := Leads.keeps hstep h ht hs
  obtain rfl | ⟨u, hu, rfl⟩ := hm
  · exact hlast
  · exact hturns u hu

/-- A turn begins in the first state, or where another one ends. -/
theorem Leads.before_eq : ∀ {t : List (Turn σ)} {s s' : σ}, Leads engine faults s t s' →
    ∀ u ∈ t, u.before = s ∨ ∃ v ∈ t, u.before = v.after
  | [], _, _, _, u, hu => absurd hu List.not_mem_nil
  | v :: t, s, s', ⟨hv, _, hl⟩, u, hu => by
    rcases List.mem_cons.1 hu with rfl | hu
    · exact .inl hv
    · right
      rcases Leads.before_eq hl u hu with heq | ⟨w, hw, heq⟩
      · exact ⟨v, List.mem_cons_self, heq⟩
      · exact ⟨w, List.mem_cons_of_mem _ hw, heq⟩

/-- The last state is the first one, or one that a turn leaves. -/
theorem Leads.last_eq : ∀ {t : List (Turn σ)} {s s' : σ}, Leads engine faults s t s' →
    s' = s ∨ ∃ u ∈ t, s' = u.after
  | [], _, _, h => .inl h
  | u :: _, _, _, ⟨_, _, hl⟩ => by
    right
    rcases Leads.last_eq hl with rfl | ⟨v, hv, rfl⟩
    · exact ⟨u, List.mem_cons_self, rfl⟩
    · exact ⟨v, List.mem_cons_of_mem _ hv, rfl⟩

/-! ## Outcomes -/

theorem bind_eq_ok {ε : Type} {x : Except ε α} {f : α → Except ε β} {b : β} :
    (x >>= f) = .ok b ↔ ∃ a, x = .ok a ∧ f a = .ok b := by
  cases x <;> simp [bind, Except.bind]

theorem map_eq_ok {ε : Type} {x : Except ε α} {f : α → β} {b : β} :
    x.map f = .ok b ↔ ∃ a, x = .ok a ∧ f a = b := by
  cases x <;> simp [Except.map]

section

variable {ε : Type} {f : α → Except ε β} {g : α → β}

/-- A pass over a list succeeds with what each member comes to. -/
theorem mapM_eq_ok_iff : ∀ {items : List α} {results : List β},
    items.mapM f = .ok results ↔ items.map f = results.map .ok
  | [], results => by cases results <;> simp [pure, Except.pure]
  | x :: items, results => by
    rw [List.mapM_cons, List.map_cons]
    constructor
    · intro h
      obtain ⟨first, hfirst, h⟩ := bind_eq_ok.1 h
      obtain ⟨rest, hrest, h⟩ := bind_eq_ok.1 h
      obtain rfl := Except.ok.inj h
      rw [hfirst, mapM_eq_ok_iff.1 hrest, List.map_cons]
    · intro h
      obtain ⟨first, rest, rfl, hfirst, hrest⟩ := List.map_eq_cons_iff.1 h.symm
      rw [← hfirst, mapM_eq_ok_iff.2 hrest.symm]
      rfl

theorem exists_mapM_eq_ok : ∀ {items : List α}, (∀ x ∈ items, ∃ b, f x = .ok b) →
    ∃ results, items.mapM f = .ok results
  | [], _ => ⟨[], rfl⟩
  | x :: items, h => by
    obtain ⟨b, hb⟩ := h x List.mem_cons_self
    obtain ⟨rest, hrest⟩ := exists_mapM_eq_ok fun y hy => h y (List.mem_cons_of_mem _ hy)
    refine ⟨b :: rest, mapM_eq_ok_iff.2 ?_⟩
    rw [List.map_cons, List.map_cons, hb, mapM_eq_ok_iff.1 hrest]

theorem mapM_concat_eq_ok {items : List α} {x : α} {results : List β} :
    (items ++ [x]).mapM f = .ok results ↔
      ∃ first last, items.mapM f = .ok first ∧ f x = .ok last ∧ results = first ++ [last] := by
  rw [List.mapM_append, List.mapM_cons, List.mapM_nil]
  cases items.mapM f with
  | error e => simp [bind, Except.bind]
  | ok first => cases f x <;> simp [bind, Except.bind, pure, Except.pure, eq_comm]

/-- A pass that succeeds where another one does has its results. -/
theorem mapM_eq_ok_mono {f' : α → Except ε β} {items : List α} {results : List β}
    (h : ∀ x b, f x = .ok b → f' x = .ok b) (hf : items.mapM f = .ok results) :
    items.mapM f' = .ok results := by
  rw [mapM_eq_ok_iff] at hf ⊢
  rw [← hf]
  refine List.map_congr_left fun x hx => ?_
  obtain ⟨b, -, hb⟩ := List.mem_map.1 (hf ▸ List.mem_map_of_mem hx)
  rw [← hb, h x b hb.symm]

/-- A pass over a list whose members each come to one thing, or to nothing where a condition fails. -/
theorem mapM_eq_ok_iff_map {P : α → Prop} : ∀ {items : List α} {results : List β},
    (∀ x ∈ items, ∀ b, f x = .ok b ↔ P x ∧ b = g x) →
      (items.mapM f = .ok results ↔ (∀ x ∈ items, P x) ∧ results = items.map g)
  | [], results, _ => by simp [pure, Except.pure, eq_comm]
  | x :: items, results, h => by
    have hx := h x List.mem_cons_self
    have ih : ∀ {rest : List β}, items.mapM f = .ok rest ↔ (∀ y ∈ items, P y) ∧ rest = items.map g :=
      mapM_eq_ok_iff_map fun y hy => h y (List.mem_cons_of_mem _ hy)
    rw [List.mapM_cons, List.forall_mem_cons, List.map_cons]
    constructor
    · intro hok
      obtain ⟨first, hfirst, hok⟩ := bind_eq_ok.1 hok
      obtain ⟨rest, hrest, hok⟩ := bind_eq_ok.1 hok
      obtain rfl := Except.ok.inj hok
      obtain ⟨hfits, rfl⟩ := (hx first).1 hfirst
      obtain ⟨hall, rfl⟩ := ih.1 hrest
      exact ⟨⟨hfits, hall⟩, rfl⟩
    · rintro ⟨⟨hfits, hall⟩, rfl⟩
      rw [(hx _).2 ⟨hfits, rfl⟩, ih.2 ⟨hall, rfl⟩]
      rfl

end

/-- A call that is answered without an error was performed. -/
theorem Answers.of_ok {c : EngineCall} {s s' : σ} {a : c.Answer}
    (h : Answers engine faults c s (.ok a) s') :
    (engine c s).1 = .ok a ∧ s' = (engine c s).2 := by
  generalize ho : (Except.ok a : c.Outcome) = o at h
  cases h with
  | heard => exact ⟨rfl, rfl⟩
  | unperformed e => cases ho
  | unheard e => cases ho

/-- Where no call may go wrong, every call is heard. -/
theorem Answers.of_none {c : EngineCall} {s s' : σ} {o : c.Outcome}
    (h : Answers engine .none c s o s') : o = (engine c s).1 ∧ s' = (engine c s).2 := by
  cases h with
  | heard => exact ⟨rfl, rfl⟩
  | unperformed _ h => exact absurd rfl h
  | unheard _ h => cases h

/-- A call that is heard may be heard whatever may go wrong. -/
theorem Answers.of_faultless {c : EngineCall} {s s' : σ} {o : c.Outcome}
    (h : Answers engine .none c s o s') : Answers engine faults c s o s' := by
  cases h with
  | heard => exact .heard
  | unperformed _ h => exact absurd rfl h
  | unheard _ h => cases h

theorem Leads.of_faultless : ∀ {t : List (Turn σ)} {s s' : σ}, Leads engine .none s t s' →
    Leads engine faults s t s'
  | [], _, _, h => h
  | _ :: _, _, _, ⟨hbefore, ha, hl⟩ => ⟨hbefore, ha.of_faultless, hl.of_faultless⟩

/-- A call leaves the state as it was or as the engine leaves it. -/
theorem Answers.after {c : EngineCall} {s s' : σ} {o : c.Outcome}
    (h : Answers engine faults c s o s') : s' = s ∨ s' = (engine c s).2 := by
  cases h with
  | heard => exact .inr rfl
  | unperformed => exact .inl rfl
  | unheard => exact .inr rfl

end

/-! ## Rehearsed runs -/

instance decidableEqResult {ε : Type} [DecidableEq ε] [DecidableEq α] : DecidableEq (Except ε α)
  | .ok a, .ok b => decidable_of_iff (a = b) (by simp)
  | .error e, .error f => decidable_of_iff (e = f) (by simp)
  | .ok _, .error _ => isFalse (by simp)
  | .error _, .ok _ => isFalse (by simp)

/-- What becomes of a call in a run that is laid out beforehand. -/
inductive Cue where
  | heard
  | unperformed (e : EngineError)
  | unheard (e : EngineError)
  deriving DecidableEq, Repr

/-- The faults that a cue stands for are allowed. -/
def Cue.AllowedBy (faults : Faults) : Cue → Prop
  | heard => True
  | unperformed _ => faults ≠ .none
  | unheard _ => faults = .any

instance (faults : Faults) : DecidablePred (Cue.AllowedBy faults)
  | .heard => inferInstanceAs (Decidable True)
  | .unperformed _ => inferInstanceAs (Decidable (faults ≠ .none))
  | .unheard _ => inferInstanceAs (Decidable (faults = .any))

/-- The outcome of a call under a cue, and the state it leaves. -/
def Cue.take (engine : Engine σ) (c : EngineCall) (s : σ) : Cue → c.Outcome × σ
  | heard => engine c s
  | unperformed e => (.error e, s)
  | unheard e => (.error e, (engine c s).2)

theorem Cue.answers_take {engine : Engine σ} {faults : Faults} {c : EngineCall} {s : σ} :
    ∀ {cue : Cue}, cue.AllowedBy faults →
      Answers engine faults c s (cue.take engine c s).1 (cue.take engine c s).2
  | heard, _ => .heard
  | unperformed e, h => .unperformed e h
  | unheard e, h => .unheard e h

/-- The run of a program under cues, one for each call; where they run out, every call is heard. -/
def Program.play (engine : Engine σ) : Program α → List Cue → σ → List (Turn σ) × α × σ
  | done a, _, s => ([], a, s)
  | call c next, cues, s =>
    let taken := (cues.headD .heard).take engine c s
    let rest := (next taken.1).play engine cues.tail taken.2
    (⟨c, taken.1, s, taken.2⟩ :: rest.1, rest.2)

/-- What is rehearsed is a run. -/
theorem Program.runs_play {engine : Engine σ} {faults : Faults} {p : Program α} :
    ∀ {cues : List Cue} {s : σ}, (∀ cue ∈ cues, cue.AllowedBy faults) →
      p.Runs engine faults s (p.play engine cues s).1 (p.play engine cues s).2.1
        (p.play engine cues s).2.2 := by
  induction p with
  | done a =>
    intro cues s _
    exact ⟨⟨rfl, rfl⟩, rfl⟩
  | call c next ih =>
    intro cues s h
    have hhead : (cues.headD .heard).AllowedBy faults := by
      cases cues with
      | nil => trivial
      | cons cue cues => exact h cue (by simp)
    have htail : ∀ cue ∈ cues.tail, cue.AllowedBy faults :=
      fun cue hcue => h cue (List.mem_of_mem_tail hcue)
    obtain ⟨hop, hleads⟩ := ih ((cues.headD .heard).take engine c s).1 htail
    exact ⟨⟨_, _, rfl, hop⟩, rfl, Cue.answers_take hhead, hleads⟩

end SiteSearch
