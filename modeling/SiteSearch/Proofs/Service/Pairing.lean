import SiteSearch.Proofs.Service.Sharing

/-!
# Two operations at once

Two services use one engine, and each performs an operation on it at the same time: a shared run in
which the turns of the client are those of the second operation (`RunsBeside`). The order of the turns
is any that keeps each operation to its own order.
-/

namespace SiteSearch

variable {α β : Type}

def Step.client? : Step → Option (Turn Memory)
  | own _ => none
  | client u => some u

/-- Whether a turn is one of the operation. -/
def Step.isOwn : Step → Bool
  | own _ => true
  | client _ => false

/-- What the client says and is told in a shared run. -/
def clientDialogue (t : List Step) : List Exchange := (t.filterMap Step.client?).map Turn.exchange

/-- Two operations, each of a service of its own, run at once in front of one memory. -/
structure RunsBeside (faults : Faults) (op : Operation α) (other : Operation β)
    (service service' : Service) (m : Memory) (t : List Step) (r : Except ServiceError α)
    (r' : Except ServiceError β) (m' : Memory) : Prop where
  own : ∃ service₁, op.Says service (ownDialogue t) r service₁
  client : ∃ service₁, other.Says service' (clientDialogue t) r' service₁
  leads : Leads Memory.answer faults m (t.map Step.turn) m'

/-! ## Whose exchanges are whose -/

section

variable {t t' : List Step} {u : Turn Memory} {x : Exchange} {d' : List Exchange}

@[simp]
theorem ownDialogue_own : ownDialogue (.own u :: t) = u.exchange :: ownDialogue t := rfl

@[simp]
theorem ownDialogue_client : ownDialogue (.client u :: t) = ownDialogue t := rfl

@[simp]
theorem clientDialogue_own : clientDialogue (.own u :: t) = clientDialogue t := rfl

@[simp]
theorem clientDialogue_client : clientDialogue (.client u :: t) = u.exchange :: clientDialogue t := rfl

@[simp]
theorem clientDialogue_append : clientDialogue (t ++ t') = clientDialogue t ++ clientDialogue t' := by
  simp [clientDialogue]

@[simp]
theorem ownDialogue_map_own {us : List (Turn Memory)} :
    ownDialogue (us.map .own) = us.map Turn.exchange := by
  simp [ownDialogue, List.filterMap_map, Function.comp_def, Step.own?]

@[simp]
theorem clientDialogue_map_own {us : List (Turn Memory)} : clientDialogue (us.map .own) = [] := by
  simp [clientDialogue, List.filterMap_map, Function.comp_def, Step.client?]

@[simp]
theorem clientDialogue_map_client {us : List (Turn Memory)} :
    clientDialogue (us.map .client) = us.map Turn.exchange := by
  simp [clientDialogue, List.filterMap_map, Function.comp_def, Step.client?]

@[simp]
theorem map_turn_map_own {us : List (Turn Memory)} : (us.map Step.own).map Step.turn = us := by
  simp [Function.comp_def, Step.turn]

theorem mem_ownDialogue : x ∈ ownDialogue t ↔ ∃ u, .own u ∈ t ∧ u.exchange = x := by
  simp only [ownDialogue, List.mem_map, List.mem_filterMap]
  constructor
  · rintro ⟨u, ⟨y, hy, hu⟩, rfl⟩
    cases y <;> cases hu
    exact ⟨u, hy, rfl⟩
  · rintro ⟨u, hu, rfl⟩
    exact ⟨u, ⟨_, hu, rfl⟩, rfl⟩

theorem mem_clientDialogue : x ∈ clientDialogue t ↔ ∃ u, .client u ∈ t ∧ u.exchange = x := by
  simp only [clientDialogue, List.mem_map, List.mem_filterMap]
  constructor
  · rintro ⟨u, ⟨y, hy, hu⟩, rfl⟩
    cases y <;> cases hu
    exact ⟨u, hy, rfl⟩
  · rintro ⟨u, hu, rfl⟩
    exact ⟨u, ⟨_, hu, rfl⟩, rfl⟩

theorem exists_own_of_mem (h : x ∈ ownDialogue t) : ∃ p w q, t = p ++ .own w :: q ∧ w.exchange = x := by
  obtain ⟨w, hw, hx⟩ := mem_ownDialogue.1 h
  obtain ⟨p, q, ht⟩ := List.append_of_mem hw
  exact ⟨p, w, q, ht, hx⟩

theorem exists_client_of_mem (h : x ∈ clientDialogue t) :
    ∃ p w q, t = p ++ .client w :: q ∧ w.exchange = x := by
  obtain ⟨w, hw, hx⟩ := mem_clientDialogue.1 h
  obtain ⟨p, q, ht⟩ := List.append_of_mem hw
  exact ⟨p, w, q, ht, hx⟩

/-- Every exchange is one of the operation or one of the client. -/
theorem mem_exchanges :
    x ∈ (t.map Step.turn).map Turn.exchange ↔ x ∈ ownDialogue t ∨ x ∈ clientDialogue t := by
  induction t with
  | nil => simp [ownDialogue, clientDialogue]
  | cons y t ih =>
    rw [List.map_cons, List.map_cons, List.mem_cons, ih]
    cases y with
    | own u => simp [Step.turn, or_assoc]
    | client u => simp [Step.turn, or_left_comm]

theorem eq_map_own (h : ∀ y ∈ t, y.isOwn = true) : t = (t.map Step.turn).map .own := by
  rw [List.map_map]
  refine (List.map_id t).symm.trans (List.map_congr_left fun y hy => ?_)
  have hy := h y hy
  cases y with
  | own => rfl
  | client => cases hy

theorem eq_map_client (h : ∀ y ∈ t, y.isOwn = false) : t = (t.map Step.turn).map .client := by
  rw [List.map_map]
  refine (List.map_id t).symm.trans (List.map_congr_left fun y hy => ?_)
  have hy := h y hy
  cases y with
  | own => cases hy
  | client => rfl

/-- Turns in an order in which the client does everything between two turns of the operation. -/
theorem exists_of_map_isOwn {p n q : Nat}
    (h : t.map Step.isOwn =
      List.replicate p true ++ (List.replicate n false ++ List.replicate q true)) :
    ∃ us vs us' : List (Turn Memory), t = us.map .own ++ (vs.map .client ++ us'.map .own) ∧
      us.length = p ∧ us'.length = q := by
  obtain ⟨t₁, t', rfl, h₁, h'⟩ := List.map_eq_append_iff.1 h
  obtain ⟨t₂, t₃, rfl, h₂, h₃⟩ := List.map_eq_append_iff.1 h'
  obtain ⟨hp, h₁⟩ := List.eq_replicate_iff.1 h₁
  obtain ⟨-, h₂⟩ := List.eq_replicate_iff.1 h₂
  obtain ⟨hq, h₃⟩ := List.eq_replicate_iff.1 h₃
  rw [List.forall_mem_map] at h₁ h₂ h₃
  refine ⟨t₁.map Step.turn, t₂.map Step.turn, t₃.map Step.turn, ?_, ?_, ?_⟩
  · rw [← eq_map_own h₁, ← eq_map_client h₂, ← eq_map_own h₃]
  · rw [List.length_map, ← hp, List.length_map]
  · rw [List.length_map, ← hq, List.length_map]

/-- The turn of the operation in which a known exchange takes place. -/
theorem exists_own_of_dialogue :
    ∀ {t : List Step} {d : List Exchange}, ownDialogue t = d ++ x :: d' →
      ∃ t₁ s s' t₂, t = t₁ ++ .own ⟨x.1, x.2, s, s'⟩ :: t₂ ∧ ownDialogue t₁ = d ∧ ownDialogue t₂ = d'
  | [], d, h => by simp [ownDialogue] at h
  | .client u :: t, d, h => by
    obtain ⟨t₁, s, s', t₂, rfl, h₁, h₂⟩ := exists_own_of_dialogue (t := t) h
    exact ⟨.client u :: t₁, s, s', t₂, rfl, h₁, h₂⟩
  | .own u :: t, [], h => by
    obtain ⟨rfl, h₂⟩ := List.cons.inj h
    exact ⟨[], u.before, u.after, t, rfl, rfl, h₂⟩
  | .own u :: t, y :: d, h => by
    obtain ⟨rfl, hrest⟩ := List.cons.inj h
    obtain ⟨t₁, s, s', t₂, rfl, h₁, h₂⟩ := exists_own_of_dialogue (t := t) hrest
    exact ⟨.own u :: t₁, s, s', t₂, rfl, by simp [h₁], h₂⟩

/-- The turn of the client in which a known exchange takes place. -/
theorem exists_client_of_dialogue :
    ∀ {t : List Step} {d : List Exchange}, clientDialogue t = d ++ x :: d' →
      ∃ t₁ s s' t₂, t = t₁ ++ .client ⟨x.1, x.2, s, s'⟩ :: t₂ ∧ clientDialogue t₁ = d ∧
        clientDialogue t₂ = d'
  | [], d, h => by simp [clientDialogue] at h
  | .own u :: t, d, h => by
    obtain ⟨t₁, s, s', t₂, rfl, h₁, h₂⟩ := exists_client_of_dialogue (t := t) h
    exact ⟨.own u :: t₁, s, s', t₂, rfl, h₁, h₂⟩
  | .client u :: t, [], h => by
    obtain ⟨rfl, h₂⟩ := List.cons.inj h
    exact ⟨[], u.before, u.after, t, rfl, rfl, h₂⟩
  | .client u :: t, y :: d, h => by
    obtain ⟨rfl, hrest⟩ := List.cons.inj h
    obtain ⟨t₁, s, s', t₂, rfl, h₁, h₂⟩ := exists_client_of_dialogue (t := t) hrest
    exact ⟨.client u :: t₁, s, s', t₂, rfl, by simp [h₁], h₂⟩

/-- A chain of steps, cut at one of them. -/
theorem leads_at {faults : Faults} {m m' : Memory} {y : Step} :
    Leads Memory.answer faults m ((t ++ y :: t').map Step.turn) m' ↔
      Leads Memory.answer faults m (t.map Step.turn) y.turn.before ∧
      Answers Memory.answer faults y.turn.call y.turn.before y.turn.outcome y.turn.after ∧
      Leads Memory.answer faults y.turn.after (t'.map Step.turn) m' := by
  rw [List.map_append, leads_append, List.map_cons]
  constructor
  · rintro ⟨s₁, h₁, rfl, ha, h₂⟩
    exact ⟨h₁, ha, h₂⟩
  · rintro ⟨h₁, ha, h₂⟩
    exact ⟨_, h₁, rfl, ha, h₂⟩

end

/-! ## Rehearsals -/

/-- The run of two programs on a schedule, which says of each turn whether it is one of the first
program; where it ends, the first program goes on to its end, and then the second. -/
def Program.playBeside :
    List Bool → Program α → Program β → Memory → List Step × (α × β) × Memory
  | true :: schedule, call c next, q, s =>
    let answered := Memory.answer c s
    let rest := playBeside schedule (next answered.1) q answered.2
    (.own ⟨c, answered.1, s, answered.2⟩ :: rest.1, rest.2)
  | false :: schedule, p, call c next, s =>
    let answered := Memory.answer c s
    let rest := playBeside schedule p (next answered.1) answered.2
    (.client ⟨c, answered.1, s, answered.2⟩ :: rest.1, rest.2)
  | _ :: schedule, p, q, s => playBeside schedule p q s
  | [], p, q, s =>
    let first := p.play Memory.answer [] s
    let second := q.play Memory.answer [] first.2.2
    (first.1.map .own ++ second.1.map .client, (first.2.1, second.2.1), second.2.2)

theorem Program.says_playBeside (faults : Faults) (schedule : List Bool) (p : Program α)
    (q : Program β) (s : Memory) :
    p.Says (ownDialogue (playBeside schedule p q s).1) (playBeside schedule p q s).2.1.1 ∧
      q.Says (clientDialogue (playBeside schedule p q s).1) (playBeside schedule p q s).2.1.2 ∧
      Leads Memory.answer faults s ((playBeside schedule p q s).1.map Step.turn)
        (playBeside schedule p q s).2.2 := by
  fun_induction playBeside schedule p q s with
  | case1 schedule c next q s answered rest ih =>
    obtain ⟨hp, hq, hl⟩ := ih
    exact ⟨⟨_, _, rfl, hp⟩, hq, rfl, .heard, hl⟩
  | case2 schedule p c next s answered rest ih =>
    obtain ⟨hp, hq, hl⟩ := ih
    exact ⟨hp, ⟨_, _, rfl, hq⟩, rfl, .heard, hl⟩
  | case3 _ _ _ _ _ _ _ ih => exact ih
  | case4 p q s first second =>
    obtain ⟨hp, hl₁⟩ : p.Runs Memory.answer faults s first.1 first.2.1 first.2.2 :=
      Program.runs_play (by simp)
    obtain ⟨hq, hl₂⟩ : q.Runs Memory.answer faults first.2.2 second.1 second.2.1 second.2.2 :=
      Program.runs_play (by simp)
    refine ⟨by simpa using hp, by simpa using hq, ?_⟩
    rw [List.map_append, map_turn_map_own, map_turn_map_client]
    exact leads_append.2 ⟨_, hl₁, hl₂⟩

/-- The run of two operations on a schedule. -/
def Operation.rehearseBeside (op : Operation α) (other : Operation β) (schedule : List Bool)
    (service service' : Service) (m : Memory) :
    List Step × (Except ServiceError α × Except ServiceError β) × Memory :=
  let played := Program.playBeside schedule (op.run.run service) (other.run.run service') m
  (played.1, (played.2.1.1.1, played.2.1.2.1), played.2.2)

theorem Operation.runsBeside_rehearse {faults : Faults} {op : Operation α} {other : Operation β}
    {schedule : List Bool} {service service' : Service} {m : Memory} :
    RunsBeside faults op other service service' m
      (op.rehearseBeside other schedule service service' m).1
      (op.rehearseBeside other schedule service service' m).2.1.1
      (op.rehearseBeside other schedule service service' m).2.1.2
      (op.rehearseBeside other schedule service service' m).2.2 := by
  obtain ⟨hop, hother, hl⟩ := Program.says_playBeside faults schedule (op.run.run service)
    (other.run.run service') m
  exact ⟨⟨_, hop⟩, ⟨_, hother⟩, hl⟩

end SiteSearch
