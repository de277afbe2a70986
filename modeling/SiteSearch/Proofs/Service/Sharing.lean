import SiteSearch.Proofs.Service.History

/-!
# Operations among clients

An engine serves an operation and its clients at the same time: between two calls of the operation
clients may make calls of their own. A shared run is a list of steps, each a turn of the operation or
of a client, in the order in which the engine has answered them. The operation sees its own turns
only (`ownDialogue`), and the engine sees all of them.

`LeadsAmong.own` goes from one call of an operation to its next one, over whatever clients do before it.
-/

namespace SiteSearch

/-- A turn, and whose it is. -/
inductive Step where
  /-- A turn of the operation. -/
  | own (turn : Turn Memory)
  /-- A turn of a client. -/
  | client (turn : Turn Memory)

namespace Step

def turn : Step → Turn Memory
  | own u | client u => u

def own? : Step → Option (Turn Memory)
  | own u => some u
  | client _ => none

end Step

/-- What the operation says and is told in a shared run. -/
def ownDialogue (t : List Step) : List Exchange := (t.filterMap Step.own?).map Turn.exchange

@[simp]
theorem ownDialogue_append {t t' : List Step} :
    ownDialogue (t ++ t') = ownDialogue t ++ ownDialogue t' := by
  simp [ownDialogue]

@[simp]
theorem ownDialogue_map_client {us : List (Turn Memory)} : ownDialogue (us.map .client) = [] := by
  simp [ownDialogue, List.filterMap_map, Function.comp_def, Step.own?]

@[simp]
theorem map_turn_map_client {us : List (Turn Memory)} : (us.map Step.client).map Step.turn = us := by
  simp [Function.comp_def, Step.turn]

/-- Steps that lead from one state to another, with clients that make calls of some kind only. -/
def LeadsAmong (clients : EngineCall → Prop) (faults : Faults) (s : Memory) (t : List Step)
    (s' : Memory) : Prop :=
  Leads Memory.answer faults s (t.map Step.turn) s' ∧ ∀ u, .client u ∈ t → clients u.call

/-- A run of an operation between whose calls clients make calls of some kind. -/
def Operation.RunsAmong {α : Type} (clients : EngineCall → Prop) (faults : Faults)
    (op : Operation α) (w : World) (t : List Step) (r : Except ServiceError α) (w' : World) : Prop :=
  op.Says w.service (ownDialogue t) r w'.service ∧ LeadsAmong clients faults w.memory t w'.memory

namespace LeadsAmong

variable {clients : EngineCall → Prop} {faults : Faults} {s' : Memory}

/-- Up to the next call of the operation all turns are those of clients. -/
theorem own {c : EngineCall} {o : c.Outcome} {d : List Exchange} :
    ∀ {t : List Step} {s : Memory}, LeadsAmong clients faults s t s' →
      ownDialogue t = ⟨c, o⟩ :: d →
      ∃ (us : List (Turn Memory)) (s₁ s₂ : Memory) (t' : List Step),
        t = us.map Step.client ++ .own ⟨c, o, s₁, s₂⟩ :: t' ∧
        Leads Memory.answer faults s us s₁ ∧ (∀ u ∈ us, clients u.call) ∧
        Answers Memory.answer faults c s₁ o s₂ ∧ ownDialogue t' = d ∧
        LeadsAmong clients faults s₂ t' s'
  | [], _, _, hd => by cases hd
  | .own u :: t, s, ⟨hl, hkept⟩, hd => by
    obtain ⟨hu, hd'⟩ : u.exchange = ⟨c, o⟩ ∧ ownDialogue t = d := List.cons.inj hd
    obtain ⟨s₁, t₁, ht, ha, -, hl₁⟩ :=
      hl.first (congrArg (· :: (t.map Step.turn).map Turn.exchange) hu)
    obtain ⟨rfl, rfl⟩ := List.cons.inj ht
    exact ⟨[], s, s₁, t, rfl, rfl, by simp, ha, hd', hl₁, fun u hu => hkept u (by simp [hu])⟩
  | .client u :: t, s, ⟨⟨hbefore, ha, hl⟩, hkept⟩, hd => by
    obtain ⟨us, s₁, s₂, t', rfl, hus, hcalls, ha₁, hd', hl'⟩ :=
      LeadsAmong.own ⟨hl, fun v hv => hkept v (by simp [hv])⟩ hd
    refine ⟨u :: us, s₁, s₂, t', rfl, ⟨hbefore, ha, hus⟩, fun v hv => ?_, ha₁, hd', hl'⟩
    rcases List.mem_cons.1 hv with rfl | hv
    · exact hkept v (by simp)
    · exact hcalls v hv

/-- Behind the last call of the operation all turns are those of clients. -/
theorem own_nil :
    ∀ {t : List Step} {s : Memory}, LeadsAmong clients faults s t s' → ownDialogue t = [] →
      ∃ us : List (Turn Memory), t = us.map Step.client ∧
        Leads Memory.answer faults s us s' ∧ ∀ u ∈ us, clients u.call
  | [], _, hl, _ => ⟨[], rfl, hl.1, by simp⟩
  | .own u :: t, _, _, hd => by cases hd
  | .client u :: t, s, ⟨⟨hbefore, ha, hl⟩, hkept⟩, hd => by
    obtain ⟨us, rfl, hus, hcalls⟩ := own_nil ⟨hl, fun v hv => hkept v (by simp [hv])⟩ hd
    refine ⟨u :: us, rfl, ⟨hbefore, ha, hus⟩, fun v hv => ?_⟩
    rcases List.mem_cons.1 hv with rfl | hv
    · exact hkept v (by simp)
    · exact hcalls v hv

end LeadsAmong

/-! ## Rehearsals -/

/-- The turns of clients that make some calls, and the memory behind them. -/
def Memory.serveAll : List EngineCall → Memory → List (Turn Memory) × Memory
  | [], s => ([], s)
  | c :: calls, s =>
    let answered := Memory.answer c s
    let rest := serveAll calls answered.2
    (⟨c, answered.1, s, answered.2⟩ :: rest.1, rest.2)

theorem Memory.leads_serveAll {faults : Faults} :
    ∀ {calls : List EngineCall} {s : Memory},
      Leads Memory.answer faults s (serveAll calls s).1 (serveAll calls s).2 ∧
        ∀ u ∈ (serveAll calls s).1, u.call ∈ calls
  | [], _ => ⟨rfl, by simp [serveAll]⟩
  | c :: calls, s => by
    obtain ⟨hl, hcalls⟩ := @leads_serveAll faults calls (answer c s).2
    refine ⟨⟨rfl, .heard, hl⟩, fun u hu => ?_⟩
    rcases List.mem_cons.1 hu with rfl | hu
    · exact List.mem_cons_self
    · exact List.mem_cons_of_mem _ (hcalls u hu)

/-- The run of an operation where clients make some calls in front of each of its own; what is left
of them comes last. -/
def Program.playAmong {α : Type} :
    Program α → List (List EngineCall) → Memory → List Step × α × Memory
  | done a, script, s =>
    let rest := Memory.serveAll script.flatten s
    (rest.1.map .client, a, rest.2)
  | call c next, script, s =>
    let before := Memory.serveAll (script.headD []) s
    let answered := Memory.answer c before.2
    let rest := (next answered.1).playAmong script.tail answered.2
    (before.1.map .client ++ .own ⟨c, answered.1, before.2, answered.2⟩ :: rest.1, rest.2)

theorem Program.says_playAmong {α : Type} {faults : Faults} {clients : EngineCall → Prop}
    {p : Program α} : ∀ {script : List (List EngineCall)} {s : Memory},
      (∀ calls ∈ script, ∀ c ∈ calls, clients c) →
      p.Says (ownDialogue (p.playAmong script s).1) (p.playAmong script s).2.1 ∧
        LeadsAmong clients faults s (p.playAmong script s).1 (p.playAmong script s).2.2 := by
  induction p with
  | done a =>
    intro script s h
    obtain ⟨hl, hcalls⟩ := @Memory.leads_serveAll faults script.flatten s
    refine ⟨⟨?_, rfl⟩, ?_, fun u hu => ?_⟩
    · exact ownDialogue_map_client
    · simpa only [playAmong, map_turn_map_client] using hl
    · obtain ⟨calls, hscript, hmem⟩ := List.mem_flatten.1 (hcalls u (by simpa [playAmong] using hu))
      exact h calls hscript _ hmem
  | call c next ih =>
    intro script s h
    obtain ⟨hl, hcalls⟩ := @Memory.leads_serveAll faults (script.headD []) s
    obtain ⟨hop, hrest, hkept⟩ := @ih (Memory.answer c _).1 script.tail (Memory.answer c _).2
      fun calls hmem => h calls (List.mem_of_mem_tail hmem)
    refine ⟨?_, ?_, fun u hu => ?_⟩
    · rw [playAmong, ownDialogue_append, ownDialogue_map_client]
      exact ⟨_, _, rfl, hop⟩
    · simp only [playAmong, List.map_append, map_turn_map_client]
      exact leads_append.2 ⟨_, hl, rfl, .heard, hrest⟩
    · rcases List.mem_append.1 hu with hu | hu
      · have hmem : u.call ∈ script.headD [] := hcalls u (by simpa using hu)
        cases script with
        | nil => cases hmem
        | cons calls script => exact h calls (by simp) _ hmem
      · exact hkept u (by simpa using hu)

def Operation.rehearseAmong {α : Type} (op : Operation α) (script : List (List EngineCall))
    (w : World) : List Step × Except ServiceError α × World :=
  let played := (op.run.run w.service).playAmong script w.memory
  (played.1, played.2.1.1, ⟨played.2.1.2, played.2.2⟩)

theorem Operation.runsAmong_rehearse {α : Type} {faults : Faults} {clients : EngineCall → Prop}
    {op : Operation α} {script : List (List EngineCall)} {w : World} {r : Except ServiceError α}
    (hscript : ∀ calls ∈ script, ∀ c ∈ calls, clients c) (hr : (op.rehearseAmong script w).2.1 = r) :
    op.RunsAmong clients faults w (op.rehearseAmong script w).1 r (op.rehearseAmong script w).2.2 := by
  subst hr
  exact Program.says_playAmong hscript

end SiteSearch
