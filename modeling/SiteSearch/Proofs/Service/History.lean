import SiteSearch.Proofs.Memory.Answer
import SiteSearch.Proofs.Service.Dialogue
import SiteSearch.Service.Cleanup
import SiteSearch.Service.Drift
import SiteSearch.Service.Indexing

/-!
# Histories of a service

A world is a service in front of an engine in memory. In a history one request after another is
performed there, each to its end; between two of them time passes, the content model is changed and
locks come and go elsewhere (`World.Passes`). A history records every engine call that is made, with
the states of the engine around it.
-/

namespace SiteSearch

/-- A service in front of an engine in memory. -/
structure World where
  service : Service
  memory : Memory

/-- A run of an operation in a world. -/
def Operation.Runs {α : Type} (faults : Faults) (op : Operation α) (w : World)
    (t : List (Turn Memory)) (r : Except ServiceError α) (w' : World) : Prop :=
  op.Says w.service (t.map Turn.exchange) r w'.service ∧
    Leads Memory.answer faults w.memory t w'.memory

/-- What is asked of a service. -/
inductive Request where
  | ensureExists (key : CollectionKey)
  | reindex (key : CollectionKey)
  | clone (key : CollectionKey) (source : String)
  | updateMapping (key : CollectionKey)
  | syncMapping (key : CollectionKey)
  | deleteOrphaned (key : CollectionKey)
  | deleteCollection (key : CollectionKey)
  | upsert (document : Document) (key : CollectionKey)
  | delete (id : ElementId) (key : CollectionKey)
  | bulkDelete (ids : List ElementId) (key : CollectionKey)
  | indexElement (element : Element) (key : CollectionKey)

namespace Request

/-- The collection that a request is about. -/
def key : Request → CollectionKey
  | ensureExists key | reindex key | clone key _ | updateMapping key | syncMapping key
  | deleteOrphaned key | deleteCollection key | upsert _ key | delete _ key | bulkDelete _ key
  | indexElement _ key => key

/-- The operation that performs a request. -/
def perform : Request → Operation Unit
  | ensureExists key => do let _ ← Operation.ensureExists key
  | reindex key => do let _ ← Operation.reindex key
  | clone key source => do let _ ← Operation.clone key source
  | updateMapping key => do let _ ← Operation.updateMapping key
  | syncMapping key => do let _ ← Operation.syncMapping key
  | deleteOrphaned key => do let _ ← Operation.deleteOrphaned key
  | deleteCollection key => do let _ ← Operation.deleteCollection key
  | upsert document key => Operation.upsert document key
  | delete id key => Operation.delete id key
  | bulkDelete ids key => do let _ ← Operation.bulkDelete ids key
  | indexElement element key => do let _ ← Operation.indexElement element key

end Request

/-- What may happen between two requests: the indexes stay as they are, and of the service only the
clock, the content model, the locks and the memo of handles change. -/
def World.Passes (w w' : World) : Prop :=
  w'.memory.store = w.memory.store ∧
    ∃ now model locks memo, w'.service = { w.service with now, model, locks, memo }

/-- Requests performed one after another, with all engine calls that are made. -/
inductive History (faults : Faults) : World → List Request → List (Turn Memory) → World → Prop where
  | nil (w : World) : History faults w [] [] w
  | cons {w w₁ w₂ w₃ : World} {request : Request} {requests : List Request}
    {t t' : List (Turn Memory)} {r : Except ServiceError Unit} (hpass : w.Passes w₁)
    (hrun : request.perform.Runs faults w₁ t r w₂) (hrest : History faults w₂ requests t' w₃) :
    History faults w (request :: requests) (t ++ t') w₃

/-- The world of a service in front of an engine without indexes. -/
def World.empty (service : Service) : World := ⟨service, {}⟩

theorem World.Passes.indexNames {w w' : World} (h : w.Passes w') :
    w'.service.indexNames = w.service.indexNames := by
  obtain ⟨-, now, model, locks, memo, heq⟩ := h
  rw [heq]
  rfl

theorem World.Passes.refl (w : World) : w.Passes w :=
  ⟨rfl, w.service.now, w.service.model, w.service.locks, w.service.memo, rfl⟩

/-! ## Taking operations apart -/

namespace Operation

variable {α β : Type} {faults : Faults} {w w' : World} {t : List (Turn Memory)}

theorem runs_bind {op : Operation α} {f : α → Operation β} {r : Except ServiceError β} :
    (op >>= f).Runs faults w t r w' ↔
      (∃ e, op.Runs faults w t (.error e) w' ∧ r = .error e) ∨
      ∃ a w₁ t₁ t₂, t = t₁ ++ t₂ ∧ op.Runs faults w t₁ (.ok a) w₁ ∧
        (f a).Runs faults w₁ t₂ r w' := by
  unfold Runs
  rw [says_bind]
  constructor
  · rintro ⟨⟨e, h, rfl⟩ | ⟨a, service₁, d₁, d₂, hd, h₁, h₂⟩, hl⟩
    · exact .inl ⟨e, ⟨h, hl⟩, rfl⟩
    · obtain ⟨m₁, t₁, t₂, rfl, rfl, rfl, hl₁, hl₂⟩ := hl.split hd
      exact .inr ⟨a, ⟨service₁, m₁⟩, t₁, t₂, rfl, ⟨h₁, hl₁⟩, h₂, hl₂⟩
  · rintro (⟨e, ⟨h, hl⟩, rfl⟩ | ⟨a, w₁, t₁, t₂, rfl, ⟨h₁, hl₁⟩, h₂, hl₂⟩)
    · exact ⟨.inl ⟨e, h, rfl⟩, hl⟩
    · refine ⟨.inr ⟨a, w₁.service, _, _, List.map_append, h₁, h₂⟩, ?_⟩
      exact leads_append.2 ⟨w₁.memory, hl₁, hl₂⟩

/-- Behind an operation whose outcome is looked at, something follows in any case. -/
theorem runs_outcome_bind {op : Operation α} {f : Except ServiceError α → Operation β}
    {r : Except ServiceError β} (h : (outcome op >>= f).Runs faults w t r w') :
    ∃ r' w₁ t₁ t₂, t = t₁ ++ t₂ ∧ op.Runs faults w t₁ r' w₁ ∧ (f r').Runs faults w₁ t₂ r w' := by
  obtain ⟨e, hop, -⟩ | ⟨r', w₁, t₁, t₂, rfl, hop, hf⟩ := runs_bind.1 h
  · obtain ⟨_, -, heq⟩ := says_outcome.1 hop.1
    cases heq
  · obtain ⟨_, hsaid, ⟨⟩⟩ := says_outcome.1 hop.1
    exact ⟨r', w₁, t₁, t₂, rfl, ⟨hsaid, hop.2⟩, hf⟩

theorem Runs.of_pure {a : α} {r : Except ServiceError α}
    (h : (pure a : Operation α).Runs faults w t r w') : r = .ok a ∧ w' = w := by
  obtain ⟨ht, hr, hservice⟩ := says_pure.1 h.1
  obtain ⟨-, hmemory⟩ := h.2.none ht
  refine ⟨hr, ?_⟩
  cases w'
  cases w
  simp_all

/-- An operation behind which only its result is looked at runs as it does by itself. -/
theorem Runs.of_mapped {op : Operation α} {f : α → β} {r : Except ServiceError β}
    (h : Operation.Runs faults (do let a ← op; pure (f a)) w t r w') :
    ∃ r', op.Runs faults w t r' w' ∧ r = r'.map f := by
  obtain ⟨e, hop, rfl⟩ | ⟨a, w₁, t₁, t₂, rfl, hop, hpure⟩ := runs_bind.1 h
  · exact ⟨.error e, hop, rfl⟩
  · obtain ⟨rfl, rfl⟩ := hpure.of_pure
    obtain ⟨ht₂, -⟩ := says_pure.1 hpure.1
    obtain ⟨rfl, -⟩ := hpure.2.none ht₂
    rw [List.append_nil]
    exact ⟨.ok a, hop, rfl⟩

/-- A request runs as its operation does, whatever becomes of the result. -/
theorem Runs.of_discarded {op : Operation α} {r : Except ServiceError Unit}
    (h : Operation.Runs faults (do let _ ← op; pure ()) w t r w') :
    ∃ r', op.Runs faults w t r' w' := by
  obtain ⟨r', hop, -⟩ := h.of_mapped
  exact ⟨r', hop⟩

end Operation

/-! ## Rehearsals -/

/-- The run of an operation under cues: its turns, its result and the world behind it. -/
def Operation.rehearse {α : Type} (op : Operation α) (cues : List Cue) (w : World) :
    List (Turn Memory) × Except ServiceError α × World :=
  let played := (op.run.run w.service).play Memory.answer cues w.memory
  (played.1, played.2.1.1, ⟨played.2.1.2, played.2.2⟩)

theorem Operation.runs_rehearse {α : Type} {faults : Faults} {op : Operation α} {cues : List Cue}
    {w : World} {r : Except ServiceError α} (hcues : ∀ cue ∈ cues, cue.AllowedBy faults)
    (hr : (op.rehearse cues w).2.1 = r) :
    op.Runs faults w (op.rehearse cues w).1 r (op.rehearse cues w).2.2 := by
  subst hr
  exact Program.runs_play hcues

theorem Operation.runs_rehearse_nil {α : Type} {faults : Faults} (op : Operation α) (w : World) :
    op.Runs faults w (op.rehearse [] w).1 (op.rehearse [] w).2.1 (op.rehearse [] w).2.2 :=
  Operation.runs_rehearse (by simp) rfl

/-- The history of some requests, each under cues of its own: the turns and the world behind it. -/
def World.rehearse : World → List (Request × List Cue) → List (Turn Memory) × World
  | w, [] => ([], w)
  | w, (request, cues) :: script =>
    let first := request.perform.rehearse cues w
    let rest := first.2.2.rehearse script
    (first.1 ++ rest.1, rest.2)

theorem World.history_rehearse {faults : Faults} :
    ∀ {script : List (Request × List Cue)} {w : World},
      (∀ line ∈ script, ∀ cue ∈ line.2, cue.AllowedBy faults) →
      History faults w (script.map (·.1)) (w.rehearse script).1 (w.rehearse script).2
  | [], w, _ => .nil w
  | _ :: _, w, h =>
    .cons (.refl w) (Operation.runs_rehearse (h _ List.mem_cons_self) rfl)
      (World.history_rehearse fun line hline => h line (List.mem_cons_of_mem _ hline))

/-- A rehearsed history asks for no failures of a copy. -/
theorem World.calm_rehearse :
    ∀ {script : List (Request × List Cue)} {w : World}, w.memory.pendingFailures = 0 →
      ∀ u ∈ (w.rehearse script).1, u.before.pendingFailures = 0
  | [], _, _, _, hu => absurd hu List.not_mem_nil
  | (request, cues) :: script, w, hw, u, hu => by
    have hallowed : ∀ cue ∈ cues, cue.AllowedBy .any := by
      rintro (_ | _ | _) -
      · trivial
      · exact Faults.noConfusion
      · rfl
    have hrun : request.perform.Runs .any w (request.perform.rehearse cues w).1
        (request.perform.rehearse cues w).2.1 (request.perform.rehearse cues w).2.2 :=
      Operation.runs_rehearse hallowed rfl
    obtain ⟨hturns, hlast⟩ := hrun.2.calm hw
    rcases List.mem_append.1 hu with hu | hu
    · exact hturns u hu
    · exact World.calm_rehearse hlast u hu

/-- A service with the default configuration and no content model. -/
def Service.plain : Service where
  config := {}
  model := .empty
  now := 1700000000

/-- The English site of the examples. -/
def CollectionKey.english : CollectionKey where
  siteId := 1
  handle := "en"
  language := "en"

/-- The German site of the examples. -/
def CollectionKey.german : CollectionKey where
  siteId := 2
  handle := "de"
  language := "de"

end SiteSearch
