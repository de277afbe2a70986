import SiteSearch.Proofs.Migration.Replica
import SiteSearch.Proofs.Service.Making

/-!
# The course of making a new generation

A collection gets a new generation when it is made, moved or cloned to. All three go the same way: they
look at the generations that there are, name the new one after them, and ask for it in one call, with no
more than looks and changes of a block in front of it (`Succession.Goes`). Behind it no further index is
made.
-/

namespace SiteSearch

/-- The index that a call makes. -/
def EngineCall.made? : EngineCall → Option String
  | createIndex name _ => some name
  | cloneIndex _ target _ => some target
  | _ => none

/-- Exchanges in front of a new generation: nothing happens, or a block is set or lifted. -/
inductive Succession.Prepares : Exchange → Prop where
  | idle {x : Exchange} (h : x.Idle) : Prepares x
  | setBlock (index : String) (blocked : Bool) (o : (blockCall index blocked).Outcome) :
    Prepares ⟨blockCall index blocked, o⟩

/-- The dialogues of making a new generation. -/
inductive Succession.Goes (service : Service) (key : CollectionKey) : List Exchange → Prop where
  /-- No generation is made. -/
  | halted {d : List Exchange} (hd : ∀ x ∈ d, Succession.Prepares x) : Goes service key d
  /-- One generation is made, and named after those that are found. -/
  | made {d₁ d₂ d₃ : List Exchange} {listed : (EngineCall.getIndices _).Outcome}
    {found : List IndexDescription} {c : EngineCall} {answer : c.Answer}
    (h₁ : ∀ x ∈ d₁, x.Idle) (hfound : foundIn listed = .ok found)
    (h₂ : ∀ x ∈ d₂, Succession.Prepares x) (hc : c.made? = some (service.newName key found))
    (h₃ : ∀ x ∈ d₃, x.1.made? = none) :
    Goes service key (d₁ ++ ⟨.getIndices (service.indexNames.generationPattern key), listed⟩ ::
      (d₂ ++ ⟨c, .ok answer⟩ :: d₃))

/-- A generation may be asked for right behind a look and the look at the generations. -/
theorem Succession.Goes.of_look {service : Service} {key : CollectionKey} {d : List Exchange}
    {x : Exchange} {listed : (EngineCall.getIndices _).Outcome} {found : List IndexDescription}
    {c : EngineCall} {answer : c.Answer} (hx : x.Idle) (hfound : foundIn listed = .ok found)
    (hc : c.made? = some (service.newName key found)) (hd : ∀ x ∈ d, x.1.made? = none) :
    Succession.Goes service key
      (x :: ⟨.getIndices (service.indexNames.generationPattern key), listed⟩ :: ⟨c, .ok answer⟩ :: d) :=
  have hfirst : ∀ y ∈ [x], y.Idle := List.forall_mem_singleton.2 hx
  .made hfirst hfound (List.forall_mem_nil _) hc hd

/-- The request makes a new generation of the collection, if it makes any. -/
def Request.MakesGeneration (key : CollectionKey) : Request → Prop
  | ensureExists other | reindex other | clone other _ => other = key
  | _ => False

variable {service service' : Service} {key : CollectionKey} {d : List Exchange}

/-! ## Moves and clones -/

/-- Once its new index is made, a move makes no other. -/
theorem Move.Goes.makes_nothing {m : Move} {r : Except ServiceError ReindexReply} (h : m.Goes d r) :
    ∀ x ∈ d, x.1.made? = none := by
  have hguards : ∀ {d : List Exchange}, (∀ x ∈ d, m.Guards x) → ∀ x ∈ d, x.1.made? = none := by
    intro d hd x hx
    cases hd x hx <;> rfl
  cases h with
  | halted hd =>
    intro x hx
    cases hd x hx with
    | guards h => exact hguards (d := [x]) (by simpa using h) x List.mem_cons_self
    | copy | bind => rfl
  | doubled h₁ h₂ | moved h₁ h₂ =>
    intro x hx
    simp only [List.mem_append, List.mem_cons] at hx
    rcases hx with hx | rfl | rfl | rfl | hx
    · exact hguards h₁ x hx
    · rfl
    · rfl
    · rfl
    · exact hguards h₂ x hx

theorem Cloning.Prepares.prepares {m : Cloning} {x : Exchange} (h : m.Prepares x) :
    Succession.Prepares x := by
  cases h with
  | look => exact .idle (.looks (fun _ => rfl) _)
  | setBlock blocked o => exact .setBlock _ blocked o
  | refused e => exact .idle (.failed e)

/-! ## Operations -/

namespace Operation

theorem Says.ensureExists_succession {r : Except ServiceError Bool}
    (h : (Operation.ensureExists key).Says service d r service') : Succession.Goes service key d := by
  obtain ⟨-, -, -, hscouts⟩ | ⟨listed, found, o, hfound, rfl, -⟩ := h.makes
  · exact .halted fun x hx => .idle (hscouts x hx).idle
  · exact .of_look (.looks (fun _ => rfl) _) hfound rfl (by simp [EngineCall.made?])

theorem Says.reindex_succession {r : Except ServiceError ReindexReport}
    (h : (Operation.reindex key).Says service d r service') : Succession.Goes service key d := by
  obtain ⟨-, -, hscouts⟩ | ⟨m, -, bound, listed, found, d', r', service₁, -, hfound, hnew, rfl,
    hmove, -⟩ := h.reindex
  · exact .halted fun x hx => .idle (hscouts x hx).idle
  · exact .of_look (.looks (fun _ => rfl) _) hfound (by rw [← hnew]; rfl) hmove.goes.makes_nothing

theorem Says.clone_succession {source : String} {r : Except ServiceError CloneReport}
    (h : (Operation.clone key source).Says service d r service') : Succession.Goes service key d := by
  obtain ⟨-, -, hscouts⟩ | ⟨m, -, listed, found, d₁, d₂, r', service₁, hfound, hnew, hfinds, rfl, hop,
    -⟩ := h.clone
  · exact .halted fun x hx => .idle (hscouts x hx).idle
  have hlooks : ∀ x ∈ ⟨.aliasExists m.aliasName, .ok false⟩ :: d₁, x.Idle := by
    intro x hx
    rcases List.mem_cons.1 hx with rfl | hx
    · exact .looks (fun _ => rfl) _
    · exact (Cloning.scouts_of_finds hfinds x hx).idle
  cases hop.clone_goes with
  | halted hd =>
    refine .halted fun x hx => ?_
    rw [← List.cons_append] at hx
    rcases List.mem_append.1 hx with hx | hx
    · exact .idle (hlooks x hx)
    rcases List.mem_cons.1 hx with rfl | hx
    · exact .idle (.looks (fun _ => rfl) _)
    · exact (hd x hx).prepares
  | copied hd hd' =>
    refine .made hlooks hfound (fun x hx => (hd x hx).prepares) (by rw [← hnew]; rfl) fun x hx => ?_
    cases hd' x hx <;> rfl

end Operation

/-- A request that makes a new generation goes one of the ways of making one. -/
theorem Request.MakesGeneration.goes {faults : Faults} {request : Request} {w w' : World}
    {t : List (Turn Memory)} {r : Except ServiceError Unit} (h : request.MakesGeneration key)
    (hrun : request.perform.Runs faults w t r w') :
    Succession.Goes w.service key (t.map Turn.exchange) := by
  cases request with
  | ensureExists other =>
    obtain rfl : other = key := h
    obtain ⟨_, hop, -⟩ := hrun.of_discarded
    exact hop.ensureExists_succession
  | reindex other =>
    obtain rfl : other = key := h
    obtain ⟨_, hop, -⟩ := hrun.of_discarded
    exact hop.reindex_succession
  | clone other source =>
    obtain rfl : other = key := h
    obtain ⟨_, hop, -⟩ := hrun.of_discarded
    exact hop.clone_succession
  | _ => exact h.elim

end SiteSearch
