import SiteSearch.Proofs.Service.Move

/-!
# The course of a clone

A clone looks first: its alias must not be bound, and there has to be an index behind the name of its
source. Then there is a `Cloning` of that index to a new one, and it goes on while its source is
blocked: the index is cloned, and the block that the clone has too is lifted (`Cloning.Goes`).

`Says.clone` says that a clone has no other dialogues.
-/

namespace SiteSearch

/-- The making of a collection from an index. -/
structure Cloning where
  aliasName : String
  sourceIndex : String
  newIndex : String

namespace Cloning

variable (m : Cloning)

abbrev copy : EngineCall := .cloneIndex m.sourceIndex m.newIndex (cloneBody m.aliasName)

/-- What a clone does once its source is found. -/
def operation : Operation Unit :=
  Operation.whileBlocked m.sourceIndex
    (Operation.cloneBlocked m.sourceIndex m.newIndex m.aliasName)

def report : CloneReport where
  sourceIndex := m.sourceIndex
  newIndex := m.newIndex
  destinationAlias := m.aliasName

/-- Exchanges in front of the copy, and the copy where it fails. -/
inductive Prepares : Exchange → Prop where
  | look (o : (EngineCall.getSettings m.sourceIndex).Outcome) :
    Prepares ⟨.getSettings m.sourceIndex, o⟩
  | setBlock (blocked : Bool) (o : (blockCall m.sourceIndex blocked).Outcome) :
    Prepares ⟨blockCall m.sourceIndex blocked, o⟩
  | refused (e : EngineError) : Prepares ⟨m.copy, .error e⟩

/-- Exchanges behind the copy: they lift the block of the clone and that of the source. -/
inductive Lifts : Exchange → Prop where
  | new (o : (blockCall m.newIndex false).Outcome) : Lifts ⟨blockCall m.newIndex false, o⟩
  | source (o : (blockCall m.sourceIndex false).Outcome) : Lifts ⟨blockCall m.sourceIndex false, o⟩

/-- The ways in which a clone goes on once its source is found, each with its result. -/
inductive Goes : List Exchange → Except ServiceError Unit → Prop where
  /-- The index is not cloned. -/
  | halted {d : List Exchange} {e : ServiceError} (hd : ∀ x ∈ d, m.Prepares x) : Goes d (.error e)
  /-- The index is cloned, whatever becomes of the blocks. -/
  | copied {d d' : List Exchange} {r : Except ServiceError Unit} (hd : ∀ x ∈ d, m.Prepares x)
    (hd' : ∀ x ∈ d', m.Lifts x) : Goes (d ++ ⟨m.copy, .ok ()⟩ :: d') r

/-- Exchanges of a clone that comes to nothing. -/
inductive Scouts : Exchange → Prop where
  | aliasExists {name : String} (o : (EngineCall.aliasExists name).Outcome) :
    Scouts ⟨.aliasExists name, o⟩
  | getAlias {name : String} (o : (EngineCall.getAlias name).Outcome) : Scouts ⟨.getAlias name, o⟩
  | getIndices {pattern : String} (o : (EngineCall.getIndices pattern).Outcome) :
    Scouts ⟨.getIndices pattern, o⟩

/-- Finding a source is part of it. -/
theorem scouts_of_finds {name index : String} {d : List Exchange}
    (h : Operation.Finds name d index) : ∀ x ∈ d, Scouts x := by
  intro x hx
  cases h with
  | behindAlias =>
    rw [List.mem_singleton.1 hx]
    exact .getAlias _
  | described =>
    obtain rfl | rfl : x = _ ∨ x = _ := by simpa using hx
    · exact .getAlias _
    · exact .getIndices _

end Cloning

namespace Operation

variable {service service' : Service} {d : List Exchange} {m : Cloning}

/-- The dialogues of a clone under the block: the block of the clone is lifted only where there is a
clone. -/
theorem Says.cloneBlocked {r : Except ServiceError Unit}
    (h : (cloneBlocked m.sourceIndex m.newIndex m.aliasName).Says service d r service') :
    service' = service ∧
      ((∃ e, d = [⟨m.copy, .error e⟩] ∧ r = .error (.ofEngine e)) ∨
        ∃ o, d = [⟨m.copy, .ok ()⟩, ⟨blockCall m.newIndex false, o⟩] ∧ r = resultOf o) := by
  unfold Operation.cloneBlocked Operation.setBlock at h
  obtain ⟨e, rfl, rfl, rfl⟩ | ⟨_, d', rfl, hlift⟩ := says_ask_bind.1 h
  · exact ⟨rfl, .inl ⟨e, rfl, rfl⟩⟩
  · obtain ⟨o, rfl, rfl, rfl⟩ := says_ask.1 hlift
    exact ⟨rfl, .inr ⟨o, rfl, rfl⟩⟩

/-- A clone goes on in one of the two ways. -/
theorem Says.clone_goes {r : Except ServiceError Unit}
    (h : m.operation.Says service d r service') : m.Goes d r := by
  obtain ⟨e, rfl, rfl⟩ | ⟨settings, d', -, rfl, hop⟩ | ⟨settings, e, rfl, rfl⟩ |
    ⟨settings, d', r', o, -, rfl, hop, rfl⟩ := h.whileBlocked
  · refine .halted fun x hx => ?_
    rw [List.mem_singleton.1 hx]
    exact .look _
  · obtain ⟨-, ⟨e, rfl, rfl⟩ | ⟨o, rfl, -⟩⟩ := hop.cloneBlocked
    · refine .halted fun x hx => ?_
      obtain rfl | rfl : x = _ ∨ x = _ := by simpa using hx
      · exact .look _
      · exact .refused e
    · refine .copied (d := [_]) (fun x hx => ?_) fun x hx => ?_
      · rw [List.mem_singleton.1 hx]
        exact .look _
      · rw [List.mem_singleton.1 hx]
        exact .new o
  · refine .halted fun x hx => ?_
    obtain rfl | rfl : x = _ ∨ x = _ := by simpa using hx
    · exact .look _
    · exact .setBlock true _
  · obtain ⟨-, ⟨e, rfl, rfl⟩ | ⟨o', rfl, -⟩⟩ := hop.cloneBlocked
    · refine .halted fun x hx => ?_
      obtain rfl | rfl | rfl | rfl : x = _ ∨ x = _ ∨ x = _ ∨ x = _ := by simpa using hx
      · exact .look _
      · exact .setBlock true _
      · exact .refused e
      · exact .setBlock false o
    · refine .copied (d := [_, _]) (fun x hx => ?_) fun x hx => ?_
      · obtain rfl | rfl : x = _ ∨ x = _ := by simpa using hx
        · exact .look _
        · exact .setBlock true _
      · obtain rfl | rfl : x = _ ∨ x = _ := by simpa using hx
        · exact .new o'
        · exact .source o

/-- A clone looks at its alias first, and goes no further where that is bound. -/
theorem Says.clone_looks {key : CollectionKey} {source : String} {r : Except ServiceError CloneReport}
    (h : (clone key source).Says service d r service') :
    ∃ o d', d = ⟨.aliasExists (service.aliasName key), o⟩ :: d' ∧
      (o = .ok true → r = .error (.destinationExists (service.aliasName key))) := by
  unfold Operation.clone at h
  rw [says_aliasOf_bind] at h
  obtain ⟨e, rfl, rfl, rfl⟩ | ⟨bound, d', rfl, hrest⟩ := says_ask_bind.1 h
  · exact ⟨.error e, [], rfl, nofun⟩
  · refine ⟨.ok bound, d', rfl, ?_⟩
    rintro ⟨⟩
    exact (says_throw.1 (says_record_bind.1 hrest)).2.1

/-- A clone either comes to nothing, or it finds that its alias is not bound and an index behind the
name of its source, and it goes on under the block. Where it succeeds the signature is forgotten. -/
theorem Says.clone {key : CollectionKey} {source : String} {r : Except ServiceError CloneReport}
    (h : (clone key source).Says service d r service') :
    ((∃ e, r = .error e) ∧ service'.cache = service.cache ∧ ∀ x ∈ d, Cloning.Scouts x) ∨
    ∃ m : Cloning, m.aliasName = service.aliasName key ∧ ∃ o found d₁ d₂ r' service₁,
      foundIn o = .ok found ∧ m.newIndex = service.newName key found ∧
      Finds source d₁ m.sourceIndex ∧
      d = ⟨.aliasExists m.aliasName, .ok false⟩ ::
        (d₁ ++ ⟨.getIndices (service.indexNames.generationPattern key), o⟩ :: d₂) ∧
      m.operation.Says service d₂ r' service₁ ∧ (r = r'.map fun _ => m.report) ∧
      service'.cache = if r'.isOk then service₁.cache.invalidate key else service₁.cache := by
  unfold Operation.clone at h
  rw [says_aliasOf_bind] at h
  obtain ⟨e, rfl, rfl, rfl⟩ | ⟨bound, d', rfl, hrest⟩ := says_ask_bind.1 h
  · refine .inl ⟨⟨_, rfl⟩, rfl, fun x hx => ?_⟩
    rw [List.mem_singleton.1 hx]
    exact .aliasExists _
  have hscouts : ∀ {d : List Exchange}, (∀ x ∈ d, Cloning.Scouts x) →
      ∀ x ∈ ⟨.aliasExists (service.aliasName key), .ok bound⟩ :: d, Cloning.Scouts x := by
    intro d hd x hx
    rcases List.mem_cons.1 hx with rfl | hx
    · exact .aliasExists _
    · exact hd x hx
  split at hrest
  · obtain ⟨rfl, rfl, rfl⟩ := says_throw.1 (says_record_bind.1 hrest)
    exact .inl ⟨⟨_, rfl⟩, rfl, hscouts (by simp)⟩
  rename_i hfree
  obtain rfl : bound = false := by simpa using hfree
  obtain ⟨e, hfind, rfl⟩ | ⟨sourceIndex, service₁, d₁, d₂, rfl, hfind, hfound⟩ :=
    says_bind.1 hrest
  · obtain ⟨rfl, ⟨_, heq, -⟩ | ⟨-, hd⟩⟩ := hfind.resolveIndex
    · cases heq
    refine .inl ⟨⟨e, rfl⟩, rfl, hscouts fun x hx => ?_⟩
    obtain ⟨o, rfl⟩ | ⟨o, o', rfl⟩ := hd
    · rw [List.mem_singleton.1 hx]
      exact .getAlias _
    · obtain rfl | rfl : x = _ ∨ x = _ := by simpa using hx
      · exact .getAlias _
      · exact .getIndices _
  have hsource : service₁ = service ∧ Finds source d₁ sourceIndex := by
    obtain ⟨rfl, ⟨_, ⟨⟩, hfinds⟩ | ⟨⟨_, heq⟩, -⟩⟩ := hfind.resolveIndex
    · exact ⟨rfl, hfinds⟩
    · cases heq
  obtain ⟨rfl, hfinds⟩ := hsource
  obtain ⟨e, hnext, rfl⟩ | ⟨newIndex, service₂, d₃, d₄, rfl, hnext, hclone⟩ := says_bind.1 hfound
  · obtain ⟨o, rfl, -, rfl⟩ := hnext.nextGeneration
    refine .inl ⟨⟨e, rfl⟩, rfl, hscouts fun x hx => ?_⟩
    rcases List.mem_append.1 hx with hx | hx
    · exact Cloning.scouts_of_finds hfinds x hx
    · rw [List.mem_singleton.1 hx]
      exact .getIndices _
  obtain ⟨o, rfl, hnew, rfl⟩ := hnext.nextGeneration
  obtain ⟨found, hin, rfl⟩ := map_eq_ok.1 hnew.symm
  obtain ⟨r', service₃, d₅, d₆, rfl, hop, hend⟩ := says_outcome_bind.1 hclone
  refine .inr ⟨⟨_, sourceIndex, _⟩, rfl, o, found, d₁, d₅, r', service₃, hin, rfl, hfinds, ?_⟩
  rcases r' with e | ⟨⟩
  · obtain ⟨rfl, rfl, rfl⟩ := says_throw.1 (says_record_bind.1 hend)
    exact ⟨by rw [List.append_nil]; rfl, hop, rfl, rfl⟩
  · unfold forgetSignature at hend
    rw [says_changeCache_bind, says_record_bind, says_record_bind] at hend
    obtain ⟨rfl, rfl, rfl⟩ := says_pure.1 hend
    exact ⟨by rw [List.append_nil]; rfl, hop, rfl, rfl⟩

end Operation

end SiteSearch
