import SiteSearch.Proofs.Service.Dialogue
import SiteSearch.Service.Lifecycle

/-!
# What a service hears about an alias

Every operation on a collection looks first at what is there: which indexes its alias is bound to,
and which generations it has. Each look is a single call, and what the operation learns from it is a
function of the outcome of that call.
-/

namespace SiteSearch

/-- What the outcome of a look at the indexes of a collection stands for: that there are none is no
failure. -/
def foundIn : Except EngineError (List IndexDescription) → Except ServiceError (List IndexDescription)
  | .ok found => .ok found
  | .error (.notFound _) => .ok []
  | .error e => .error (.ofEngine e)

theorem foundIn_eq_ok {o : Except EngineError (List IndexDescription)}
    {found : List IndexDescription} (h : foundIn o = .ok found) :
    o = .ok found ∨ (∃ what, o = .error (.notFound what)) ∧ found = [] := by
  rcases o with e | found'
  · cases e with
    | notFound => exact .inr ⟨⟨_, rfl⟩, (Except.ok.inj h).symm⟩
    | _ => cases h
  · exact .inl (by rw [Except.ok.inj h])

/-- The name that a service gives to a new generation where it has found some indexes. -/
def Service.newName (service : Service) (key : CollectionKey) (found : List IndexDescription) : String :=
  service.indexNames.generationName key
    (nextTime service.now (generationsAmong service.indexNames key found))

/-- The newest index that the outcome of a look at an alias names. -/
def resolvedIn (aliasName : String) : Except EngineError (List String) → Except ServiceError String
  | .error e => .error (.ofEngine e)
  | .ok bound =>
    match newestIndex? bound with
    | some index => .ok index
    | none => .error (.notFound ("alias [" ++ aliasName ++ "] is not bound"))

theorem resolvedIn_eq_ok {aliasName index : String} {o : Except EngineError (List String)}
    (h : resolvedIn aliasName o = .ok index) :
    ∃ bound, o = .ok bound ∧ newestIndex? bound = some index := by
  rcases o with e | bound
  · cases h
  · refine ⟨bound, rfl, ?_⟩
    simp only [resolvedIn] at h
    split at h
    · rename_i newest hnewest
      rw [hnewest, Except.ok.inj h]
    · cases h

/-- Behind an alias nothing is found, or else the look at it has failed for another reason. -/
theorem resolvedIn_eq_error {aliasName : String} {e : ServiceError}
    {o : Except EngineError (List String)} (h : resolvedIn aliasName o = .error e) :
    (∃ what, e = .notFound what) ∨ ∃ e', o = .error e' ∧ ∀ what, e' ≠ .notFound what := by
  rcases o with e' | bound
  · obtain rfl := Except.error.inj h
    cases e' with
    | notFound what => exact .inl ⟨what, rfl⟩
    | _ => exact .inr ⟨_, rfl, nofun⟩
  · simp only [resolvedIn] at h
    split at h
    · cases h
    · exact .inl ⟨_, (Except.error.inj h).symm⟩

/-- The newest of some indexes is one of them. -/
theorem mem_of_newestIndex? {newest : String} :
    ∀ {indexes : List String}, newestIndex? indexes = some newest → newest ∈ indexes
  | index :: rest, h => by
    unfold newestIndex? at h
    cases hrest : newestIndex? rest with
    | none =>
      rw [hrest] at h
      simp [Option.some.inj h]
    | some other =>
      rw [hrest] at h
      obtain rfl := Option.some.inj h
      split
      · exact List.mem_cons_self
      · exact List.mem_cons_of_mem _ (mem_of_newestIndex? hrest)

/-- Among some indexes there is a newest one. -/
theorem exists_newestIndex? : ∀ {indexes : List String}, indexes ≠ [] →
    ∃ newest, newestIndex? indexes = some newest
  | index :: rest, _ => by
    unfold newestIndex?
    cases newestIndex? rest with
    | none => exact ⟨_, rfl⟩
    | some other => exact ⟨_, rfl⟩

namespace Operation

variable {service service' : Service} {d : List Exchange} {key : CollectionKey}

theorem Says.coveredIndexes {r : Except ServiceError (List IndexDescription)}
    (h : (coveredIndexes key).Says service d r service') :
    ∃ o, d = [⟨.getIndices (service.indexNames.generationPattern key), o⟩] ∧ r = foundIn o ∧
      service' = service := by
  unfold Operation.coveredIndexes at h
  rw [says_get_bind, says_attempt_bind] at h
  obtain ⟨o, d', rfl, h⟩ := h
  rcases o with e | found
  · cases e with
    | notFound =>
      obtain ⟨rfl, rfl, rfl⟩ := says_pure.1 h
      exact ⟨_, rfl, rfl, rfl⟩
    | _ =>
      obtain ⟨rfl, rfl, rfl⟩ := says_throw.1 h
      exact ⟨_, rfl, rfl, rfl⟩
  · obtain ⟨rfl, rfl, rfl⟩ := says_pure.1 h
    exact ⟨_, rfl, rfl, rfl⟩

theorem Says.generations {r : Except ServiceError (List Generation)}
    (h : (generations key).Says service d r service') :
    ∃ o, d = [⟨.getIndices (service.indexNames.generationPattern key), o⟩] ∧
      r = (foundIn o).map (generationsAmong service.indexNames key) ∧ service' = service := by
  unfold Operation.generations at h
  obtain ⟨e, hfound, rfl⟩ | ⟨found, service₁, d₁, d₂, rfl, hfound, hrest⟩ := says_bind.1 h
  · obtain ⟨o, rfl, ho, rfl⟩ := hfound.coveredIndexes
    exact ⟨o, rfl, by rw [← ho]; rfl, rfl⟩
  · obtain ⟨o, rfl, ho, rfl⟩ := hfound.coveredIndexes
    rw [says_get_bind] at hrest
    obtain ⟨rfl, rfl, rfl⟩ := says_pure.1 hrest
    exact ⟨o, rfl, by rw [← ho]; rfl, rfl⟩

theorem Says.nextGeneration {r : Except ServiceError String}
    (h : (nextGeneration key).Says service d r service') :
    ∃ o, d = [⟨.getIndices (service.indexNames.generationPattern key), o⟩] ∧
      r = (foundIn o).map (service.newName key) ∧ service' = service := by
  unfold Operation.nextGeneration at h
  rw [says_get_bind] at h
  obtain ⟨e, hfound, rfl⟩ | ⟨found, service₁, d₁, d₂, rfl, hfound, hrest⟩ := says_bind.1 h
  · obtain ⟨o, rfl, ho, rfl⟩ := hfound.generations
    refine ⟨o, rfl, ?_, rfl⟩
    rcases hin : foundIn o with e' | found <;> rw [hin] at ho <;> cases ho
    rfl
  · obtain ⟨o, rfl, ho, rfl⟩ := hfound.generations
    rw [says_get_bind] at hrest
    obtain ⟨rfl, rfl, rfl⟩ := says_pure.1 hrest
    refine ⟨o, rfl, ?_, rfl⟩
    rcases hin : foundIn o with e' | found' <;> rw [hin] at ho <;> cases ho
    rfl

theorem Says.resolveAlias {aliasName : String} {r : Except ServiceError String}
    (h : (resolveAlias aliasName).Says service d r service') :
    ∃ o, d = [⟨.getAlias aliasName, o⟩] ∧ r = resolvedIn aliasName o ∧ service' = service := by
  unfold Operation.resolveAlias at h
  rw [says_ask_bind] at h
  obtain ⟨e, rfl, rfl, rfl⟩ | ⟨bound, d', rfl, h⟩ := h
  · exact ⟨_, rfl, rfl, rfl⟩
  · refine ⟨.ok bound, ?_⟩
    unfold resolvedIn
    cases hnewest : newestIndex? bound with
    | some index =>
      rw [hnewest] at h
      obtain ⟨rfl, rfl, rfl⟩ := says_pure.1 h
      exact ⟨rfl, by simp only [hnewest], rfl⟩
    | none =>
      rw [hnewest] at h
      obtain ⟨rfl, rfl, rfl⟩ := says_throw.1 h
      exact ⟨rfl, by simp only [hnewest], rfl⟩

/-! ## Sources -/

/-- The dialogues that find an index behind a name: the newest one under an alias, or else, where no
index is found in that way, the first one that is described under the name. -/
inductive Finds (name : String) : List Exchange → String → Prop where
  | behindAlias {bound : List String} {index : String} (h : newestIndex? bound = some index) :
    Finds name [⟨.getAlias name, .ok bound⟩] index
  | described {o : (EngineCall.getAlias name).Outcome} {e : ServiceError} {index : IndexDescription}
    {rest : List IndexDescription} (h : resolvedIn name o = .error e) :
    Finds name [⟨.getAlias name, o⟩, ⟨.getIndices name, .ok (index :: rest)⟩] index.name

theorem Says.resolveIndex {name : String} {r : Except ServiceError String}
    (h : (resolveIndex name).Says service d r service') :
    service' = service ∧
      ((∃ index, r = .ok index ∧ Finds name d index) ∨
        (∃ e, r = .error e) ∧
          ((∃ o, d = [⟨.getAlias name, o⟩]) ∨
            ∃ o o', d = [⟨.getAlias name, o⟩, ⟨.getIndices name, o'⟩])) := by
  unfold Operation.resolveIndex at h
  obtain ⟨resolved, service₁, d₁, d₂, rfl, halias, hrest⟩ := says_outcome_bind.1 h
  obtain ⟨o, rfl, ho, rfl⟩ := halias.resolveAlias
  split at hrest
  · obtain ⟨e, rfl, rfl, rfl⟩ | ⟨found, d', rfl, hfound⟩ := says_ask_bind.1 hrest
    · exact ⟨rfl, .inr ⟨⟨_, rfl⟩, .inr ⟨o, _, rfl⟩⟩⟩
    cases found with
    | nil =>
      obtain ⟨rfl, rfl, rfl⟩ := says_throw.1 hfound
      exact ⟨rfl, .inr ⟨⟨_, rfl⟩, .inr ⟨o, _, rfl⟩⟩⟩
    | cons index rest =>
      obtain ⟨rfl, rfl, rfl⟩ := says_pure.1 hfound
      exact ⟨rfl, .inl ⟨index.name, rfl, .described ho.symm⟩⟩
  · obtain ⟨rfl, rfl, rfl⟩ := says_finish.1 hrest
    cases r with
    | error e => exact ⟨rfl, .inr ⟨⟨e, rfl⟩, .inl ⟨o, rfl⟩⟩⟩
    | ok index =>
      obtain ⟨bound, rfl, hnewest⟩ := resolvedIn_eq_ok ho.symm
      exact ⟨rfl, .inl ⟨index, rfl, .behindAlias hnewest⟩⟩

end Operation

end SiteSearch
