import Mathlib.Data.List.Basic
import SiteSearch.Proofs.Memory.Effects
import SiteSearch.Proofs.Service.Calls
import SiteSearch.Proofs.Service.Move

/-!
# When a move binds its new index

A reindex that binds its new index has made it before that, and goes on to unbind the old one
(`Move.Rebinds`). One that does not binds and unbinds nothing (`Operation.Says.reindex_rebinds`). It
deletes nothing in any case.
-/

namespace SiteSearch

/-- Nothing is made, deleted, bound or unbound. -/
def Exchange.Still (x : Exchange) : Prop :=
  ∀ i a, ¬ x.Creates i ∧ ¬ x.Deletes i ∧ ¬ x.Binds i a ∧ ¬ x.Unbinds i a

namespace Move

/-- The dialogues of a reindex that binds the new index. -/
inductive Rebinds (m : Move) : List Exchange → Prop where
  | intro {bound : List String} {pattern : String} {listed : (EngineCall.getIndices pattern).Outcome}
    {o : m.unbind.Outcome} {d₁ d₂ : List Exchange} (hold : newestIndex? bound = some m.oldIndex)
    (h₁ : ∀ x ∈ d₁, x.Still) (h₂ : ∀ x ∈ d₂, x.Still) :
    Rebinds m (⟨.getAlias m.aliasName, .ok bound⟩ :: ⟨.getIndices pattern, listed⟩ ::
      ⟨m.create, .ok ()⟩ :: (d₁ ++ ⟨m.bind, .ok ()⟩ :: ⟨m.unbind, o⟩ :: d₂))

variable {m : Move}

theorem Guards.still {x : Exchange} (h : m.Guards x) : x.Still := by
  cases h <;> exact fun _ _ => ⟨id, id, id, id⟩

theorem Prepares.still {x : Exchange} (h : m.Prepares x) : x.Still := by
  cases h with
  | guards h => exact h.still
  | copy | bind => exact fun _ _ => ⟨id, id, id, id⟩

/-- A move binds its new index and goes on to unbind the old one, or neither. -/
theorem Goes.still_or {d : List Exchange} {r : Except ServiceError ReindexReply} (h : m.Goes d r) :
    (∀ x ∈ d, x.Still) ∨
      ∃ d₁ o d₂, d = d₁ ++ ⟨m.bind, .ok ()⟩ :: ⟨m.unbind, o⟩ :: d₂ ∧ (∀ x ∈ d₁, x.Still) ∧
        ∀ x ∈ d₂, x.Still := by
  have hcopied : ∀ {d : List Exchange} {o : m.copy.Outcome}, (∀ x ∈ d, m.Guards x) →
      ∀ x ∈ d ++ [⟨m.copy, o⟩], x.Still := by
    intro d o hd x hx
    rcases List.mem_append.1 hx with hx | hx
    · exact (hd x hx).still
    · rw [List.mem_singleton.1 hx]
      exact fun _ _ => ⟨id, id, id, id⟩
  cases h with
  | halted hd => exact .inl fun x hx => (hd x hx).still
  | doubled h₁ h₂ | moved h₁ h₂ =>
    exact .inr ⟨_ ++ [_], _, _, by rw [List.append_assoc]; rfl, hcopied h₁, fun x hx => (h₂ x hx).still⟩

end Move

/-- The dialogues of a reindex that binds and unbinds nothing. -/
def Exchange.Leaves (x : Exchange) : Prop :=
  ∀ i a, ¬ x.Deletes i ∧ ¬ x.Binds i a ∧ ¬ x.Unbinds i a

/-- A reindex binds a new index in this way, or it binds and unbinds nothing. -/
theorem Operation.Says.reindex_rebinds {service service' : Service} {key : CollectionKey}
    {d : List Exchange} {r : Except ServiceError ReindexReport}
    (h : (Operation.reindex key).Says service d r service') :
    (∀ x ∈ d, x.Leaves) ∨ ∃ m : Move, m.For service key ∧ m.Rebinds d := by
  rcases h.reindex with ⟨-, -, hscouts⟩ | ⟨m, hm, bound, found, _, d', r', _, hold, -, -, rfl, hmove, -⟩
  · refine .inl fun x hx => ?_
    cases hscouts x hx <;> exact fun _ _ => ⟨id, id, id⟩
  · rcases hmove.goes.still_or with hstill | ⟨d₁, o, d₂, rfl, h₁, h₂⟩
    · refine .inl fun x hx => ?_
      obtain rfl | rfl | rfl | hx : x = _ ∨ x = _ ∨ x = _ ∨ x ∈ d' := by simpa using hx
      · exact fun _ _ => ⟨id, id, id⟩
      · exact fun _ _ => ⟨id, id, id⟩
      · exact fun _ _ => ⟨id, id, id⟩
      · exact fun i a => (hstill x hx i a).2
    · exact .inr ⟨m, hm, .intro hold h₁ h₂⟩

namespace Move

variable {m : Move} {d e₁ e₂ : List Exchange} {x : Exchange} {i b : String}

/-- What a reindex that binds its new index does before and behind that. -/
structure Cut (m : Move) (e₁ e₂ : List Exchange) : Prop where
  made : ∃ y ∈ e₁, y.Creates m.newIndex
  before : ∀ y ∈ e₁, ∀ j c, ¬ y.Binds j c ∧ ¬ y.Unbinds j c
  behind : ∀ y ∈ e₂, ∀ j c, ¬ y.Creates j ∧ ¬ y.Binds j c ∧ (y.Unbinds j c → j = m.oldIndex)
  unbinds : ∃ o, ⟨m.unbind, o⟩ ∈ e₂

namespace Rebinds

theorem deletes_nothing (h : m.Rebinds d) : ∀ x ∈ d, ¬ x.Deletes i := by
  cases h with
  | intro _ h₁ h₂ =>
    simp only [List.forall_mem_cons, List.forall_mem_append]
    exact ⟨id, id, id, fun x hx => (h₁ x hx i "").2.1, id, id, fun x hx => (h₂ x hx i "").2.1⟩

theorem looked (h : m.Rebinds d) :
    ∃ bound d', d = ⟨.getAlias m.aliasName, .ok bound⟩ :: d' ∧ newestIndex? bound = some m.oldIndex := by
  cases h with
  | intro hold => exact ⟨_, _, rfl, hold⟩

theorem creates (h : m.Rebinds d) : ∃ x ∈ d, x.Creates m.newIndex := by
  cases h with
  | intro => exact ⟨⟨m.create, .ok ()⟩, by simp, rfl⟩

theorem binds (h : m.Rebinds d) : ∃ x ∈ d, x.Binds m.newIndex m.aliasName := by
  cases h with
  | intro => exact ⟨⟨m.bind, .ok ()⟩, by simp, rfl, rfl⟩

/-- Nothing is done before the new index is made, and no index is made behind that. -/
theorem at_create (h : m.Rebinds (e₁ ++ x :: e₂)) (hx : x.Creates i) :
    (∀ y ∈ e₁, y.Still) ∧ ∀ y ∈ e₂, ∀ j, ¬ y.Creates j := by
  generalize hd : e₁ ++ x :: e₂ = d at h
  cases h with
  | @intro bound pattern listed o d₁ d₂ hold h₁ h₂ =>
    have hfirst : ∀ y : Exchange,
        y ∈ [⟨.getAlias m.aliasName, .ok bound⟩, ⟨.getIndices pattern, listed⟩] → y.Still := by
      simp only [List.forall_mem_cons]
      exact ⟨fun _ _ => ⟨id, id, id, id⟩, fun _ _ => ⟨id, id, id, id⟩, nofun⟩
    have hrest : ∀ y ∈ d₁ ++ ⟨m.bind, .ok ()⟩ :: ⟨m.unbind, o⟩ :: d₂, ∀ j, ¬ y.Creates j := by
      rw [List.forall_mem_append, List.forall_mem_cons, List.forall_mem_cons]
      exact ⟨fun y hy j => (h₁ y hy j "").1, fun _ => id, fun _ => id, fun y hy j => (h₂ y hy j "").1⟩
    obtain ⟨rfl, -, rfl⟩ := (List.append_cons_inj_of_notMem (fun h => (hfirst x h i "").1 hx)
      fun h => hrest x h i hx).1 (Eq.trans rfl hd.symm)
    exact ⟨hfirst, hrest⟩

theorem at_bind (h : m.Rebinds (e₁ ++ x :: e₂)) (hx : x.Binds i b) :
    i = m.newIndex ∧ b = m.aliasName ∧ m.Cut e₁ e₂ := by
  generalize hd : e₁ ++ x :: e₂ = d at h
  cases h with
  | @intro bound pattern listed o d₁ d₂ hold h₁ h₂ =>
    have hbefore : ∀ y : Exchange, y ∈ ⟨.getAlias m.aliasName, .ok bound⟩ ::
        ⟨.getIndices pattern, listed⟩ :: ⟨m.create, .ok ()⟩ :: d₁ → ∀ j c, ¬ y.Binds j c ∧ ¬ y.Unbinds j c := by
      simp only [List.forall_mem_cons]
      exact ⟨fun _ _ => ⟨id, id⟩, fun _ _ => ⟨id, id⟩, fun _ _ => ⟨id, id⟩,
        fun y hy j c => (h₁ y hy j c).2.2⟩
    have hbehind : ∀ y ∈ ⟨m.unbind, o⟩ :: d₂,
        ∀ j c, ¬ y.Creates j ∧ ¬ y.Binds j c ∧ (y.Unbinds j c → j = m.oldIndex) := by
      rw [List.forall_mem_cons]
      refine ⟨fun j c => ⟨id, id, ?_⟩, fun y hy j c => ?_⟩
      · rcases o with e | _
        · exact False.elim
        · exact fun h => h.1.symm
      · obtain ⟨hcreates, -, hbinds, hunbinds⟩ := h₂ y hy j c
        exact ⟨hcreates, hbinds, fun h => absurd h hunbinds⟩
    obtain ⟨rfl, rfl, rfl⟩ := (List.append_cons_inj_of_notMem (fun h => (hbefore x h i b).1 hx)
      fun h => (hbehind x h i b).2.1 hx).1 (Eq.trans rfl hd.symm)
    obtain ⟨rfl, rfl⟩ := hx
    exact ⟨rfl, rfl, ⟨⟨m.create, .ok ()⟩, by simp, rfl⟩, hbefore, hbehind, o, List.mem_cons_self⟩

end Rebinds

end Move

/-- A reindex deletes nothing. -/
theorem Operation.Says.reindex_spares {service service' : Service} {key : CollectionKey}
    {d : List Exchange} {r : Except ServiceError ReindexReport} (h : (Operation.reindex key).Says service d r service') :
    ∀ x ∈ d, x.1.MakesBare ∧ ∀ i, ¬ x.Deletes i := by
  obtain ⟨-, hasks, -⟩ := Operation.asksOnly_reindex_moves _ _ rfl h
  intro x hx
  obtain ⟨htends, -, hclones⟩ := hasks x hx
  refine ⟨htends.makesBare hclones, fun i => ?_⟩
  obtain hleaves | ⟨move, -, hrebinds⟩ := h.reindex_rebinds
  · exact (hleaves x hx i "").1
  · exact hrebinds.deletes_nothing x hx

end SiteSearch
