import SiteSearch.Proofs.Memory.Look
import SiteSearch.Proofs.Service.History
import SiteSearch.Proofs.Service.Move

/-!
# How a move opens

A move opens with three calls (`Operation.Runs.opens`). In front of the engine in memory the first
two change nothing, the first names the indexes that carry the alias, and the third adds the new
index, which is none that was there before. So the new index is not the old one
(`Move.newIndex_ne_oldIndex`).
-/

namespace SiteSearch

variable {faults : Faults} {m : Move}

/-- The new index was not there, and the old one was. -/
theorem Move.newIndex_ne_oldIndex {store : Store}
    (hnewest : newestIndex? (store.carriers m.aliasName) = some m.oldIndex)
    (hnew : store.contains m.newIndex = false) : m.newIndex ≠ m.oldIndex := by
  have hold : store.Carries m.oldIndex m.aliasName := Store.mem_carriers.1 (mem_of_newestIndex? hnewest)
  intro heq
  rw [heq, hold.contains] at hnew
  cases hnew

/-- A reindex that comes to no move has done nothing. -/
theorem Move.Scouts.idle {x : Exchange} (h : Move.Scouts x) : x.Idle := by
  cases h with
  | getAlias | getIndices => exact .looks (fun _ => rfl) _
  | refused _ e => exact .failed e

/-- A reindex comes to no move, or it opens one: its first three turns make the new index, and the
others are those of the move. -/
theorem Operation.Runs.opens {key : CollectionKey} {w w' : World} {t : List (Turn Memory)}
    {r : Except ServiceError ReindexReport} (h : (Operation.reindex key).Runs faults w t r w') :
    ((∃ e, r = .error e) ∧ ∀ x ∈ t.map Turn.exchange, Move.Scouts x) ∨
    ∃ (m : Move) (u₁ u₂ u₃ : Turn Memory) (t' : List (Turn Memory))
      (r' : Except ServiceError ReindexReply) (service : Service),
      m.For w.service key ∧ newestIndex? (w.memory.store.carriers m.aliasName) = some m.oldIndex ∧
      w.memory.store.contains m.newIndex = false ∧ m.newIndex ≠ m.oldIndex ∧
      t = u₁ :: u₂ :: u₃ :: t' ∧
      u₁.after.store = w.memory.store ∧ u₂.after.store = w.memory.store ∧
      u₃.after.store =
        w.memory.store.insert m.newIndex (Store.indexOfBody (indexBody m.key m.mapping)) ∧
      u₁.exchange = ⟨.getAlias m.aliasName, .ok (w.memory.store.carriers m.aliasName)⟩ ∧
      (∃ pattern found, u₂.exchange = ⟨.getIndices pattern, found⟩) ∧
      u₃.exchange = ⟨m.create, .ok ()⟩ ∧
      m.operation.Says w.service (t'.map Turn.exchange) r' service ∧
      Leads Memory.answer faults u₃.after t' w'.memory ∧ r = r'.map m.report := by
  obtain ⟨hop, hl⟩ := h
  rcases hop.reindex with ⟨herror, -, hscouts⟩ | ⟨m, hm, bound, found, -, d, r', service, hnewest, -, -,
    ht, hmove, rfl, -⟩
  · exact .inl ⟨herror, hscouts⟩
  obtain ⟨s₁, t₁, rfl, h₁, ht₁, hl₁⟩ := hl.first ht
  obtain ⟨s₂, t₂, rfl, h₂, ht₂, hl₂⟩ := hl₁.first ht₁
  obtain ⟨s₃, t₃, rfl, h₃, rfl, hl₃⟩ := hl₂.first ht₂
  have hs₁ : s₁.store = w.memory.store := h₁.store_of_looks fun _ => rfl
  have hs₂ : s₂.store = w.memory.store := (h₂.store_of_looks fun _ => rfl).trans hs₁
  obtain ⟨hnew, -, hs₃⟩ := Store.createIndex_eq_ok.1 h₃.perform_of_ok
  rw [hs₂] at hnew hs₃
  obtain rfl := h₁.bound_eq
  exact .inr ⟨m, _, _, _, t₃, r', service, hm, hnewest, hnew, m.newIndex_ne_oldIndex hnewest hnew,
    rfl, hs₁, hs₂, hs₃, rfl, ⟨_, found, rfl⟩, rfl, hmove, hl₃, rfl⟩

end SiteSearch
