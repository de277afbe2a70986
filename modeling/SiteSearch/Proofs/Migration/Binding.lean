import Mathlib.Order.BooleanAlgebra.Set
import SiteSearch.Proofs.Memory.Copy
import SiteSearch.Proofs.Migration.Opening
import SiteSearch.Proofs.Service.History

/-!
# What a move does to the engine in memory

A move leaves all indexes alone but two (`Move.Spares`), and takes the set of the indexes that its
alias is bound to from `B` over `B` with the new index to `B` with the new index in place of the old
one, never back. `Move.Stands` says where the store stands on this way; each exchange of the move
keeps it there or takes it one step further.
-/

namespace SiteSearch

/-- The indexes that an alias is bound to. -/
def Store.bound (store : Store) (aliasName : String) : Set String :=
  {index | store.Carries index aliasName}

theorem Store.SameAliases.bound_eq {store store' : Store} {a : String} (h : store.SameAliases store') :
    store'.bound a = store.bound a :=
  Set.ext fun _ => h.carries_iff

namespace Move

/-- A move leaves every index but the old and the new one as it is, and of the old one the documents,
the mapping and all aliases but its own. -/
structure Spares (m : Move) (before after : Store) : Prop where
  others : ∀ i, i ≠ m.oldIndex → i ≠ m.newIndex → after.get? i = before.get? i
  old : ∀ held, before.get? m.oldIndex = some held →
    ∃ held', after.get? m.oldIndex = some held' ∧ held'.documents = held.documents ∧
      held'.properties = held.properties ∧
      ∀ b, b ≠ m.aliasName → held'.aliases.get? b = held.aliases.get? b

variable {m : Move} {start store store' : Store} {B : Set String} {D : NameMap Json}

namespace Spares

theorem refl : m.Spares store store where
  others _ _ _ := rfl
  old held h := ⟨held, h, rfl, rfl, fun _ _ => rfl⟩

theorem trans (h : m.Spares start store) (h' : m.Spares store store') : m.Spares start store' where
  others i hold hnew := (h'.others i hold hnew).trans (h.others i hold hnew)
  old held hget := by
    obtain ⟨held₁, hget₁, hdocuments₁, hproperties₁, haliases₁⟩ := h.old held hget
    obtain ⟨held₂, hget₂, hdocuments₂, hproperties₂, haliases₂⟩ := h'.old held₁ hget₁
    exact ⟨held₂, hget₂, hdocuments₂.trans hdocuments₁, hproperties₂.trans hproperties₁,
      fun b hb => (haliases₂ b hb).trans (haliases₁ b hb)⟩

theorem insert_new {held : StoredIndex} (hne : m.newIndex ≠ m.oldIndex) :
    m.Spares store (store.insert m.newIndex held) where
  others _ _ hnew := NameMap.get?_insert_ne hnew
  old held hget := ⟨held, (NameMap.get?_insert_ne hne.symm).trans hget, rfl, rfl, fun _ _ => rfl⟩

theorem insert_old {held held' : StoredIndex} (hget : store.get? m.oldIndex = some held)
    (hdocuments : held'.documents = held.documents) (hproperties : held'.properties = held.properties)
    (haliases : ∀ b, b ≠ m.aliasName → held'.aliases.get? b = held.aliases.get? b) :
    m.Spares store (store.insert m.oldIndex held') where
  others _ hold _ := NameMap.get?_insert_ne hold
  old other hother := by
    obtain rfl := Option.some.inj (hget.symm.trans hother)
    exact ⟨held', NameMap.get?_insert_self, hdocuments, hproperties, haliases⟩

end Spares

/-- Where a store stands on the way of a move: how much it is spared, what the alias is bound to, and
which documents the new index has. -/
structure Stands (m : Move) (start : Store) (B : Set String) (D : NameMap Json) (store : Store) :
    Prop where
  spares : m.Spares start store
  bound_eq : store.bound m.aliasName = B
  filled : ∃ held, store.get? m.newIndex = some held ∧ held.documents = D

namespace Stands

variable {held : StoredIndex}

theorem oldIndex (h : m.Stands start B D store) (hold : start.get? m.oldIndex = some held) :
    ∃ held', store.get? m.oldIndex = some held' ∧ held'.documents = held.documents := by
  obtain ⟨held', hget, hdocuments, -⟩ := h.spares.old held hold
  exact ⟨held', hget, hdocuments⟩

/-- Setting or lifting the block changes nothing that counts here. -/
theorem guards {x : Exchange} (h : m.Stands start B D store)
    (hold : start.get? m.oldIndex = some held) (hne : m.newIndex ≠ m.oldIndex) (hx : m.Guards x) :
    m.Stands start B D (store.after x.1) := by
  cases hx with
  | look => exact h
  | setBlock blocked =>
    show m.Stands start B D (store.after (m.setBlock blocked))
    rcases store.after_cases (m.setBlock blocked) with heq | hok
    · rwa [heq]
    obtain ⟨held', hget, -⟩ := h.oldIndex hold
    have hafter := Store.putSettings_eq_ok hget hok
    refine ⟨h.spares.trans ?_, ?_, ?_⟩
    · rw [hafter]
      exact .insert_old hget rfl rfl fun _ _ => rfl
    · exact (Store.sameAliases_putSettings hok).bound_eq.trans h.bound_eq
    · obtain ⟨new, hnew, hdocuments⟩ := h.filled
      exact ⟨new, by rw [hafter, NameMap.get?_insert_ne hne, hnew], hdocuments⟩

/-- A copy writes into the new index. -/
theorem copy {failures : Nat} {reply : ReindexReply} (h : m.Stands start B D store)
    (hold : start.get? m.oldIndex = some held) (hne : m.newIndex ≠ m.oldIndex)
    (hok : store.reindex (copyBody m.oldIndex m.newIndex m.mapping.names) failures =
      .ok (store', reply)) :
    m.Stands start B
      ((Store.restricted m.mapping.names held.documents).entries.foldl
        (fun m e => m.insert e.1 e.2) D) store' ∧
    reply.total = UInt64.ofNat held.documents.size := by
  obtain ⟨held', hget, hdocuments⟩ := h.oldIndex hold
  obtain ⟨new, hnew, rfl⟩ := h.filled
  obtain ⟨hafter, htotal, -⟩ := Store.reindex_copyBody hget hnew hok
  rw [hdocuments] at hafter htotal
  refine ⟨⟨h.spares.trans ?_, ?_, ?_⟩, htotal⟩
  · rw [hafter]
    exact .insert_new hne
  · exact (Store.sameAliases_reindex hok).bound_eq.trans h.bound_eq
  · exact ⟨_, by rw [hafter, NameMap.get?_insert_self], rfl⟩

theorem bind (h : m.Stands start B D store) (hne : m.newIndex ≠ m.oldIndex)
    (hok : store.putAlias m.newIndex m.aliasName = .ok store') :
    m.Stands start (insert m.newIndex B) D store' := by
  obtain ⟨new, hnew, hdocuments⟩ := h.filled
  obtain ⟨new', -, hnew', hput⟩ := Store.putAlias_eq_ok.1 hok
  obtain rfl := Option.some.inj (hnew.symm.trans hnew')
  have hbound : store'.bound m.aliasName = insert m.newIndex B := by
    ext i
    rw [← h.bound_eq]
    refine (Store.carries_putAlias hok).trans ?_
    simp [Store.bound, eq_comm]
  rcases hput with ⟨-, rfl⟩ | ⟨-, rfl⟩
  · exact ⟨h.spares, hbound, new, hnew, hdocuments⟩
  · exact ⟨h.spares.trans (.insert_new hne), hbound, _, NameMap.get?_insert_self, hdocuments⟩

theorem unbind (h : m.Stands start B D store) (hne : m.newIndex ≠ m.oldIndex)
    (hok : store.deleteAlias m.oldIndex m.aliasName = .ok store') :
    m.Stands start (B \ {m.oldIndex}) D store' := by
  obtain ⟨old, hget, -, hafter⟩ := Store.deleteAlias_eq_ok.1 hok
  refine ⟨h.spares.trans ?_, ?_, ?_⟩
  · rw [hafter]
    refine .insert_old hget rfl rfl fun b hb => ?_
    rw [NameMap.get?_erase, if_neg (Ne.symm hb)]
  · ext i
    rw [← h.bound_eq]
    refine (Store.carries_deleteAlias hok).trans ?_
    simp [Store.bound, eq_comm, and_comm]
  · obtain ⟨new, hnew, hdocuments⟩ := h.filled
    exact ⟨new, by rw [hafter, NameMap.get?_insert_ne hne, hnew], hdocuments⟩

end Stands

/-! ## Stretches of a move -/

/-- The stage of a move that a turn leaves: all is spared that has to be, and the alias is bound to
some indexes. -/
def Stage (m : Move) (start : Store) (B : Set String) (u : Turn Memory) : Prop :=
  m.Spares start u.after.store ∧ u.after.store.bound m.aliasName = B

/-- A move passes through its stages in their order. -/
def Advances (m : Move) (start : Store) (t : List (Turn Memory)) : Prop :=
  ∃ t₁ t₂ t₃, t = t₁ ++ t₂ ++ t₃ ∧ (∀ u ∈ t₁, m.Stage start (start.bound m.aliasName) u) ∧
    (∀ u ∈ t₂, m.Stage start (insert m.newIndex (start.bound m.aliasName)) u) ∧
    ∀ u ∈ t₃, m.Stage start (insert m.newIndex (start.bound m.aliasName \ {m.oldIndex})) u

theorem Stands.stage {u : Turn Memory} (h : m.Stands start B D u.after.store) : m.Stage start B u :=
  ⟨h.spares, h.bound_eq⟩

theorem Advances.of_stage {t : List (Turn Memory)}
    (h : ∀ u ∈ t, m.Stage start (start.bound m.aliasName) u) : m.Advances start t :=
  ⟨t, [], [], by simp, h, by simp, by simp⟩

theorem Advances.append {t t' : List (Turn Memory)}
    (h : ∀ u ∈ t, m.Stage start (start.bound m.aliasName) u) (h' : m.Advances start t') :
    m.Advances start (t ++ t') := by
  obtain ⟨t₁, t₂, t₃, rfl, h₁, h₂, h₃⟩ := h'
  refine ⟨t ++ t₁, t₂, t₃, by simp, fun u hu => ?_, h₂, h₃⟩
  rcases List.mem_append.1 hu with hu | hu
  · exact h u hu
  · exact h₁ u hu

section

variable {held : StoredIndex} {s s' : Memory} {t : List (Turn Memory)}

theorem Stands.leads_guards {faults : Faults} (h : m.Stands start B D s.store)
    (hold : start.get? m.oldIndex = some held) (hne : m.newIndex ≠ m.oldIndex)
    (hl : Leads Memory.answer faults s t s') (ht : ∀ x ∈ t.map Turn.exchange, m.Guards x) :
    (∀ u ∈ t, m.Stage start B u) ∧ m.Stands start B D s'.store := by
  obtain ⟨hturns, hlast⟩ := hl.keeps_store (J := m.Stands start B D)
    (fun hx hs => hs.guards hold hne hx) ht h
  exact ⟨fun u hu => (hturns u hu).stage, hlast⟩

/-- As long as the new index is not bound, the alias is bound as before. -/
theorem Stands.prepares {x : Exchange} (h : m.Stands start B D s.store)
    (hold : start.get? m.oldIndex = some held) (hne : m.newIndex ≠ m.oldIndex) (hx : m.Prepares x)
    (ha : Answers Memory.answer .unperformed x.1 s x.2 s') :
    ∃ D, m.Stands start B D s'.store := by
  cases hx with
  | guards hx =>
    rcases ha.store with heq | heq <;> rw [heq]
    · exact ⟨D, h⟩
    · exact ⟨D, h.guards hold hne hx⟩
  | copy o =>
    rcases o with e | reply
    · rw [ha.store_of_error (by decide)]
      exact ⟨D, h⟩
    · obtain ⟨failures, hok⟩ := ha.reindexed
      exact ⟨_, (h.copy hold hne hok).1⟩
  | bind e =>
    rw [ha.store_of_error (by decide)]
    exact ⟨D, h⟩

theorem Stands.leads_prepares (h : m.Stands start B D s.store)
    (hold : start.get? m.oldIndex = some held) (hne : m.newIndex ≠ m.oldIndex)
    (hl : Leads Memory.answer .unperformed s t s')
    (ht : ∀ x ∈ t.map Turn.exchange, m.Prepares x) :
    (∀ u ∈ t, m.Stage start B u) ∧ s'.store.bound m.aliasName = B := by
  obtain ⟨hturns, D', hlast⟩ := hl.keeps (J := fun s => ∃ D, m.Stands start B D s.store)
    (P := m.Prepares)
    (fun hx hs ha => by
      obtain ⟨D, hs⟩ := hs
      exact hs.prepares hold hne hx ha) ht ⟨D, h⟩
  refine ⟨fun u hu => ?_, hlast.bound_eq⟩
  obtain ⟨D', hu⟩ := hturns u hu
  exact hu.stage

/-- A move that binds the new index has filled it before: the stretch up to there. -/
theorem Stands.leads_bind {d₁ d₂ : List Exchange} {reply : ReindexReply}
    (h : m.Stands start B {} s.store) (hold : start.get? m.oldIndex = some held)
    (hne : m.newIndex ≠ m.oldIndex) (hl : Leads Memory.answer .unperformed s t s')
    (ht : t.map Turn.exchange = d₁ ++ ⟨m.copy, .ok reply⟩ :: ⟨m.bind, .ok ()⟩ :: d₂)
    (h₁ : ∀ x ∈ d₁, m.Guards x) :
    ∃ t₁ u t₂, t = t₁ ++ u :: t₂ ∧ (∀ v ∈ t₁, m.Stage start B v) ∧
      m.Stands start (insert m.newIndex B) (Store.restricted m.mapping.names held.documents)
        u.after.store ∧
      reply.total = UInt64.ofNat held.documents.size ∧ t₂.map Turn.exchange = d₂ ∧
      Leads Memory.answer .unperformed u.after t₂ s' := by
  obtain ⟨s₁, t₁, t₂, rfl, rfl, ht₂, hl₁, hl₂⟩ := hl.split ht
  obtain ⟨hstage₁, hs₁⟩ := h.leads_guards hold hne hl₁ h₁
  obtain ⟨s₂, t₃, rfl, hcopy, ht₃, hl₃⟩ := hl₂.first ht₂
  obtain ⟨failures, hok⟩ := hcopy.reindexed
  obtain ⟨hs₂, htotal⟩ := hs₁.copy hold hne hok
  rw [NameMap.written_empty] at hs₂
  obtain ⟨s₃, t₄, rfl, hbind, ht₄, hl₄⟩ := hl₃.first ht₃
  have hs₃ := hs₂.bind hne hbind.perform_of_ok
  refine ⟨t₁ ++ [_], _, t₄, by rw [List.append_assoc]; rfl, fun v hv => ?_, hs₃, htotal, ht₄, hl₄⟩
  rcases List.mem_append.1 hv with hv | hv
  · exact hstage₁ v hv
  · rw [List.mem_singleton.1 hv]
    exact hs₂.stage

/-- However a move goes on, it passes through its stages; where it succeeds, it has arrived at the
last one and the new index is filled. -/
theorem Stands.goes {d : List Exchange} {r : Except ServiceError ReindexReply}
    (h : m.Stands start (start.bound m.aliasName) {} s.store)
    (hold : start.get? m.oldIndex = some held) (hne : m.newIndex ≠ m.oldIndex)
    (hl : Leads Memory.answer .unperformed s t s') (ht : t.map Turn.exchange = d)
    (hgoes : m.Goes d r) :
    m.Advances start t ∧ ∀ reply, r = .ok reply →
      m.Stands start (insert m.newIndex (start.bound m.aliasName \ {m.oldIndex}))
        (Store.restricted m.mapping.names held.documents) s'.store ∧
      reply.total = UInt64.ofNat held.documents.size := by
  cases hgoes with
  | halted hd =>
    exact ⟨.of_stage (h.leads_prepares hold hne hl (ht ▸ hd)).1, by simp⟩
  | doubled h₁ h₂ =>
    obtain ⟨t₁, u, t₂, rfl, hstage₁, hu, -, ht₂, hl₂⟩ := h.leads_bind hold hne hl ht h₁
    obtain ⟨s₁, t₃, rfl, hunbind, ht₃, hl₃⟩ := hl₂.first ht₂
    have hs₁ := hu
    rw [← hunbind.store_of_error (by decide)] at hs₁
    obtain ⟨hstage₃, -⟩ := hs₁.leads_guards hold hne hl₃ (ht₃ ▸ h₂)
    refine ⟨⟨t₁, u :: _ :: t₃, [], by simp; rfl, hstage₁, fun v hv => ?_, by simp⟩, by simp⟩
    obtain rfl | rfl | hv : v = u ∨ v = _ ∨ v ∈ t₃ := by simpa using hv
    · exact hu.stage
    · exact hs₁.stage
    · exact hstage₃ v hv
  | @moved _ _ reply r h₁ h₂ _ hr =>
    obtain ⟨t₁, u, t₂, rfl, hstage₁, hu, htotal, ht₂, hl₂⟩ := h.leads_bind hold hne hl ht h₁
    obtain ⟨s₁, t₃, rfl, hunbind, ht₃, hl₃⟩ := hl₂.first ht₂
    have hs₁ := hu.unbind hne hunbind.perform_of_ok
    rw [← Set.insert_sdiff_singleton_comm hne] at hs₁
    obtain ⟨hstage₃, hlast⟩ := hs₁.leads_guards hold hne hl₃ (ht₃ ▸ h₂)
    refine ⟨⟨t₁, [u], _ :: t₃, by simp; rfl, hstage₁, fun v hv => ?_, fun v hv => ?_⟩, ?_⟩
    · rw [List.mem_singleton.1 hv]
      exact hu.stage
    · obtain rfl | hv : v = _ ∨ v ∈ t₃ := by simpa using hv
      · exact hs₁.stage
      · exact hstage₃ v hv
    · intro reply' hreply
      obtain rfl : reply = reply' := by
        rcases hr with rfl | ⟨e, rfl⟩
        · exact Except.ok.inj hreply
        · cases hreply
      exact ⟨hlast, htotal⟩

end

end Move

/-! ## Whole runs -/

namespace Operation.Runs

variable {key : CollectionKey} {w w' : World} {t : List (Turn Memory)}
  {r : Except ServiceError ReindexReport}

/-- A reindex that comes to no move leaves the store as it was. -/
theorem store_of_scouts {m m' : Memory} (hl : Leads Memory.answer .unperformed m t m')
    (ht : ∀ x ∈ t.map Turn.exchange, Move.Scouts x) :
    (∀ u ∈ t, u.after.store = m.store) ∧ m'.store = m.store :=
  hl.idle (by decide) fun x hx => (ht x hx).idle

/-- A new index that is not filled yet is the first step of a move. -/
theorem stands_opened {m : Move} {store : Store} (hnew : store.contains m.newIndex = false)
    (hne : m.newIndex ≠ m.oldIndex) :
    m.Stands store (store.bound m.aliasName) {}
      (store.insert m.newIndex (Store.indexOfBody (indexBody m.key m.mapping))) where
  spares := .insert_new hne
  bound_eq := by
    ext i
    refine (Store.carries_insert_new hnew).trans ?_
    rw [Store.contains_aliases_indexOfBody]
    simp [Store.bound]
  filled := ⟨_, NameMap.get?_insert_self, rfl⟩

/-- What a reindex that succeeds has done. -/
theorem moved {report : ReindexReport}
    (h : (Operation.reindex key).Runs .unperformed w t (.ok report) w') :
    ∃ m : Move, m.For w.service key ∧ report.oldIndex = m.oldIndex ∧ report.newIndex = m.newIndex ∧
      newestIndex? (w.memory.store.carriers m.aliasName) = some m.oldIndex ∧
      w.memory.store.contains m.newIndex = false ∧
      ∃ held, w.memory.store.get? m.oldIndex = some held ∧
        m.Stands w.memory.store (insert m.newIndex (w.memory.store.bound m.aliasName \ {m.oldIndex}))
          (Store.restricted m.mapping.names held.documents) w'.memory.store := by
  rcases h.opens with ⟨⟨e, heq⟩, -⟩ | ⟨m, u₁, u₂, u₃, t', r', service₁, hm, hnewest, hnew, hne,
    -, -, -, hu₃, -, -, -, hmove, hl, heq⟩
  · cases heq
  have hopened := stands_opened hnew hne
  rw [← hu₃] at hopened
  obtain ⟨held, hheld, -⟩ := Store.mem_carriers.1 (mem_of_newestIndex? hnewest)
  rcases r' with e | reply
  · cases heq
  obtain rfl := Except.ok.inj heq
  exact ⟨m, hm, rfl, rfl, hnewest, hnew, held, hheld,
    ((hopened.goes hheld hne hl rfl hmove.goes).2 reply rfl).1⟩

/-- A reindex binds its alias to one new index and unbinds it from the newest of the old ones, in
this order, and touches nothing else. Where it succeeds both have happened, and the new index has the
documents of the old one with the fields of the current mapping. Where the copy fails, reports
failures or cannot be followed by the binding, neither has. -/
theorem reindex_binding (h : (Operation.reindex key).Runs .unperformed w t r w')
    (hbound : w.memory.store.aliasExists (w.service.aliasName key) = true) :
    ∃ m : Move, m.For w.service key ∧
      newestIndex? (w.memory.store.carriers m.aliasName) = some m.oldIndex ∧
      (w.memory.store.contains m.newIndex = false ∨ ∀ u ∈ t, u.after.store = w.memory.store) ∧
      m.Advances w.memory.store t ∧
      (∀ report, r = .ok report →
        report.aliasName = m.aliasName ∧ report.oldIndex = m.oldIndex ∧
        report.newIndex = m.newIndex ∧
        w'.memory.store.bound m.aliasName =
          insert m.newIndex (w.memory.store.bound m.aliasName \ {m.oldIndex}) ∧
        ∃ old new, w.memory.store.get? m.oldIndex = some old ∧
          w'.memory.store.get? m.newIndex = some new ∧
          (∀ id, new.documents.get? id =
            (old.documents.get? id).map (Store.restrictTo w.service.mapping.names)) ∧
          report.total = UInt64.ofNat old.documents.size) ∧
      ((∃ old new n, r = .error (.partialFailure old new n)) ∨
          (∃ e, ⟨m.copy, .error e⟩ ∈ t.map Turn.exchange ∨
            ⟨m.bind, .error e⟩ ∈ t.map Turn.exchange) →
        w'.memory.store.bound m.aliasName = w.memory.store.bound m.aliasName) := by
  rcases h.opens with ⟨⟨e, rfl⟩, hscouts⟩ | ⟨m, u₁, u₂, u₃, t', r', service₁, hm, hnewest, hnew, hne,
    rfl, hu₁, hu₂, hu₃, hx₁, ⟨pattern, found, hx₂⟩, hx₃, hmove, hl, rfl⟩
  · have hnonempty : w.memory.store.carriers (w.service.aliasName key) ≠ [] := by
      intro hnil
      rw [Store.aliasExists, hnil] at hbound
      cases hbound
    obtain ⟨old, hold⟩ := exists_newestIndex? hnonempty
    obtain ⟨hturns, hlast⟩ := store_of_scouts h.2 hscouts
    refine ⟨⟨key, w.service.aliasName key, old, w.service.indexNames.generationName key 0,
      w.service.mapping⟩, ⟨rfl, rfl, rfl, IndexNames.isGeneration_generationName 0⟩, hold,
      .inr hturns, .of_stage fun u hu => ?_, by simp, fun _ => by rw [hlast]⟩
    rw [Move.Stage, hturns u hu]
    exact ⟨.refl, rfl⟩
  have hopened := stands_opened hnew hne
  rw [← hu₃] at hopened
  obtain ⟨held, hheld, -⟩ := Store.mem_carriers.1 (mem_of_newestIndex? hnewest)
  obtain ⟨hadvances, hok⟩ := hopened.goes hheld hne hl rfl hmove.goes
  have hopening : ∀ u ∈ [u₁, u₂, u₃],
      m.Stage w.memory.store (w.memory.store.bound m.aliasName) u := by
    intro u hu
    obtain rfl | rfl | rfl : u = u₁ ∨ u = u₂ ∨ u = u₃ := by simpa using hu
    · rw [Move.Stage, hu₁]
      exact ⟨.refl, rfl⟩
    · rw [Move.Stage, hu₂]
      exact ⟨.refl, rfl⟩
    · exact hopened.stage
  refine ⟨m, hm, hnewest, .inl hnew, hadvances.append hopening, ?_, ?_⟩
  · intro report hreport
    rcases r' with e | reply
    · cases hreport
    obtain rfl := Except.ok.inj hreport
    obtain ⟨hstands, htotal⟩ := hok reply rfl
    obtain ⟨new, hget, hdocuments⟩ := hstands.filled
    refine ⟨rfl, rfl, rfl, hstands.bound_eq, held, new, hheld, hget, fun id => ?_, htotal⟩
    rw [hdocuments, Store.restricted, NameMap.get?_mapValues, hm.mapping_eq]
  · intro hfailed
    refine (hopened.leads_prepares hheld hne hl (hmove.goes.prepares_of_failed ?_)).2
    obtain ⟨old, new, n, heq⟩ | ⟨e, hmem⟩ := hfailed
    · rcases r' with e | reply
      · cases heq
        exact .inl ⟨old, new, n, rfl⟩
      · cases heq
    · rw [List.map_cons, List.map_cons, List.map_cons, hx₁, hx₂, hx₃] at hmem
      refine .inr ⟨e, hmem.imp (fun h => ?_) fun h => ?_⟩
      · simpa using h
      · simpa using h

/-- A move while the alias is bound to two indexes already, since an earlier move could not unbind its
old index. -/
theorem reindex_binding_after_failed_unbinding :
    let failed := Cue.unperformed (.backend "out of memory")
    let document : Document := ⟨7, .ofList [("craft_attribute_title", "Home"), ("note", "draft")]⟩
    let w := ((World.empty .plain).rehearse
      [ (.upsert document .english, []),
        (.reindex .english, List.replicate 7 .heard ++ [failed]) ]).2
    let moved := (Operation.reindex .english).rehearse [] w
    let report : ReindexReport :=
      { aliasName := "craftcms_en", oldIndex := "craftcms_en_1700000001",
        newIndex := "craftcms_en_1700000002", total := 1, took := 0 }
    w.memory.store.carriers "craftcms_en" = ["craftcms_en_1700000000", "craftcms_en_1700000001"] ∧
      moved.2.1 = .ok report ∧
      ∃ m : Move, m.Advances w.memory.store moved.1 ∧
        moved.2.2.memory.store.bound m.aliasName =
          insert m.newIndex (w.memory.store.bound m.aliasName \ {m.oldIndex}) := by
  intro failed document w moved report
  have hcarriers : w.memory.store.carriers "craftcms_en" =
      ["craftcms_en_1700000000", "craftcms_en_1700000001"] := by decide +kernel
  have hbound : w.memory.store.aliasExists (w.service.aliasName .english) = true := by
    decide +kernel
  have hok : moved.2.1 = .ok report := by decide +kernel
  obtain ⟨m, -, -, -, hadvances, hreport, -⟩ :=
    reindex_binding (Operation.runs_rehearse (by simp) hok) hbound
  exact ⟨hcarriers, hok, m, hadvances, (hreport report rfl).2.2.2.1⟩

end Operation.Runs

end SiteSearch
