import SiteSearch.Engine.Memory.Engine
import SiteSearch.Proofs.Engine.Run
import SiteSearch.Proofs.Memory.Carriers

/-!
# What a call does to the store

The engine in memory counts calls and searches, but all that it is asked for is done to its store.
`Store.perform` is what a call does to a store, or why it is refused, and `Store.after` is the store
that it leaves, which is the store as it was when the call is refused.

Where calls may go wrong, a call that is answered without an error has been performed
(`Answers.perform_of_ok`). One that fails leaves the store as it was unless answers can be lost
(`Answers.store_of_error`), and in any case nothing but the call itself has happened
(`Answers.store`).
-/

namespace SiteSearch

/-- What a call does to a store. Calls that only look do nothing. -/
def Store.perform (store : Store) : EngineCall → Except EngineError Store
  | .createIndex name body => store.createIndex name body
  | .deleteIndex name => store.deleteIndex name
  | .putAlias index aliasName => store.putAlias index aliasName
  | .deleteAlias index aliasName => store.deleteAlias index aliasName
  | .putSettings index settings => store.putSettings index settings
  | .putMapping index properties => store.putMapping index properties
  | .cloneIndex source target body => store.cloneIndex source target body
  | .reindex body => (store.reindex body 0).map (·.1)
  | .indexDocument index id document => store.indexDocument index id document
  | .deleteDocument index id => store.deleteDocument index id
  | .bulk operations => .ok (store.bulk operations).1
  | _ => .ok store

/-- The call changes the store unless it is refused. -/
def EngineCall.Changes : EngineCall → Prop
  | createIndex _ _ | deleteIndex _ | putAlias _ _ | deleteAlias _ _ | putSettings _ _
  | putMapping _ _ | cloneIndex _ _ _ | reindex _ | indexDocument _ _ _ | deleteDocument _ _ => True
  | _ => False

/-- The store of a result, or the store as it was when there is none. -/
def Store.orKept (store : Store) : Except EngineError Store → Store
  | .ok store' => store'
  | .error _ => store

theorem Store.orKept_of {R : Store → Prop} {store : Store} {r : Except EngineError Store}
    (hkept : R store) (h : ∀ store', r = .ok store' → R store') : R (store.orKept r) := by
  cases r with
  | ok store' => exact h store' rfl
  | error e => exact hkept

/-- The store that a call leaves. -/
def Store.after (store : Store) (c : EngineCall) : Store :=
  store.orKept (store.perform c)

/-- A call leaves what it performs, or nothing has happened. -/
theorem Store.after_cases (store : Store) (c : EngineCall) :
    store.after c = store ∨ store.perform c = .ok (store.after c) := by
  unfold after
  cases store.perform c with
  | ok store' => exact .inr rfl
  | error e => exact .inl rfl

namespace Memory

theorem update_store (memory : Memory) (result : Except EngineError Store) :
    (memory.update result).2.store = memory.store.orKept result := by
  cases result <;> rfl

theorem isOk_update (memory : Memory) (result : Except EngineError Store) :
    (memory.update result).1.isOk = result.isOk := by
  cases result <;> rfl

/-- What a copy leaves does not depend on the failures it reports. -/
theorem reindex_map_store (store : Store) (body : Json) (failures : Nat) :
    (store.reindex body failures).map (·.1) = (store.reindex body 0).map (·.1) := by
  simp only [Store.reindex, bind, Except.bind]
  repeat' split
  all_goals rfl

theorem reindex_store (memory : Memory) (body : Json) :
    (memory.reindex body).2.store = memory.store.after (.reindex body) ∧
      (memory.reindex body).1.isOk = (memory.store.perform (.reindex body)).isOk := by
  have h := reindex_map_store memory.store body memory.pendingFailures
  rw [Store.after, Store.perform, ← h, Memory.reindex]
  cases memory.store.reindex body memory.pendingFailures <;> exact ⟨rfl, rfl⟩

/-- A call leaves the store that `Store.after` says. -/
theorem answer_store (c : EngineCall) (memory : Memory) :
    (answer c memory).2.store = memory.store.after c := by
  cases c with
  | createIndex | deleteIndex | putAlias | deleteAlias | putSettings | putMapping | cloneIndex
  | indexDocument | deleteDocument => exact update_store _ _
  | reindex body => exact (reindex_store _ body).1
  | _ => rfl

/-- The call is refused exactly where the store refuses it. -/
theorem isOk_answer {c : EngineCall} (hc : c.Changes) (memory : Memory) :
    (answer c memory).1.isOk = (memory.store.perform c).isOk := by
  cases c with
  | createIndex | deleteIndex | putAlias | deleteAlias | putSettings | putMapping | cloneIndex
  | indexDocument | deleteDocument => exact isOk_update _ _
  | reindex body => exact (reindex_store (memory.count (.reindex body)) body).2
  | _ => exact hc.elim

/-- A call is answered without an error only if it is performed. -/
theorem perform_isOk {c : EngineCall} {memory : Memory} (h : (answer c memory).1.isOk) :
    (memory.store.perform c).isOk := by
  by_cases hc : c.Changes
  · exact (isOk_answer hc memory).symm.trans h
  · cases c with
    | ping | getIndices | aliasExists | getAlias | getSettings | getMapping | getSource | bulk | search
    | indexStats | catAliases | catIndices | analyze => rfl
    | _ => exact absurd .intro hc

/-- A refused call leaves the store as it was. -/
theorem after_eq_of_refused {c : EngineCall} {memory : Memory}
    (h : (answer c memory).1.isOk = false) : memory.store.after c = memory.store := by
  by_cases hc : c.Changes
  · rw [isOk_answer hc] at h
    rw [Store.after]
    cases hp : memory.store.perform c with
    | ok store => rw [hp] at h; cases h
    | error e => rfl
  · cases c with
    | bulk operations => cases h
    | ping | getIndices | aliasExists | getAlias | getSettings | getMapping | getSource | search
    | indexStats | catAliases | catIndices | analyze => rfl
    | _ => exact absurd .intro hc

end Memory

namespace Answers

variable {faults : Faults} {c : EngineCall} {m m' : Memory} {o : c.Outcome}

theorem store (h : Answers Memory.answer faults c m o m') :
    m'.store = m.store ∨ m'.store = m.store.after c := by
  rw [← Memory.answer_store]
  exact h.after.imp (congrArg _) (congrArg _)

theorem perform_of_ok {a : c.Answer} (h : Answers Memory.answer faults c m (.ok a) m') :
    m.store.perform c = .ok m'.store := by
  obtain ⟨hok, rfl⟩ := h.of_ok
  have hp : (m.store.perform c).isOk := Memory.perform_isOk (by rw [hok]; rfl)
  rw [Memory.answer_store, Store.after]
  cases hstore : m.store.perform c with
  | ok store' => rfl
  | error e => rw [hstore] at hp; cases hp

theorem store_of_error {e : EngineError} (hfaults : faults ≠ .any)
    (h : Answers Memory.answer faults c m (.error e) m') : m'.store = m.store := by
  generalize ho : (Except.error e : c.Outcome) = o at h
  cases h with
  | heard =>
    rw [Memory.answer_store]
    exact Memory.after_eq_of_refused (by rw [← ho]; rfl)
  | unperformed => rfl
  | unheard _ h => exact absurd h hfaults

/-- A copy that is answered has been made, and the answer tells of it. -/
theorem copied {body : Json} {reply : ReindexReply}
    (h : Answers Memory.answer faults (.reindex body) m (.ok reply) m') :
    m.store.reindex body m.pendingFailures = .ok (m'.store, reply) := by
  obtain ⟨hok, rfl⟩ := h.of_ok
  simp only [Memory.answer, Memory.serve, Memory.reindex, Memory.count] at hok ⊢
  split at hok
  · rename_i hr
    obtain rfl := Except.ok.inj hok
    rw [hr]
  · cases hok

theorem reindexed {body : Json} {reply : ReindexReply}
    (h : Answers Memory.answer faults (.reindex body) m (.ok reply) m') :
    ∃ failures, m.store.reindex body failures = .ok (m'.store, reply) :=
  ⟨m.pendingFailures, h.copied⟩

/-- Where no call may go wrong, what the store does not refuse is done. -/
theorem accepted {store' : Store} (h : Answers Memory.answer .none c m o m') (hc : c.Changes)
    (hok : m.store.perform c = .ok store') : (∃ a, o = .ok a) ∧ m'.store = store' := by
  have hisOk := Memory.isOk_answer hc m
  rw [hok] at hisOk
  cases h with
  | heard =>
    refine ⟨?_, ?_⟩
    · cases ho : (Memory.answer c m).1 with
      | ok a => exact ⟨a, rfl⟩
      | error e => rw [ho] at hisOk; cases hisOk
    · rw [Memory.answer_store, Store.after, hok]
      rfl
  | unperformed _ h => exact absurd rfl h
  | unheard _ h => cases h

end Answers

/-- What each call of a kind does to a store without harm holds in all states of a chain of such
calls. -/
theorem Leads.keeps_store {faults : Faults} {J : Store → Prop} {P : Exchange → Prop} {s s' : Memory}
    {t : List (Turn Memory)} (h : Leads Memory.answer faults s t s')
    (hstep : ∀ {x store}, P x → J store → J (store.after x.1))
    (ht : ∀ x ∈ t.map Turn.exchange, P x) (hs : J s.store) :
    (∀ u ∈ t, J u.after.store) ∧ J s'.store := by
  refine h.keeps (J := fun s => J s.store) (fun hx hs ha => ?_) ht hs
  rcases ha.store with heq | heq
  · rwa [heq]
  · rw [heq]
    exact hstep hx hs

/-! ## Failures that are asked for -/

/-- No call asks for failures of a copy. -/
theorem Memory.calm_answer {c : EngineCall} {m : Memory} (h : m.pendingFailures = 0) :
    (answer c m).2.pendingFailures = 0 := by
  have hupdate : ∀ {m : Memory} {result : Except EngineError Store}, m.pendingFailures = 0 →
      (m.update result).2.pendingFailures = 0 := by
    intro m result hm
    cases result with
    | ok => exact hm
    | error => exact hm
  cases c with
  | createIndex | deleteIndex | putAlias | deleteAlias | putSettings | putMapping | cloneIndex
  | indexDocument | deleteDocument => exact hupdate h
  | reindex body =>
    simp only [answer, serve, Memory.reindex]
    split
    · rfl
    · exact h
  | _ => exact h

/-- Where no failures of a copy have been asked for, none ever are. -/
theorem Leads.calm {faults : Faults} {s s' : Memory} {t : List (Turn Memory)}
    (h : Leads Memory.answer faults s t s') (hs : s.pendingFailures = 0) :
    (∀ u ∈ t, u.before.pendingFailures = 0) ∧ s'.pendingFailures = 0 := by
  obtain ⟨hturns, hlast⟩ := h.keeps (J := fun s => s.pendingFailures = 0) (P := fun _ => True)
    (fun _ hs ha => by
      rcases ha.after with rfl | rfl
      · exact hs
      · exact Memory.calm_answer hs) (fun _ _ => .intro) hs
  refine ⟨fun u hu => ?_, hlast⟩
  rcases h.before_eq u hu with heq | ⟨v, hv, heq⟩
  · rw [heq]
    exact hs
  · rw [heq]
    exact hturns v hv

/-! ## Calls by what they may do -/

/-- The call only looks. -/
def EngineCall.Looks (c : EngineCall) : Prop := ∀ store : Store, store.after c = store

/-- The call changes no alias. -/
def EngineCall.KeepsAliases : EngineCall → Prop
  | createIndex _ _ | deleteIndex _ | putAlias _ _ | deleteAlias _ _ | cloneIndex _ _ _ => False
  | _ => True

theorem Store.sameAliases_after {store : Store} {c : EngineCall} (h : c.KeepsAliases) :
    store.SameAliases (store.after c) := by
  cases c with
  | createIndex | deleteIndex | putAlias | deleteAlias | cloneIndex => exact h.elim
  | putSettings => exact orKept_of .refl fun _ => sameAliases_putSettings
  | putMapping => exact orKept_of .refl fun _ => sameAliases_putMapping
  | reindex body =>
    refine orKept_of .refl fun store' hok => ?_
    obtain ⟨p, hp, rfl⟩ := map_eq_ok.1 hok
    exact sameAliases_reindex hp
  | indexDocument => exact orKept_of .refl fun _ => sameAliases_indexDocument
  | deleteDocument => exact orKept_of .refl fun _ => sameAliases_deleteDocument
  | bulk => exact sameAliases_bulk
  | _ => exact .refl

end SiteSearch
