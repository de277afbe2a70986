import SiteSearch.Proofs.Memory.Block
import SiteSearch.Proofs.Migration.Opening
import SiteSearch.Proofs.Service.Cloning

/-!
# Blocks are given back

A reindex copies its source while that is blocked for writing, and so does a clone. Both do it under
the same bracket, which sets the block where there is none and lifts the one it has set
(`GivesBack.of_whileBlocked`). What they do under the bracket copies the source only and changes no
block of an index that was there (`TakesFrom`).

So, however calls fail, what was blocked stays blocked and what was not is open again behind the
operation, unless the very call that lifts the block has failed (`Transfer.gives_blocks_back`).
-/

namespace SiteSearch

namespace EngineCall

/-- The call copies or clones an index. -/
def Copies : EngineCall → Prop
  | reindex _ | cloneIndex _ _ _ => True
  | _ => False

/-- The index that a call copies or clones. -/
def copied? : EngineCall → Option String
  | reindex body => (Store.CopyRequest.ofBody body).toOption.map (·.source)
  | cloneIndex source _ _ => some source
  | _ => none

theorem copied?_copyBody {old new : String} {fields : List String} :
    (reindex (copyBody old new fields)).copied? = some old := by
  rw [copied?, Store.ofBody_copyBody]
  rfl

end EngineCall

/-- What is copied is the source, and every index that was there keeps its block throughout. -/
structure TakesFrom (source : String) (store : Store) (t : List (Turn Memory)) (store' : Store) :
    Prop where
  copied : ∀ u ∈ t, u.call.Copies → u.call.copied? = some source
  keeps : ∀ u ∈ t, store.KeepsBlocks u.after.store
  last : store.KeepsBlocks store'

/-- What is copied is the source while it is blocked, and every index that was there has its block
back in the end, unless the lifting of the block of the source has failed. -/
structure GivesBack (source : String) (store : Store) (t : List (Turn Memory)) (store' : Store) :
    Prop where
  copied : ∀ u ∈ t, u.call.Copies →
    u.call.copied? = some source ∧ u.before.store.blocked? source = some true
  others : ∀ i, i ≠ source → store.contains i = true → store'.blocked? i = store.blocked? i
  lifted : (∀ e, ⟨blockCall source false, .error e⟩ ∉ t.map Turn.exchange) → store.KeepsBlocks store'
  stays : ∀ i, store.blocked? i = some true →
    (∀ u ∈ t, u.after.store.blocked? i = some true) ∧ store'.blocked? i = some true

variable {source : String} {store store₁ store' : Store} {s s' : Memory} {t t' : List (Turn Memory)}

namespace TakesFrom

/-- Exchanges that change no block of an index that is there. -/
theorem of_leads {faults : Faults} (hl : Leads Memory.answer faults s t s')
    (ht : ∀ x ∈ t.map Turn.exchange,
      x.1.KeepsBlocks ∧ (x.1.Copies → x.1.copied? = some source)) :
    TakesFrom source s.store t s'.store := by
  obtain ⟨hturns, hlast⟩ := hl.keeps_store (J := s.store.KeepsBlocks) (P := fun x => x.1.KeepsBlocks)
    (fun hx hs => hs.trans (Store.keepsBlocks_after hx)) (fun x hx => (ht x hx).1) .refl
  exact ⟨fun u hu => (ht u.exchange (List.mem_map_of_mem hu)).2, hturns, hlast⟩

/-- The block of the source is there before every turn. -/
theorem blocked_before {faults : Faults} (h : TakesFrom source s.store t s'.store)
    (hl : Leads Memory.answer faults s t s') (hs : s.store.blocked? source = some true) :
    ∀ u ∈ t, u.before.store.blocked? source = some true := by
  intro u hu
  rcases hl.before_eq u hu with heq | ⟨v, hv, heq⟩
  · rw [heq]
    exact hs
  · rw [heq]
    exact (h.keeps v hv).blocked? hs

/-- Where the source is blocked already, all is given back. -/
theorem givesBack {faults : Faults} (h : TakesFrom source s.store t s'.store)
    (hl : Leads Memory.answer faults s t s') (hs : s.store.blocked? source = some true) :
    GivesBack source s.store t s'.store where
  copied u hu hcopies := ⟨h.copied u hu hcopies, h.blocked_before hl hs u hu⟩
  others i _ hi := h.last i hi
  lifted _ := h.last
  stays _ hi := ⟨fun u hu => (h.keeps u hu).blocked? hi, h.last.blocked? hi⟩

end TakesFrom

namespace GivesBack

/-- Nothing has happened. -/
theorem of_idle (hl : Leads Memory.answer .unperformed s t s')
    (ht : ∀ x ∈ t.map Turn.exchange, x.Idle ∧ ¬ x.1.Copies) :
    GivesBack source s.store t s'.store := by
  obtain ⟨hturns, hlast⟩ := hl.idle (by decide) fun x hx => (ht x hx).1
  rw [hlast]
  refine ⟨fun u hu hcopies => ?_, fun _ _ _ => rfl, fun _ => .refl, fun i hi => ⟨fun u hu => ?_, hi⟩⟩
  · exact absurd hcopies (ht u.exchange (List.mem_map_of_mem hu)).2
  · rw [hturns u hu]
    exact hi

/-- Turns that copy nothing and change no block may come first. -/
theorem prepend (h : GivesBack source store₁ t' store') (hkeeps : store.KeepsBlocks store₁)
    (ht : ∀ u ∈ t, ¬ u.call.Copies ∧ store.KeepsBlocks u.after.store) :
    GivesBack source store (t ++ t') store' where
  copied u hu hcopies := by
    rcases List.mem_append.1 hu with hu | hu
    · exact absurd hcopies (ht u hu).1
    · exact h.copied u hu hcopies
  others i hne hi := (h.others i hne (hkeeps.contains hi)).trans (hkeeps i hi)
  lifted hlift := by
    refine hkeeps.trans (h.lifted fun e he => hlift e ?_)
    rw [List.map_append]
    exact List.mem_append_right _ he
  stays i hi := by
    obtain ⟨hturns, hlast⟩ := h.stays i (hkeeps.blocked? hi)
    refine ⟨fun u hu => ?_, hlast⟩
    rcases List.mem_append.1 hu with hu | hu
    · exact (ht u hu).2.blocked? hi
    · exact hturns u hu

/-- Looks and failed calls may come first. -/
theorem prepend_idle (h : GivesBack source s'.store t' store')
    (hl : Leads Memory.answer .unperformed s t s')
    (ht : ∀ x ∈ t.map Turn.exchange, x.Idle ∧ ¬ x.1.Copies) :
    GivesBack source s.store (t ++ t') store' := by
  obtain ⟨hturns, hlast⟩ := hl.idle (by decide) fun x hx => (ht x hx).1
  rw [hlast] at h
  refine h.prepend .refl fun u hu => ⟨(ht u.exchange (List.mem_map_of_mem hu)).2, ?_⟩
  rw [hturns u hu]
  exact .refl

/-- The block is set before and lifted behind; what comes between takes from the source. -/
theorem of_bracket {s₁ s₂ : Memory} {o : (blockCall source false).Outcome}
    (hsource : s.store.blocked? source = some false)
    (hset : Answers Memory.answer .unperformed (blockCall source true) s (.ok ()) s₁)
    (hl : Leads Memory.answer .unperformed s₁ t s₂) (ht : TakesFrom source s₁.store t s₂.store)
    (hlift : Answers Memory.answer .unperformed (blockCall source false) s₂ o s') :
    GivesBack source s.store
        (⟨blockCall source true, .ok (), s, s₁⟩ :: (t ++ [⟨blockCall source false, o, s₂, s'⟩]))
        s'.store ∧
      (o = .ok () → s.store.KeepsBlocks s'.store) ∧
      ∀ i, i ≠ source → s'.store.blocked? i = s₂.store.blocked? i := by
  have hcontains : s.store.contains source = true := Store.contains_iff_blocked?.2 ⟨_, hsource⟩
  have hs₁ : ∀ i, s₁.store.blocked? i = if source = i then some true else s.store.blocked? i :=
    fun _ => Store.blocked?_putSettings hcontains hset.perform_of_ok
  have hblocked : s₁.store.blocked? source = some true := by rw [hs₁, if_pos rfl]
  have hs₂ : s₂.store.contains source = true :=
    Store.contains_iff_blocked?.2 ⟨_, ht.last.blocked? hblocked⟩
  have hother : ∀ i, i ≠ source → s'.store.blocked? i = s₂.store.blocked? i := by
    intro i hne
    rcases o with e | _
    · rw [hlift.store_of_error (by decide)]
    · rw [Store.blocked?_putSettings hs₂ hlift.perform_of_ok, if_neg hne.symm]
  have hkept : ∀ i, i ≠ source → s.store.contains i = true →
      ∀ store, s₁.store.KeepsBlocks store → store.blocked? i = s.store.blocked? i := by
    intro i hne hi store hstore
    have hsame : s₁.store.blocked? i = s.store.blocked? i := by rw [hs₁, if_neg hne.symm]
    obtain ⟨b, hb⟩ := Store.contains_iff_blocked?.1 hi
    rw [hb, hstore.blocked? (hsame.trans hb)]
  have hlifted : o = .ok () → s.store.KeepsBlocks s'.store := by
    rintro rfl i hi
    by_cases hne : i = source
    · rw [hne, Store.blocked?_putSettings hs₂ hlift.perform_of_ok, if_pos rfl, hsource]
    · exact (hother i hne).trans (hkept i hne hi _ ht.last)
  refine ⟨⟨fun u hu hcopies => ?_, fun i hne hi => ?_, fun hnot => ?_, fun i hi => ?_⟩, hlifted,
    hother⟩
  · obtain rfl | hu | rfl : u = _ ∨ u ∈ t ∨ u = _ := by simpa using hu
    · exact hcopies.elim
    · exact ⟨ht.copied u hu hcopies, ht.blocked_before hl hblocked u hu⟩
    · exact hcopies.elim
  · exact (hother i hne).trans (hkept i hne hi _ ht.last)
  · rcases o with e | _
    · exact absurd (by simp [Turn.exchange]) (hnot e)
    · exact hlifted rfl
  · have hne : i ≠ source := by
      rintro rfl
      rw [hsource] at hi
      cases hi
    have hcontains : s.store.contains i = true := Store.contains_iff_blocked?.2 ⟨_, hi⟩
    have hlast := (hother i hne).trans ((hkept i hne hcontains _ ht.last).trans hi)
    refine ⟨fun u hu => ?_, hlast⟩
    obtain rfl | hu | rfl : u = _ ∨ u ∈ t ∨ u = _ := by simpa using hu
    · exact (hkept i hne hcontains _ .refl).trans hi
    · exact (hkept i hne hcontains _ (ht.keeps u hu)).trans hi
    · exact hlast

end GivesBack

/-! ## Under the block -/

section

variable {α : Type} {op : Operation α} {w w' : World} {r : Except ServiceError α}

/-- An operation that takes from an index gives all back when it is run while that is blocked. Where
it succeeds, the operation itself has succeeded, the block of the source is as before, and no other
block has changed since. -/
theorem GivesBack.of_whileBlocked
    (hop : ∀ {w₁ t₁ r₁ w₂}, op.Runs .unperformed w₁ t₁ r₁ w₂ →
      w₁.memory.store.contains source = true →
      TakesFrom source w₁.memory.store t₁ w₂.memory.store)
    (hsource : w.memory.store.contains source = true)
    (h : (Operation.whileBlocked source op).Runs .unperformed w t r w') :
    GivesBack source w.memory.store t w'.memory.store ∧
      ∀ a, r = .ok a → w.memory.store.KeepsBlocks w'.memory.store ∧
        ∃ w₁ t₁ w₂, op.Runs .unperformed w₁ t₁ (.ok a) w₂ ∧
          (∀ i, w₁.memory.store.contains i = w.memory.store.contains i) ∧
          ∀ i, i ≠ source → w'.memory.store.blocked? i = w₂.memory.store.blocked? i := by
  obtain ⟨hsaid, hl⟩ := h
  obtain ⟨e, ht, rfl⟩ | ⟨settings, d, hblocked, ht, hinner⟩ | ⟨settings, e, ht, rfl⟩ |
    ⟨settings, d, r', o, hfree, ht, hinner, rfl⟩ := hsaid.whileBlocked
  · refine ⟨.of_idle hl fun x hx => ?_, by simp⟩
    rw [ht, List.mem_singleton] at hx
    subst hx
    exact ⟨.failed e, id⟩
  · obtain ⟨s₁, t₁, rfl, hlook, rfl, hl₁⟩ := hl.first ht
    have hs₁ : s₁.store = w.memory.store := hlook.store_of_looks fun _ => rfl
    have hsource₁ : s₁.store.blocked? source = some true := by
      rw [hs₁, hlook.blocked?_eq, hblocked]
    have hruns : op.Runs .unperformed ⟨w.service, s₁⟩ t₁ r w' := ⟨hinner, hl₁⟩
    have htakes := hop hruns (by rw [hs₁]; exact hsource)
    refine ⟨(htakes.givesBack hl₁ hsource₁).prepend (t := [_]) ?_ fun u hu => ?_, ?_⟩
    · rw [hs₁]
      exact .refl
    · rw [List.mem_singleton.1 hu]
      exact ⟨id, by rw [hs₁]; exact .refl⟩
    · rintro a rfl
      refine ⟨?_, _, t₁, w', hruns, fun i => by rw [hs₁], fun _ _ => rfl⟩
      rw [← hs₁]
      exact htakes.last
  · refine ⟨.of_idle hl fun x hx => ?_, by simp⟩
    rw [ht, List.mem_cons, List.mem_singleton] at hx
    rcases hx with rfl | rfl
    · exact ⟨.looks (fun _ => rfl) _, id⟩
    · exact ⟨.failed e, id⟩
  · obtain ⟨s₁, t₁, rfl, hlook, ht₁, hl₁⟩ := hl.first ht
    obtain ⟨s₂, t₂, rfl, hset, ht₂, hl₂⟩ := hl₁.first ht₁
    obtain ⟨s₃, t₃, t₄, rfl, rfl, ht₄, hl₃, hl₄⟩ := hl₂.split ht₂
    obtain ⟨s₄, t₅, rfl, hlift, ht₅, hl₅⟩ := hl₄.first ht₄
    obtain ⟨rfl, hs₄⟩ := hl₅.none ht₅
    have hs₁ : s₁.store = w.memory.store := hlook.store_of_looks fun _ => rfl
    have hsource₁ : s₁.store.blocked? source = some false := by
      rw [hs₁, hlook.blocked?_eq, hfree]
    have hs₂ : ∀ i, s₂.store.blocked? i = if source = i then some true else s₁.store.blocked? i :=
      fun _ => Store.blocked?_putSettings (by rw [hs₁]; exact hsource) hset.perform_of_ok
    have hruns : op.Runs .unperformed ⟨w.service, s₂⟩ t₃ r' ⟨w'.service, s₃⟩ := ⟨hinner, hl₃⟩
    have htakes := hop hruns (Store.contains_iff_blocked?.2 ⟨true, by rw [hs₂, if_pos rfl]⟩)
    obtain ⟨hgives, hlifted, hother⟩ := GivesBack.of_bracket hsource₁ hset hl₃ htakes hlift
    rw [hs₁] at hgives hlifted
    rw [hs₄]
    refine ⟨hgives.prepend (t := [_]) .refl fun u hu => ?_, fun a hok => ?_⟩
    · rw [List.mem_singleton.1 hu]
      exact ⟨id, by rw [hs₁]; exact .refl⟩
    · obtain ⟨rfl, ho⟩ := Operation.bothOutcomes_eq_ok.1 hok
      refine ⟨hlifted (Operation.resultOf_eq_ok.1 ho), _, t₃, _, hruns, fun i => ?_, hother⟩
      rw [Store.contains_eq_isSome_blocked?, Store.contains_eq_isSome_blocked?, hs₂, hs₁]
      split
      · rename_i heq
        rw [← heq, ← hs₁, hsource₁]
        rfl
      · rfl

end

/-! ## Reindexes and clones -/

/-- The operations that make a new index out of another one. -/
inductive Transfer where
  | reindex (key : CollectionKey)
  | clone (key : CollectionKey) (source : String)

/-- The operation, with the index that it reports as its source and the one it reports as new. -/
def Transfer.perform : Transfer → Operation (String × String)
  | reindex key => do
    let report ← Operation.reindex key
    pure (report.oldIndex, report.newIndex)
  | clone key source => do
    let report ← Operation.clone key source
    pure (report.sourceIndex, report.newIndex)

/-- An index was made out of another one. It is not blocked, and those that were there have the blocks
they had. -/
structure Store.Gains (store : Store) (source new : String) (store' : Store) : Prop where
  there : store.contains source = true
  fresh : store.contains new = false
  free : store'.blocked? new = some false
  keeps : store.KeepsBlocks store'

section

variable {w w' : World} {key : CollectionKey}

theorem Cloning.Scouts.idle {x : Exchange} (h : Cloning.Scouts x) : x.Idle := by
  cases h with
  | aliasExists | getAlias | getIndices => exact .looks (fun _ => rfl) _

theorem Move.Scouts.not_copies {x : Exchange} (h : Move.Scouts x) : ¬ x.1.Copies := by
  cases h <;> exact id

theorem Cloning.Scouts.not_copies {x : Exchange} (h : Cloning.Scouts x) : ¬ x.1.Copies := by
  cases h <;> exact id

/-- A copy and the binding behind it take from the old index. -/
theorem Move.takesFrom (m : Move) {t : List (Turn Memory)} {r : Except ServiceError ReindexReply}
    (h : (Operation.copyAndRebind m.aliasName m.oldIndex m.newIndex
      (copyBody m.oldIndex m.newIndex m.mapping.names)).Runs .unperformed w t r w') :
    TakesFrom m.oldIndex w.memory.store t w'.memory.store := by
  have hcopied : m.copy.copied? = some m.oldIndex := EngineCall.copied?_copyBody
  refine .of_leads h.2 fun x hx => ?_
  obtain ⟨o, e, -, ht, -⟩ | ⟨reply, e, ht, -⟩ | ⟨reply, o, -, ht, -⟩ := h.1.copyAndRebind <;>
    rw [ht] at hx
  · rw [List.mem_singleton.1 hx]
    exact ⟨.intro, fun _ => hcopied⟩
  · obtain rfl | rfl : x = _ ∨ x = _ := by simpa using hx
    · exact ⟨.intro, fun _ => hcopied⟩
    · exact ⟨.intro, False.elim⟩
  · obtain rfl | rfl | rfl : x = _ ∨ x = _ ∨ x = _ := by simpa using hx
    · exact ⟨.intro, fun _ => hcopied⟩
    · exact ⟨.intro, False.elim⟩
    · exact ⟨.intro, False.elim⟩

/-- A clone and the lifting of the block behind it take from the source. Where there is a clone, it
was not there before; where all has succeeded, it is not blocked. -/
theorem Cloning.takesFrom (m : Cloning) {t : List (Turn Memory)} {r : Except ServiceError Unit}
    (h : (Operation.cloneBlocked m.sourceIndex m.newIndex m.aliasName).Runs .unperformed w t r w') :
    TakesFrom m.sourceIndex w.memory.store t w'.memory.store ∧
      (r = .ok () → w.memory.store.contains m.newIndex = false ∧
        w'.memory.store.blocked? m.newIndex = some false) := by
  obtain ⟨hsaid, hl⟩ := h
  obtain ⟨-, ⟨e, ht, rfl⟩ | ⟨o, ht, rfl⟩⟩ := hsaid.cloneBlocked
  · refine ⟨.of_leads hl fun x hx => ?_, by simp⟩
    rw [ht, List.mem_singleton] at hx
    subst hx
    exact ⟨.intro, fun _ => rfl⟩
  obtain ⟨s₁, t₁, rfl, hclone, ht₁, hl₁⟩ := hl.first ht
  obtain ⟨s₂, t₂, rfl, hlift, ht₂, hl₂⟩ := hl₁.first ht₁
  obtain ⟨rfl, hs₂⟩ := hl₂.none ht₂
  obtain ⟨held, -, -, hnew, hs₁⟩ := Store.cloneIndex_eq_ok.1 hclone.perform_of_ok
  have hkeeps₁ : w.memory.store.KeepsBlocks s₁.store := by
    rw [hs₁]
    exact Store.keepsBlocks_insert_new hnew
  have hfree : s₁.store.blocked? m.newIndex = some false := by
    rw [hs₁, Store.blocked?_insert, if_pos rfl]
  -- the engine in memory makes clones without a block, so there is nothing to lift
  have hsame : ∀ i, s₂.store.blocked? i = s₁.store.blocked? i := by
    intro i
    rcases o with e | _
    · rw [hlift.store_of_error (by decide)]
    · rw [Store.blocked?_putSettings (Store.contains_iff_blocked?.2 ⟨_, hfree⟩) hlift.perform_of_ok]
      split
      · rename_i heq
        rw [← heq, hfree]
      · rfl
  have hkeeps₂ : w.memory.store.KeepsBlocks s₂.store := fun i hi => (hsame i).trans (hkeeps₁ i hi)
  rw [hs₂]
  refine ⟨⟨fun u hu hcopies => ?_, fun u hu => ?_, hkeeps₂⟩, fun _ => ⟨hnew, (hsame _).trans hfree⟩⟩
  · obtain rfl | rfl : u = _ ∨ u = _ := by simpa using hu
    · rfl
    · exact hcopies.elim
  · obtain rfl | rfl : u = _ ∨ u = _ := by simpa using hu
    · exact hkeeps₁
    · exact hkeeps₂

namespace Operation.Runs

theorem reindex_givesBack {t : List (Turn Memory)} {r : Except ServiceError ReindexReport}
    (h : (Operation.reindex key).Runs .unperformed w t r w') :
    ∃ source, GivesBack source w.memory.store t w'.memory.store ∧
      ∀ report, r = .ok report → report.oldIndex = source ∧
        w.memory.store.Gains source report.newIndex w'.memory.store := by
  rcases h.opens with ⟨⟨e, rfl⟩, hscouts⟩ | ⟨m, u₁, u₂, u₃, t', r', service₁, -, hnewest, hnew, hne,
    rfl, hu₁, hu₂, hu₃, hx₁, ⟨pattern, found, hx₂⟩, hx₃, hmove, hl, rfl⟩
  · exact ⟨"", .of_idle h.2 fun x hx => ⟨(hscouts x hx).idle, (hscouts x hx).not_copies⟩, by simp⟩
  have hold : w.memory.store.contains m.oldIndex = true :=
    (Store.mem_carriers.1 (mem_of_newestIndex? hnewest)).contains
  have hopened : w.memory.store.KeepsBlocks u₃.after.store := by
    rw [hu₃]
    exact Store.keepsBlocks_insert_new hnew
  have hruns : m.operation.Runs .unperformed ⟨w.service, u₃.after⟩ t' r' ⟨service₁, w'.memory⟩ :=
    ⟨hmove, hl⟩
  obtain ⟨hgives, hok⟩ :=
    GivesBack.of_whileBlocked (fun hrun _ => m.takesFrom hrun) (hopened.contains hold) hruns
  refine ⟨m.oldIndex, hgives.prepend (t := [u₁, u₂, u₃]) hopened fun u hu => ?_, ?_⟩
  · obtain rfl | rfl | rfl : u = u₁ ∨ u = u₂ ∨ u = u₃ := by simpa using hu
    · rw [show u.call = _ from congrArg Sigma.fst hx₁, hu₁]
      exact ⟨id, .refl⟩
    · rw [show u.call = _ from congrArg Sigma.fst hx₂, hu₂]
      exact ⟨id, .refl⟩
    · rw [show u.call = _ from congrArg Sigma.fst hx₃]
      exact ⟨id, hopened⟩
  · intro report hreport
    obtain ⟨reply, rfl, rfl⟩ := map_eq_ok.1 hreport
    obtain ⟨hkeeps, -⟩ := hok reply rfl
    refine ⟨rfl, hold, hnew, hkeeps.blocked? ?_, hopened.trans hkeeps⟩
    show u₃.after.store.blocked? m.newIndex = _
    rw [hu₃, Store.blocked?_insert, if_pos rfl, Store.writeBlocked_indexOfBody]

theorem clone_givesBack {source : String} {t : List (Turn Memory)}
    {r : Except ServiceError CloneReport}
    (h : (Operation.clone key source).Runs .unperformed w t r w') :
    ∃ source, GivesBack source w.memory.store t w'.memory.store ∧
      ∀ report, r = .ok report → report.sourceIndex = source ∧
        w.memory.store.Gains source report.newIndex w'.memory.store := by
  obtain ⟨hsaid, hl⟩ := h
  rcases hsaid.clone with ⟨⟨e, rfl⟩, -, hscouts⟩ | ⟨m, -, o, found, d₁, d₂, r', service₁, -, -, hfinds,
    ht, hclone, rfl, -⟩
  · exact ⟨"", .of_idle hl fun x hx => ⟨(hscouts x hx).idle, (hscouts x hx).not_copies⟩, by simp⟩
  obtain ⟨s₁, t₁, rfl, hfree, ht₁, hl₁⟩ := hl.first ht
  obtain ⟨s₂, t₂, t₃, rfl, ht₂, ht₃, hl₂, hl₃⟩ := hl₁.split ht₁
  obtain ⟨s₃, t₄, rfl, hlist, rfl, hl₄⟩ := hl₃.first ht₃
  have hs₁ : s₁.store = w.memory.store := hfree.store_of_looks fun _ => rfl
  have hscouts : ∀ x ∈ t₂.map Turn.exchange, x.Idle ∧ ¬ x.1.Copies := fun x hx =>
    have hx := Cloning.scouts_of_finds hfinds x (ht₂ ▸ hx)
    ⟨hx.idle, hx.not_copies⟩
  have hs₂ : s₂.store = s₁.store := (hl₂.idle (by decide) fun x hx => (hscouts x hx).1).2
  have hs₃ : s₃.store = w.memory.store :=
    (hlist.store_of_looks fun _ => rfl).trans (hs₂.trans hs₁)
  have hsource : w.memory.store.contains m.sourceIndex = true := by
    rw [← hs₁]
    exact hfinds.contains hl₂ ht₂
  have hruns : m.operation.Runs .unperformed ⟨w.service, s₃⟩ t₄ r' ⟨service₁, w'.memory⟩ :=
    ⟨hclone, hl₄⟩
  obtain ⟨hgives, hok⟩ := GivesBack.of_whileBlocked (fun hrun _ => (m.takesFrom hrun).1)
    (by rw [hs₃]; exact hsource) hruns
  have hlist₃ : Leads Memory.answer .unperformed s₂ [⟨.getIndices _, o, s₂, s₃⟩] s₃ :=
    ⟨rfl, hlist, rfl⟩
  have hfree₁ : Leads Memory.answer .unperformed w.memory
      [⟨.aliasExists m.aliasName, .ok false, w.memory, s₁⟩] s₁ := ⟨rfl, hfree, rfl⟩
  have hlooks : ∀ {u : Turn Memory}, Cloning.Scouts u.exchange →
      ∀ x ∈ [u].map Turn.exchange, x.Idle ∧ ¬ x.1.Copies := by
    intro u hu x hx
    rw [List.map_singleton, List.mem_singleton] at hx
    rw [hx]
    exact ⟨hu.idle, hu.not_copies⟩
  have hgives₂ := (hgives.prepend_idle hlist₃ (hlooks (.getIndices o))).prepend_idle hl₂ hscouts
  refine ⟨m.sourceIndex, hgives₂.prepend_idle hfree₁ (hlooks (.aliasExists _)), fun report hreport => ?_⟩
  obtain ⟨⟨⟩, rfl, rfl⟩ := map_eq_ok.1 hreport
  obtain ⟨hkeeps, w₁, t₁, w₂, hrun, hsame, hothers⟩ := hok () rfl
  obtain ⟨hnew, hopen⟩ := (m.takesFrom hrun).2 rfl
  rw [hsame, hs₃] at hnew
  rw [hs₃] at hkeeps
  have hne : m.newIndex ≠ m.sourceIndex := by
    intro heq
    rw [heq, hsource] at hnew
    cases hnew
  exact ⟨rfl, hsource, hnew, (hothers _ hne).trans hopen, hkeeps⟩

end Operation.Runs

/-- A reindex and a clone give every block back, however their calls fail. They copy their source only
while it is blocked. Whether they succeed or not, every index that was there has the block that it
had, unless it is the source and the call that lifts its block has failed; where they succeed there
is no exception, and the new index is not blocked. An index that was blocked is so throughout. -/
theorem Transfer.gives_blocks_back {transfer : Transfer} {t : List (Turn Memory)}
    {r : Except ServiceError (String × String)}
    (h : transfer.perform.Runs .unperformed w t r w') :
    ∃ source, GivesBack source w.memory.store t w'.memory.store ∧
      ∀ old new, r = .ok (old, new) →
        old = source ∧ w.memory.store.Gains source new w'.memory.store := by
  cases transfer with
  | reindex key =>
    obtain ⟨r', hop, rfl⟩ := h.of_mapped
    obtain ⟨source, hgives, hok⟩ := hop.reindex_givesBack
    refine ⟨source, hgives, fun old new heq => ?_⟩
    obtain ⟨report, rfl, ⟨⟩⟩ := map_eq_ok.1 heq
    exact hok report rfl
  | clone key source =>
    obtain ⟨r', hop, rfl⟩ := h.of_mapped
    obtain ⟨source, hgives, hok⟩ := hop.clone_givesBack
    refine ⟨source, hgives, fun old new heq => ?_⟩
    obtain ⟨report, rfl, ⟨⟩⟩ := map_eq_ok.1 heq
    exact hok report rfl

/-- A clone that the engine fails to make: the block of the source is lifted all the same. -/
theorem block_given_back_after_failed_clone :
    let failed := Cue.unperformed (.backend "out of memory")
    let w := ((World.empty .plain).rehearse [(.ensureExists .english, [])]).2
    let run := (Transfer.clone .german "craftcms_en").perform.rehearse
      (List.replicate 5 .heard ++ [failed]) w
    run.2.1 = .error (.backend "out of memory") ∧
      run.2.2.memory.store.blocked? "craftcms_en_1700000000" = some false ∧
      ∃ source, GivesBack source w.memory.store run.1 run.2.2.memory.store := by
  intro failed w run
  have hcues : ∀ cue ∈ List.replicate 5 Cue.heard ++ [failed], cue.AllowedBy .unperformed := by
    decide
  obtain ⟨source, hgives, -⟩ :=
    Transfer.gives_blocks_back (Operation.runs_rehearse (r := run.2.1) hcues rfl)
  exact ⟨by decide +kernel, by decide +kernel, source, hgives⟩

end

end SiteSearch
