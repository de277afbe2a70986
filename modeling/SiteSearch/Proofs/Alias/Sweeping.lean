import Mathlib.Data.List.Basic
import Mathlib.Tactic.ByContra
import SiteSearch.Proofs.Alias.Orphans
import SiteSearch.Proofs.Memory.Effects
import SiteSearch.Proofs.Service.Pairing

/-!
# A sweep in company

A sweep takes for orphans what is not bound when it looks at the generations, and deletes it later,
whatever has happened in between. Beside an operation that deletes nothing, it deletes each of these
orphans (`SweepsAt.exists_deletion`), and one that carries the alias by then has been bound since
(`SweepsAt.bound_since`).
-/

namespace SiteSearch

namespace Sweep.Deletes

variable {indexes : List String} {d : List Exchange}

theorem mem_of_deletes (h : Sweep.Deletes indexes d) {x : Exchange} (hx : x ∈ d) {i : String}
    (hdeletes : x.Deletes i) : i ∈ indexes := by
  obtain ⟨j, hj, hcall⟩ := h.call_eq hx
  obtain rfl := EngineCall.deleteIndex.inj (hdeletes.call_eq.symm.trans hcall)
  exact hj

/-- No index is deleted twice. -/
theorem deletes_once (h : Sweep.Deletes indexes d) (hnodup : indexes.Nodup) :
    d.Pairwise fun x y => ∀ i, x.Deletes i → ¬ y.Deletes i := by
  induction h with
  | done => exact .nil
  | refused => exact List.pairwise_singleton _ _
  | deleted hrest ih =>
    obtain ⟨hnew, hnodup⟩ := List.nodup_cons.1 hnodup
    refine .cons (fun y hy i hi hagain => hnew ?_) (ih hnodup)
    obtain rfl : _ = i := hi
    exact hrest.mem_of_deletes hy hagain

/-- Where nobody else deletes anything, every index that is there is deleted. -/
theorem exists_deletes {s s' : Memory} {t : List Step} (h : Sweep.Deletes indexes d)
    (hd : clientDialogue t = d) (hnodup : indexes.Nodup)
    (hl : Leads Memory.answer .none s (t.map Step.turn) s')
    (hown : ∀ x ∈ ownDialogue t, x.1.MakesBare ∧ ∀ i, ¬ x.Deletes i)
    (hthere : ∀ i ∈ indexes, s.store.contains i = true) :
    ∀ i ∈ indexes, ∃ x ∈ clientDialogue t, x.Deletes i := by
  -- up to the next deletion all turns are those of the operation
  have hstays : ∀ {t t' : List Step} {s s₁ : Memory} {i : String}, clientDialogue t = [] →
      Leads Memory.answer .none s (t.map Step.turn) s₁ →
      (∀ x ∈ ownDialogue (t ++ t'), x.1.MakesBare ∧ ∀ i, ¬ x.Deletes i) →
      s.store.contains i = true → s₁.store.contains i = true := by
    intro t t' s s₁ i ht hl hown hs
    refine hl.contains (by decide) (fun x hx => ?_) hs
    rw [mem_exchanges, ht, or_iff_left List.not_mem_nil] at hx
    obtain ⟨hbare, hkept⟩ := hown x (by simp [hx])
    exact ⟨hbare, hkept i⟩
  induction h generalizing t s with
  | done => simp
  | @refused index rest e =>
    obtain ⟨t₁, s₁, s₂, t₂, rfl, ht₁, -⟩ := exists_client_of_dialogue (d := []) hd
    obtain ⟨hl₁, hdelete : Answers Memory.answer .none (.deleteIndex index) s₁ (.error e) s₂, -⟩ :=
      leads_at.1 hl
    have hindex := hstays ht₁ hl₁ hown (hthere index List.mem_cons_self)
    obtain ⟨⟨_, ho⟩, -⟩ := hdelete.accepted .intro (Store.deleteIndex_eq_ok.2 ⟨hindex, rfl⟩)
    cases ho
  | @deleted index rest d _ ih =>
    obtain ⟨t₁, s₁, s₂, t₂, rfl, ht₁, ht₂⟩ := exists_client_of_dialogue (d := []) hd
    obtain ⟨hl₁, hdelete : Answers Memory.answer .none (.deleteIndex index) s₁ (.ok ()) s₂, hl₂⟩ :=
      leads_at.1 hl
    obtain ⟨hnew, hnodup⟩ := List.nodup_cons.1 hnodup
    intro i hi
    rcases List.mem_cons.1 hi with rfl | hi
    · exact ⟨⟨.deleteIndex i, .ok ()⟩, by simp [Turn.exchange], rfl⟩
    have hrest : ∀ i ∈ rest, s₂.store.contains i = true := by
      intro i hi
      have hstill := hstays ht₁ hl₁ hown (hthere i (List.mem_cons_of_mem _ hi))
      refine (hdelete.contains_iff (x := ⟨_, _⟩) (by decide) .intro).2 (.inr ⟨hstill, ?_⟩)
      rintro rfl
      exact hnew hi
    obtain ⟨x, hx, hdeletes⟩ := ih ht₂ hnodup hl₂ (fun x hx => hown x (by simp [hx])) hrest i hi
    exact ⟨x, by simp [hx], hdeletes⟩

end Sweep.Deletes

/-- In a shared run with an operation that deletes nothing, a client looks at the generations in one turn:
it only looks before that, and behind it deletes what was orphaned then, but for an index that it has seen
the alias on before. -/
structure SweepsAt (a : String) (m : Memory) (t₁ : List Step) (v : Turn Memory) (t₂ : List Step)
    (m' : Memory) (orphans : List String) : Prop where
  leads : Leads Memory.answer .none m ((t₁ ++ .client v :: t₂).map Step.turn) m'
  own : ∀ x ∈ ownDialogue (t₁ ++ .client v :: t₂), x.1.MakesBare ∧ ∀ i, ¬ x.Deletes i
  lists : ∃ pattern, v.call = .getIndices pattern
  looks : ∀ x ∈ clientDialogue t₁, ∃ b, x.1 = .getAlias b
  deletes : Sweep.Deletes orphans (clientDialogue t₂)
  nodup : orphans.Nodup
  orphaned : ∀ i ∈ orphans, v.before.store.Orphaned a i
  complete : ∀ i, v.before.store.Orphaned a i → (∀ y ∈ t₁, ¬ y.turn.before.store.Carries i a) →
    i ∈ orphans

/-- A sweep of a client gets as far as looking at the generations, or it does nothing. -/
theorem RunsBeside.sweeps {α : Type} {op : Operation α} {service service' : Service}
    {key : CollectionKey} {m m' : Memory} {t : List Step} {r : Except ServiceError α}
    {r' : Except ServiceError (List String)}
    (h : RunsBeside .none op (Operation.deleteOrphaned key) service service' m t r r' m')
    (hown : ∀ x ∈ ownDialogue t, x.1.MakesBare ∧ ∀ i, ¬ x.Deletes i) :
    (∃ b o, clientDialogue t = [⟨.getAlias b, o⟩]) ∨ ∃ t₁ v t₂ orphans, t = t₁ ++ .client v :: t₂ ∧
      SweepsAt (service'.aliasName key) m t₁ v t₂ m' orphans := by
  obtain ⟨_, hclient⟩ := h.client
  obtain ⟨bound, d₁, hd, ⟨rfl, -⟩ | ⟨listed, d₂, rfl, hrest⟩⟩ := hclient.deleteOrphaned
  · exact .inl ⟨_, _, hd⟩
  obtain ⟨t₁, s, s', t₂, rfl, hd₁, rfl⟩ := exists_client_of_dialogue (d := [_]) hd
  obtain ⟨hl₁, hlist : Answers Memory.answer .none (.getIndices _) s listed s', -⟩ := leads_at.1 h.leads
  obtain ⟨found, hfound, hdescribe⟩ := hlist.exists_found
  obtain ⟨e, hfailed, -⟩ | ⟨found', current, hfound', hcurrent, hdeletes, -⟩ := hrest
  · rw [hfound] at hfailed
    cases hfailed
  obtain rfl := Except.ok.inj (hfound.symm.trans hfound')
  have horphan : ∀ i, (∃ g ∈ orphansAmong service'.indexNames key current found, g.name = i) ↔
      s.store.Orphaned (service'.aliasName key) i ∧ current ≠ some i :=
    fun i => exists_orphan_iff hdescribe
  refine .inr ⟨t₁, _, t₂, _, rfl, h.leads, hown, ⟨_, rfl⟩, ?_, hdeletes, nodup_orphans hdescribe,
    fun i hi => ?_, fun i hi hfree => ?_⟩
  · rw [hd₁]
    intro x hx
    rw [List.mem_singleton.1 hx]
    exact ⟨_, rfl⟩
  · obtain ⟨g, hg, rfl⟩ := List.mem_map.1 hi
    exact ((horphan _).1 ⟨g, hg, rfl⟩).1
  · have hother : current ≠ some i := by
      intro heq
      obtain ⟨indexes, rfl, hnewest⟩ := hcurrent i heq
      obtain ⟨t₃, s₁, s₂, t₄, rfl, -, -⟩ := exists_client_of_dialogue (d := []) hd₁
      obtain ⟨-, hlook : Answers Memory.answer .none (.getAlias _) s₁ (.ok indexes) s₂, -⟩ :=
        leads_at.1 hl₁
      rw [hlook.bound_eq] at hnewest
      exact hfree (.client ⟨.getAlias _, .ok indexes, s₁, s₂⟩) (by simp)
        (Store.mem_carriers.1 (mem_of_newestIndex? hnewest))
    obtain ⟨g, hg, rfl⟩ := (horphan i).2 ⟨hi, hother⟩
    exact List.mem_map_of_mem hg

/-! ## Who does what -/

/-- The operation deletes nothing, and the client makes, binds and unbinds nothing. -/
structure Parted (t : List Step) : Prop where
  own : ∀ x ∈ ownDialogue t, x.1.MakesBare ∧ ∀ i, ¬ x.Deletes i
  client : ∀ x ∈ clientDialogue t,
    x.1.MakesBare ∧ ∀ i a, ¬ x.Creates i ∧ ¬ x.Binds i a ∧ ¬ x.Unbinds i a

namespace Parted

variable {t t' : List Step} {s s' : Memory} {i a : String}

theorem left (h : Parted (t ++ t')) : Parted t :=
  ⟨fun x hx => h.own x (by simp [hx]), fun x hx => h.client x (by simp [hx])⟩

theorem right (h : Parted (t ++ t')) : Parted t' :=
  ⟨fun x hx => h.own x (by simp [hx]), fun x hx => h.client x (by simp [hx])⟩

theorem contains (h : Parted t) (hl : Leads Memory.answer .none s (t.map Step.turn) s')
    (ht : ∀ x ∈ clientDialogue t, ¬ x.Deletes i) (hs : s.store.contains i = true) :
    s'.store.contains i = true := by
  refine hl.contains (by decide) (fun x hx => ?_) hs
  rcases mem_exchanges.1 hx with hx | hx
  · exact ⟨(h.own x hx).1, (h.own x hx).2 i⟩
  · exact ⟨(h.client x hx).1, ht x hx⟩

theorem absent (h : Parted t) (hl : Leads Memory.answer .none s (t.map Step.turn) s')
    (ht : ∀ x ∈ ownDialogue t, ¬ x.Creates i) (hs : s.store.contains i = false) :
    s'.store.contains i = false := by
  refine hl.absent (by decide) (fun x hx => ?_) hs
  rcases mem_exchanges.1 hx with hx | hx
  · exact ⟨(h.own x hx).1, ht x hx⟩
  · exact ⟨(h.client x hx).1, ((h.client x hx).2 i "").1⟩

theorem free (h : Parted t) (hl : Leads Memory.answer .none s (t.map Step.turn) s')
    (ht : ∀ x ∈ ownDialogue t, ¬ x.Binds i a) (hs : ¬ s.store.Carries i a) :
    ¬ s'.store.Carries i a := by
  refine hl.free (by decide) (fun x hx => ?_) hs
  rcases mem_exchanges.1 hx with hx | hx
  · exact ⟨(h.own x hx).1, ht x hx⟩
  · exact ⟨(h.client x hx).1, ((h.client x hx).2 i a).2.1⟩

/-- An index that loses an alias which the operation does not take from it is deleted with it. -/
theorem exists_deletes_of_lost (h : Parted t) (hl : Leads Memory.answer .none s (t.map Step.turn) s')
    (ht : ∀ x ∈ ownDialogue t, ¬ x.Unbinds i a) (hs : s.store.Carries i a)
    (hs' : ¬ s'.store.Carries i a) :
    ∃ y ∈ t, y.turn.exchange.Deletes i ∧ y.turn.before.store.Carries i a := by
  have hkept : ∀ x ∈ (t.map Step.turn).map Turn.exchange, x.1.MakesBare ∧ ¬ x.Unbinds i a := by
    intro x hx
    rcases mem_exchanges.1 hx with hx | hx
    · exact ⟨(h.own x hx).1, ht x hx⟩
    · exact ⟨(h.client x hx).1, ((h.client x hx).2 i a).2.2⟩
  obtain ⟨u, hu, hdeletes, hcarries⟩ := hl.exists_deletes_of_lost (by decide) hkept hs hs'
  obtain ⟨y, hy, rfl⟩ := List.mem_map.1 hu
  exact ⟨y, hy, hdeletes, hcarries⟩

end Parted

/-- What is deleted while it carries the alias has been bound to it before. -/
def BoundFirst (a : String) (t : List Step) : Prop :=
  ∀ p y q, t = p ++ y :: q → ∀ i, y.turn.exchange.Deletes i → y.turn.before.store.Carries i a →
    ∃ x ∈ ownDialogue p, x.Binds i a

theorem BoundFirst.left {a : String} {t t' : List Step} (h : BoundFirst a (t ++ t')) :
    BoundFirst a t := by
  rintro p y q rfl
  exact h p y (q ++ t') (by simp)

namespace SweepsAt

variable {a i : String} {m m' : Memory} {t₁ t₂ p q : List Step} {v u : Turn Memory} {y : Step}
  {orphans : List String} (h : SweepsAt a m t₁ v t₂ m' orphans)

include h

theorem parted : Parted (t₁ ++ .client v :: t₂) := by
  refine ⟨h.own, fun x hx => ?_⟩
  obtain ⟨pattern, hlists⟩ := h.lists
  have hquiet : (∃ b, x.1 = .getAlias b) ∨ x.1 = .getIndices pattern ∨ ∃ i, x.1 = .deleteIndex i := by
    simp only [clientDialogue_append, clientDialogue_client, List.mem_append, List.mem_cons] at hx
    rcases hx with hx | rfl | hx
    · exact .inl (h.looks x hx)
    · exact .inr (.inl hlists)
    · obtain ⟨i, -, hcall⟩ := h.deletes.call_eq hx
      exact .inr (.inr ⟨i, hcall⟩)
  obtain ⟨c, o⟩ := x
  obtain ⟨_, rfl⟩ | rfl | ⟨_, rfl⟩ := hquiet <;> exact ⟨.intro, fun _ _ => ⟨id, id, id⟩⟩

/-- A look at the generations deletes nothing. -/
theorem lists_only : ¬ v.exchange.Deletes i := by
  intro hdeletes
  obtain ⟨pattern, hlists⟩ := h.lists
  cases hlists.symm.trans hdeletes.call_eq

/-- What is deleted is deleted by the client, behind the look at the generations. -/
theorem deleted_behind (hy : t₁ ++ .client v :: t₂ = p ++ y :: q)
    (hdeletes : y.turn.exchange.Deletes i) :
    ∃ u p₂, y = .client u ∧ p = t₁ ++ .client v :: p₂ ∧ t₂ = p₂ ++ .client u :: q := by
  have hmem : y ∈ t₁ ++ .client v :: t₂ := by simp [hy]
  obtain u | u := y
  · exact absurd hdeletes ((h.own u.exchange (mem_ownDialogue.2 ⟨u, hmem, rfl⟩)).2 i)
  have hlook : v ≠ u := by
    rintro rfl
    exact h.lists_only hdeletes
  obtain ⟨p₂, rfl, hrest⟩ | ⟨q₂, rfl, hrest⟩ := List.append_eq_append_iff.1 hy
  · cases p₂ with
    | nil => exact absurd (Step.client.inj (List.cons.inj hrest).1) hlook
    | cons z p₂ =>
      obtain ⟨rfl, rfl⟩ := List.cons.inj hrest
      exact ⟨u, p₂, rfl, rfl, rfl⟩
  · cases q₂ with
    | nil => exact absurd (Step.client.inj (List.cons.inj hrest).1).symm hlook
    | cons z q₂ =>
      obtain ⟨rfl, -⟩ := List.cons.inj hrest
      obtain ⟨b, hcall⟩ := h.looks u.exchange (mem_clientDialogue.2 ⟨u, by simp, rfl⟩)
      cases hcall.symm.trans hdeletes.call_eq

/-- What the client deletes it has not deleted before. -/
theorem deletes_once (ht : t₂ = p ++ .client u :: q) (hdeletes : u.exchange.Deletes i) :
    ∀ x ∈ clientDialogue p, ¬ x.Deletes i := by
  have honce := h.deletes.deletes_once h.nodup
  rw [ht, clientDialogue_append, clientDialogue_client, List.pairwise_append] at honce
  obtain ⟨-, -, hbefore⟩ := honce
  exact fun x hx hi => hbefore x hx _ List.mem_cons_self i hi hdeletes

/-- The way from the look at the generations to a deletion. -/
theorem leads_to_deletion (ht : t₂ = p ++ .client u :: q) :
    Leads Memory.answer .none v.before ((.client v :: p).map Step.turn) u.before ∧
      Parted (.client v :: p) := by
  subst ht
  obtain ⟨-, ha, hl⟩ := leads_at.1 h.leads
  obtain ⟨hl₁, -, -⟩ := leads_at.1 hl
  have hparted : Parted ((.client v :: p) ++ .client u :: q) := h.parted.right
  exact ⟨⟨rfl, ha, hl₁⟩, hparted.left⟩

/-- An index that is deleted while it carries the alias has been bound since the look at the
generations. -/
theorem bound_since (ht : t₂ = p ++ .client u :: q) (hdeletes : u.exchange.Deletes i)
    (hcarries : u.before.store.Carries i a) : ∃ x ∈ ownDialogue p, x.Binds i a := by
  obtain ⟨hl, hparted⟩ := h.leads_to_deletion ht
  have hmem : u.exchange ∈ clientDialogue t₂ := by simp [ht]
  have horphaned := h.orphaned i (h.deletes.mem_of_deletes hmem hdeletes)
  by_contra hnone
  refine hparted.free hl (fun x hx hbinds => hnone ⟨x, ?_, hbinds⟩) horphaned.2.2 hcarries
  simpa using hx

/-- An index that is deleted has not been made since the look at the generations. -/
theorem not_made_since (ht : t₂ = p ++ .client u :: q) (hdeletes : u.exchange.Deletes i) :
    ∀ x ∈ ownDialogue p, ¬ x.Creates i := by
  obtain ⟨hl, hparted⟩ := h.leads_to_deletion ht
  have hmem : u.exchange ∈ clientDialogue t₂ := by simp [ht]
  have horphaned := h.orphaned i (h.deletes.mem_of_deletes hmem hdeletes)
  have honce := h.deletes_once ht hdeletes
  intro x hx hcreates
  obtain ⟨p₁, w, p₂, rfl, rfl⟩ := exists_own_of_mem hx
  change Parted ((.client v :: p₁) ++ .own w :: p₂) at hparted
  change Leads _ _ _ (((.client v :: p₁) ++ .own w :: p₂).map Step.turn) _ at hl
  obtain ⟨hl₁, ha, -⟩ := leads_at.1 hl
  have hthere : w.before.store.contains i = true := by
    refine hparted.left.contains hl₁ (fun y hy => ?_) horphaned.1
    rw [clientDialogue_client] at hy
    rcases List.mem_cons.1 hy with rfl | hy
    · exact h.lists_only
    · exact honce y (by simp [hy])
  have hnew : w.before.store.contains i = false := ha.absent_of_creates (x := w.exchange) hcreates
  rw [hnew] at hthere
  cases hthere

theorem first : BoundFirst a (t₁ ++ .client v :: t₂) := by
  intro p y q ht i hdeletes hcarries
  obtain ⟨u, p₂, rfl, rfl, ht₂⟩ := h.deleted_behind ht hdeletes
  obtain ⟨x, hx, hbinds⟩ := h.bound_since ht₂ hdeletes hcarries
  exact ⟨x, by simp [hx], hbinds⟩

theorem lists_once (ht : t₁ ++ .client v :: t₂ = p ++ .client u :: q)
    (hu : ∃ pattern, u.call = .getIndices pattern) : t₁ = p ∧ v = u ∧ t₂ = q := by
  obtain ⟨pattern, hu⟩ := hu
  have hbefore : .client u ∉ t₁ := by
    intro hmem
    obtain ⟨b, hlooks⟩ := h.looks u.exchange (mem_clientDialogue.2 ⟨u, hmem, rfl⟩)
    cases hu.symm.trans hlooks
  have hbehind : .client u ∉ t₂ := by
    intro hmem
    obtain ⟨j, -, hdeletes⟩ := h.deletes.call_eq (mem_clientDialogue.2 ⟨u, hmem, rfl⟩)
    cases hu.symm.trans hdeletes
  obtain ⟨hp, hv, hq⟩ := (List.append_cons_inj_of_notMem hbefore hbehind).1 ht
  exact ⟨hp, Step.client.inj hv, hq⟩

/-- Every orphan is deleted. -/
theorem exists_deletion (hi : i ∈ orphans) :
    ∃ p u q, t₂ = p ++ .client u :: q ∧ u.exchange.Deletes i := by
  obtain ⟨-, hlist, hl⟩ := leads_at.1 h.leads
  have hthere : ∀ i ∈ orphans, v.after.store.contains i = true := by
    intro i hi
    have hbare := (h.parted.client v.exchange (by simp)).1
    exact (hlist.contains_iff (x := v.exchange) (by decide) hbare).2
      (.inr ⟨(h.orphaned i hi).1, h.lists_only⟩)
  obtain ⟨x, hx, hdeletes⟩ := h.deletes.exists_deletes rfl h.nodup hl
    (fun x hx => h.own x (by simp [hx])) hthere i hi
  obtain ⟨p, u, q, rfl, rfl⟩ := exists_client_of_mem hx
  exact ⟨p, u, q, rfl, hdeletes⟩

end SweepsAt

section

variable {t : List Step}

/-- A client that has only looked at an alias has done nothing else. -/
theorem parted_of_looks {b : String} {o : (EngineCall.getAlias b).Outcome}
    (h : clientDialogue t = [⟨.getAlias b, o⟩])
    (hown : ∀ x ∈ ownDialogue t, x.1.MakesBare ∧ ∀ i, ¬ x.Deletes i) : Parted t := by
  refine ⟨hown, ?_⟩
  rw [h, List.forall_mem_singleton]
  exact ⟨.intro, fun _ _ => ⟨id, id, id⟩⟩

theorem deletes_nothing_of_looks {b : String} {o : (EngineCall.getAlias b).Outcome}
    (h : clientDialogue t = [⟨.getAlias b, o⟩])
    (hown : ∀ x ∈ ownDialogue t, x.1.MakesBare ∧ ∀ i, ¬ x.Deletes i) :
    ∀ y ∈ t, ∀ i, ¬ y.turn.exchange.Deletes i := by
  intro y hy i
  obtain u | u := y
  · exact (hown u.exchange (mem_ownDialogue.2 ⟨u, hy, rfl⟩)).2 i
  · have hu := mem_clientDialogue.2 ⟨u, hy, rfl⟩
    rw [h, List.mem_singleton] at hu
    intro hdeletes
    cases (congrArg (·.1) hu).symm.trans hdeletes.call_eq

end

end SiteSearch
