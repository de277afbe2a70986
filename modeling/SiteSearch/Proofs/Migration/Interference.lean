import SiteSearch.Proofs.Alias.Sweeping
import SiteSearch.Proofs.Migration.Rebinding

/-!
# A sweep during a move

A move makes its new index first and binds it later. To a sweep that looks at the generations in
between, the new index is an orphan, and it is deleted when it has been bound. So the sweep takes an
index from the alias in just that case (`RunsBeside.sweep_harms_iff`).
-/

namespace SiteSearch

/-- The client looks at the generations when the operation has made an index which it has yet to bind. -/
def ListsBetween (a : String) (t : List Step) : Prop :=
  ∃ t₁ u t₂ i, t = t₁ ++ .client u :: t₂ ∧ (∃ pattern, u.call = .getIndices pattern) ∧
    (∃ x ∈ ownDialogue t₁, x.Creates i) ∧ ∃ x ∈ ownDialogue t₂, x.Binds i a

section

variable {t t' : List Step} {m s : Memory} {i a : String}

/-- Where no call may go wrong, an index that carries an alias is deleted where that is asked for. -/
theorem Leads.deletes_of_carries (hl : Leads Memory.answer .none m (t.map Step.turn) s) {y : Step}
    (hy : y ∈ t) (hcall : y.turn.call = .deleteIndex i) (hi : y.turn.before.store.Carries i a) :
    y.turn.exchange.Deletes i := by
  obtain ⟨p, q, rfl⟩ := List.append_of_mem hy
  obtain ⟨-, ha, -⟩ := leads_at.1 hl
  generalize y.turn = u at *
  obtain ⟨c, o, s, s'⟩ := u
  obtain rfl : c = .deleteIndex i := hcall
  exact ha.deletes_of_contains hi.contains

/-- An index keeps the alias where the operation does not touch that. -/
theorem Parted.kept (h : Parted t) (hl : Leads Memory.answer .none m (t.map Step.turn) s)
    (hfirst : BoundFirst a t) (hown : ∀ x ∈ ownDialogue t, ¬ x.Binds i a ∧ ¬ x.Unbinds i a)
    (hi : m.store.Carries i a) : s.store.Carries i a := by
  by_contra hlost
  obtain ⟨y, hy, hdeletes, hcarries⟩ :=
    h.exists_deletes_of_lost hl (fun x hx => (hown x hx).2) hi hlost
  obtain ⟨p, q, rfl⟩ := List.append_of_mem hy
  obtain ⟨x, hx, hbinds⟩ := hfirst p y q rfl i hdeletes hcarries
  exact (hown x (by simp [hx])).1 hbinds

end

/-- A shared run of a reindex that binds its new index. -/
structure RebindsBeside (move : Move) (m : Memory) (t : List Step) (m' : Memory) : Prop where
  leads : Leads Memory.answer .none m (t.map Step.turn) m'
  parted : Parted t
  first : BoundFirst move.aliasName t
  rebinds : move.Rebinds (ownDialogue t)

namespace RebindsBeside

variable {move : Move} {m m' s : Memory} {t p q : List Step} {w : Turn Memory} {x : Exchange}
  {i b : String} (h : RebindsBeside move m t m')

include h

theorem at_bind (ht : t = p ++ .own w :: q) (hw : w.exchange.Binds i b) :
    i = move.newIndex ∧ b = move.aliasName ∧ move.Cut (ownDialogue p) (ownDialogue q) := by
  subst ht
  have hrebinds := h.rebinds
  rw [ownDialogue_append, ownDialogue_own] at hrebinds
  exact hrebinds.at_bind hw

/-- The turn in which the new index is bound. -/
theorem exists_bind : ∃ p w q, t = p ++ .own w :: q ∧
    w.exchange.Binds move.newIndex move.aliasName ∧ move.Cut (ownDialogue p) (ownDialogue q) := by
  obtain ⟨x, hx, hbinds⟩ := h.rebinds.binds
  obtain ⟨p, w, q, ht, rfl⟩ := exists_own_of_mem hx
  exact ⟨p, w, q, ht, hbinds, (h.at_bind ht hbinds).2.2⟩

theorem eq_new_of_binds (hx : x ∈ ownDialogue t) (hbinds : x.Binds i b) :
    i = move.newIndex ∧ b = move.aliasName := by
  obtain ⟨p, w, q, ht, rfl⟩ := exists_own_of_mem hx
  obtain ⟨hi, hb, -⟩ := h.at_bind ht hbinds
  exact ⟨hi, hb⟩

theorem eq_old_of_unbinds (hx : x ∈ ownDialogue t) (hunbinds : x.Unbinds i b) :
    i = move.oldIndex := by
  obtain ⟨p, w, q, rfl, hbinds, hcut⟩ := h.exists_bind
  rw [ownDialogue_append, ownDialogue_own, List.mem_append, List.mem_cons] at hx
  rcases hx with hx | rfl | hx
  · exact absurd hunbinds (hcut.before x hx i b).2
  · exact absurd hunbinds hbinds.not_unbinds
  · exact (hcut.behind x hx i b).2.2 hunbinds

/-- No index is made behind the new one. -/
theorem creates_once (ht : t = p ++ q) (hmade : ∃ x ∈ ownDialogue p, x.Creates i) :
    ∀ x ∈ ownDialogue q, ¬ x.Creates b := by
  obtain ⟨x, hx, hcreates⟩ := hmade
  obtain ⟨p₁, w, p₂, rfl, rfl⟩ := exists_own_of_mem hx
  have hrebinds := h.rebinds
  rw [ht, List.append_assoc, ownDialogue_append, List.cons_append, ownDialogue_own] at hrebinds
  exact fun y hy => (hrebinds.at_create hcreates).2 y (by simp [hy]) b

/-- The new index does not carry the alias at first. -/
theorem new_free : ¬ m.store.Carries move.newIndex move.aliasName := by
  intro hi
  obtain ⟨x, hx, hcreates⟩ := h.rebinds.creates
  obtain ⟨p, w, q, rfl, rfl⟩ := exists_own_of_mem hx
  have hrebinds := h.rebinds
  rw [ownDialogue_append, ownDialogue_own] at hrebinds
  obtain ⟨hstill, -⟩ := hrebinds.at_create hcreates
  obtain ⟨hl, ha, -⟩ := leads_at.1 h.leads
  have hkept := h.parted.left.kept hl h.first.left (fun x hx => (hstill x hx _ _).2.2) hi
  have hnew := ha.absent_of_creates (x := w.exchange) hcreates
  exact Bool.false_ne_true (hnew.symm.trans hkept.contains)

/-- The old index carries the alias at first. -/
theorem old_bound : m.store.Carries move.oldIndex move.aliasName := by
  obtain ⟨bound, d, hd, hold⟩ := h.rebinds.looked
  obtain ⟨p, s, s', q, rfl, hp, -⟩ := exists_own_of_dialogue (d := []) hd
  obtain ⟨hl, hlook : Answers Memory.answer .none (.getAlias _) s (.ok bound) s', -⟩ := leads_at.1 h.leads
  rw [hlook.bound_eq] at hold
  by_contra hfree
  refine h.parted.left.free hl (fun x hx => ?_) hfree (Store.mem_carriers.1 (mem_of_newestIndex? hold))
  rw [hp] at hx
  cases hx

theorem old_ne_new : move.oldIndex ≠ move.newIndex := by
  intro heq
  exact h.new_free (heq ▸ h.old_bound)

/-- Until it is unbound, an index that has carried the alias at first still carries it. -/
theorem held (ht : t = p ++ q) (hl : Leads Memory.answer .none m (p.map Step.turn) s)
    (hown : ∀ x ∈ ownDialogue p, ¬ x.Unbinds i move.aliasName) (hi : m.store.Carries i move.aliasName) :
    s.store.Carries i move.aliasName := by
  subst ht
  refine h.parted.left.kept hl h.first.left (fun x hx => ⟨fun hbinds => ?_, hown x hx⟩) hi
  obtain ⟨rfl, -⟩ := h.eq_new_of_binds (by simp [hx]) hbinds
  exact h.new_free hi

/-- Once it is bound, the new index loses the alias only where it is deleted. -/
theorem exists_deletes_new (ht : t = p ++ q) (hl : Leads Memory.answer .none m (p.map Step.turn) s)
    (hbound : ∃ x ∈ ownDialogue p, x.Binds move.newIndex move.aliasName)
    (hlost : ¬ s.store.Carries move.newIndex move.aliasName) :
    ∃ y ∈ t, y.turn.exchange.Deletes move.newIndex ∧
      y.turn.before.store.Carries move.newIndex move.aliasName := by
  obtain ⟨x, hx, hbinds⟩ := hbound
  obtain ⟨p₁, w, p₂, rfl, rfl⟩ := exists_own_of_mem hx
  obtain ⟨-, -, hcut⟩ := h.at_bind (p := p₁) (q := p₂ ++ q) (by simp [ht]) hbinds
  subst ht
  obtain ⟨-, ha, hl⟩ := leads_at.1 hl
  have hparted : Parted (.own w :: p₂) := h.parted.left.right
  have hbound : w.after.store.Carries move.newIndex move.aliasName :=
    (ha.carries_iff (x := w.exchange) (by decide) (hparted.own w.exchange (by simp)).1).2 (.inl hbinds)
  have hkept : ∀ x ∈ ownDialogue p₂, ¬ x.Unbinds move.newIndex move.aliasName := by
    intro x hx hunbinds
    exact h.old_ne_new ((hcut.behind x (by simp [hx]) _ _).2.2 hunbinds).symm
  obtain ⟨y, hy, hdeletes, hcarries⟩ :=
    (Parted.right (t := [_]) hparted).exists_deletes_of_lost hl hkept hbound hlost
  exact ⟨y, by simp [hy], hdeletes, hcarries⟩

/-- Where the alias is lost, its only index has been unbound, and the new one deleted. -/
theorem lost (ht : t = p ++ q) (hl : Leads Memory.answer .none m (p.map Step.turn) s)
    (hlost : ∀ i, ¬ s.store.Carries i move.aliasName) :
    (∀ j, m.store.Carries j move.aliasName ↔ j = move.oldIndex) ∧
      ∃ y ∈ t, y.turn.exchange.Deletes move.newIndex ∧
        y.turn.before.store.Carries move.newIndex move.aliasName := by
  constructor
  · refine fun j => ⟨fun hj => ?_, fun hj => hj ▸ h.old_bound⟩
    by_contra hne
    refine hlost j (h.held ht hl (fun x hx hunbinds => hne ?_) hj)
    exact h.eq_old_of_unbinds (by simp [ht, hx]) hunbinds
  · obtain ⟨x, hx, hunbinds⟩ :
        ∃ x ∈ ownDialogue p, x.Unbinds move.oldIndex move.aliasName := by
      by_contra hnone
      exact hlost _ (h.held ht hl (fun x hx hunbinds => hnone ⟨x, hx, hunbinds⟩) h.old_bound)
    refine h.exists_deletes_new ht hl ?_ (hlost _)
    obtain ⟨y, hy, hbinds⟩ := h.rebinds.binds
    rw [ht, ownDialogue_append, List.mem_append] at hy
    rcases hy with hy | hy
    · exact ⟨y, hy, hbinds⟩
    · obtain ⟨q₁, w, q₂, rfl, rfl⟩ := exists_own_of_mem hy
      obtain ⟨-, -, hcut⟩ := h.at_bind (p := p ++ q₁) (q := q₂) (by simp [ht]) hbinds
      exact absurd hunbinds (hcut.before x (by simp [hx]) _ _).2

/-- Where the alias has one index and the new index is deleted while it is bound, the alias is lost. -/
theorem lost_of_deletes (hsingle : m.store.carriers move.aliasName = [i]) {y : Step} (hy : y ∈ t)
    (hdeletes : y.turn.exchange.Deletes move.newIndex)
    (hcarries : y.turn.before.store.Carries move.newIndex move.aliasName) :
    ∀ j, ¬ m'.store.Carries j move.aliasName := by
  have hfinal : ∀ {p q : List Step} {y : Step} {j : String}, t = p ++ y :: q →
      (∀ x ∈ ownDialogue q, ¬ x.Binds j move.aliasName) →
      ¬ y.turn.after.store.Carries j move.aliasName → ¬ m'.store.Carries j move.aliasName := by
    rintro p q y j rfl hq hfree
    obtain ⟨-, -, hl⟩ := leads_at.1 h.leads
    exact (Parted.right (t := p ++ [y]) (by simpa using h.parted)).free hl hq hfree
  intro j
  by_cases hold : j = move.oldIndex
  · obtain ⟨p, w, q, rfl, -, hcut⟩ := h.exists_bind
    obtain ⟨o, ho⟩ := hcut.unbinds
    obtain ⟨z, hz, hunbind⟩ := mem_ownDialogue.1 ho
    obtain ⟨q₁, q₂, rfl⟩ := List.append_of_mem hz
    have ht : p ++ .own w :: (q₁ ++ .own z :: q₂) = (p ++ .own w :: q₁) ++ .own z :: q₂ := by simp
    refine hfinal ht (fun x hx => (hcut.behind x (by simp [hx]) _ _).2.1) ?_
    obtain ⟨-, ha, -⟩ := leads_at.1 (ht ▸ h.leads)
    obtain ⟨c, o, s, s'⟩ := z
    cases hunbind
    rw [hold]
    exact Answers.free_of_deleteAlias ha
  by_cases hnew : j = move.newIndex
  · obtain ⟨p, q, ht⟩ := List.append_of_mem hy
    obtain ⟨x, hx, hbinds⟩ := h.first p y q ht _ hdeletes hcarries
    obtain ⟨p₁, w, p₂, rfl, rfl⟩ := exists_own_of_mem hx
    obtain ⟨-, -, hcut⟩ := h.at_bind (p := p₁) (q := p₂ ++ y :: q) (by simp [ht]) hbinds
    refine hfinal ht (fun x hx => (hcut.behind x ?_ _ _).2.1) ?_
    · cases y <;> simp [hx]
    · obtain ⟨-, ha, -⟩ := leads_at.1 (ht ▸ h.leads)
      have hgone := ha.absent_of_deletes (x := y.turn.exchange) hdeletes
      rw [hnew]
      exact fun hstill => Bool.false_ne_true (hgone.symm.trans hstill.contains)
  · refine h.parted.free h.leads (fun x hx hbinds => hnew (h.eq_new_of_binds hx hbinds).1) ?_
    rw [Store.carriers_eq_singleton] at hsingle
    rw [hsingle, ← (hsingle _).1 h.old_bound]
    exact hold

/-- What a client does to the alias, where it deletes what it has listed in between. -/
theorem harmed_iff
    (hdeletes : ∀ y ∈ t, ∀ i, y.turn.exchange.Deletes i →
      y.turn.before.store.Carries i move.aliasName → ListsBetween move.aliasName t)
    (hlists : ListsBetween move.aliasName t → ∃ y ∈ t, y.turn.exchange.Deletes move.newIndex ∧
      y.turn.before.store.Carries move.newIndex move.aliasName) :
    ((∃ y ∈ t, ∃ i, y.turn.call = .deleteIndex i ∧ y.turn.before.store.Carries i move.aliasName) ↔
        ListsBetween move.aliasName t) ∧
      ((∃ y ∈ t, y.turn.after.store.aliasExists move.aliasName = false) ↔
        ListsBetween move.aliasName t ∧ ∃ i, m.store.carriers move.aliasName = [i]) := by
  refine ⟨⟨?_, fun hbetween => ?_⟩, ⟨?_, ?_⟩⟩
  · rintro ⟨y, hy, i, hcall, hcarries⟩
    exact hdeletes y hy i (h.leads.deletes_of_carries hy hcall hcarries) hcarries
  · obtain ⟨y, hy, hdeletes, hcarries⟩ := hlists hbetween
    exact ⟨y, hy, _, hdeletes.call_eq, hcarries⟩
  · rintro ⟨y, hy, hlost⟩
    obtain ⟨p, q, ht⟩ := List.append_of_mem hy
    obtain ⟨hl, ha, -⟩ := leads_at.1 (ht ▸ h.leads)
    have hl : Leads Memory.answer .none m ((p ++ [y]).map Step.turn) y.turn.after :=
      leads_at.2 ⟨hl, ha, rfl⟩
    obtain ⟨hsingle, z, hz, hdeletes', hcarries⟩ :=
      h.lost (q := q) (by simp [ht]) hl (Store.aliasExists_eq_false.1 hlost)
    exact ⟨hdeletes z hz _ hdeletes' hcarries, _, Store.carriers_eq_singleton.2 hsingle⟩
  · rintro ⟨hbetween, i, hsingle⟩
    obtain ⟨y, hy, hdeletes, hcarries⟩ := hlists hbetween
    have hlost := h.lost_of_deletes hsingle hy hdeletes hcarries
    rcases h.leads.last_eq with rfl | ⟨u, hu, rfl⟩
    · exact absurd h.old_bound (hlost _)
    · obtain ⟨z, hz, rfl⟩ := List.mem_map.1 hu
      exact ⟨z, hz, Store.aliasExists_eq_false.2 hlost⟩

end RebindsBeside

namespace SweepsAt

variable {move : Move} {m m' : Memory} {t₁ t₂ p q : List Step} {v u : Turn Memory} {i : String}
  {orphans : List String} (h : SweepsAt move.aliasName m t₁ v t₂ m' orphans)

include h

variable (hmove : RebindsBeside move m (t₁ ++ .client v :: t₂) m')

include hmove

/-- Where a bound index is deleted, it has been made before the look at the generations, and bound
behind that. -/
theorem listed_between {y : Step} (hy : y ∈ t₁ ++ .client v :: t₂)
    (hdeletes : y.turn.exchange.Deletes i) (hcarries : y.turn.before.store.Carries i move.aliasName) :
    ListsBetween move.aliasName (t₁ ++ .client v :: t₂) := by
  obtain ⟨p, q, ht⟩ := List.append_of_mem hy
  obtain ⟨u, p₂, rfl, rfl, rfl⟩ := h.deleted_behind ht hdeletes
  obtain ⟨x, hx, hbinds⟩ := h.bound_since rfl hdeletes hcarries
  obtain ⟨p₃, w, p₄, rfl, rfl⟩ := exists_own_of_mem hx
  obtain ⟨rfl, -, hcut⟩ := hmove.at_bind (p := t₁ ++ .client v :: p₃)
    (q := p₄ ++ .client u :: q) (by simp) hbinds
  obtain ⟨z, hz, hcreates⟩ := hcut.made
  refine ⟨t₁, v, _, move.newIndex, rfl, h.lists, ⟨z, ?_, hcreates⟩, w.exchange, by simp, hbinds⟩
  rw [ownDialogue_append, ownDialogue_client, List.mem_append] at hz
  rcases hz with hz | hz
  · exact hz
  · exact absurd hcreates (h.not_made_since rfl hdeletes z (by simp [hz]))

/-- An index that is made before the look at the generations and bound behind that is an orphan then. -/
theorem mem_orphans (hgeneration : IsGeneration move.aliasName move.newIndex)
    (hmade : ∃ x ∈ ownDialogue t₁, x.Creates move.newIndex)
    (hunbound : ∀ x ∈ ownDialogue t₁, ¬ x.Binds move.newIndex move.aliasName) :
    move.newIndex ∈ orphans := by
  have hfree : ∀ {p q : List Step} {s : Memory}, t₁ = p ++ q →
      Leads Memory.answer .none m (p.map Step.turn) s → ¬ s.store.Carries move.newIndex move.aliasName := by
    rintro p q s rfl hl
    exact hmove.parted.left.left.free hl (fun x hx => hunbound x (by simp [hx])) hmove.new_free
  obtain ⟨hl, -, -⟩ := leads_at.1 hmove.leads
  refine h.complete _ ⟨?_, hgeneration, hfree (List.append_nil _).symm hl⟩ fun y hy => ?_
  · obtain ⟨x, hx, hcreates⟩ := hmade
    obtain ⟨p, w, q, rfl, rfl⟩ := exists_own_of_mem hx
    obtain ⟨-, ha, hl⟩ := leads_at.1 hl
    have hparted : Parted (.own w :: q) := hmove.parted.left.right
    have hthere : w.after.store.contains move.newIndex = true :=
      (ha.contains_iff (x := w.exchange) (by decide) (hparted.own _ (by simp)).1).2 (.inl hcreates)
    refine (Parted.right (t := [_]) hparted).contains hl (fun x hx hdeletes => ?_) hthere
    obtain ⟨b, hlooks⟩ := h.looks x (by simp [hx])
    cases hlooks.symm.trans hdeletes.call_eq
  · obtain ⟨p, q, rfl⟩ := List.append_of_mem hy
    exact hfree rfl (leads_at.1 hl).1

/-- Then it is deleted while it is bound. -/
theorem deletes_new (hgeneration : IsGeneration move.aliasName move.newIndex)
    (hbetween : ListsBetween move.aliasName (t₁ ++ .client v :: t₂)) :
    ∃ y ∈ t₁ ++ .client v :: t₂, y.turn.exchange.Deletes move.newIndex ∧
      y.turn.before.store.Carries move.newIndex move.aliasName := by
  obtain ⟨p, u, q, i, ht, hu, ⟨x, hx, hcreates⟩, y, hy, hbinds⟩ := hbetween
  obtain ⟨rfl, rfl, rfl⟩ := h.lists_once ht hu
  obtain ⟨rfl, -⟩ := hmove.eq_new_of_binds (by simp [hy]) hbinds
  have hunbound : ∀ z ∈ ownDialogue t₁, ¬ z.Binds move.newIndex move.aliasName := by
    obtain ⟨q₁, w, q₂, rfl, rfl⟩ := exists_own_of_mem hy
    obtain ⟨-, -, hcut⟩ := hmove.at_bind (p := t₁ ++ .client v :: q₁) (q := q₂) (by simp) hbinds
    exact fun z hz => (hcut.before z (by simp [hz]) _ _).1
  have horphan := h.mem_orphans hmove hgeneration ⟨x, hx, hcreates⟩ hunbound
  obtain ⟨p, u, q, rfl, hdeletes⟩ := h.exists_deletion horphan
  have ht : t₁ ++ .client v :: (p ++ .client u :: q) = (t₁ ++ .client v :: p) ++ .client u :: q := by
    simp
  obtain ⟨hl₁, ha, hl₂⟩ := leads_at.1 (ht ▸ h.leads)
  have hgone : u.after.store.contains move.newIndex = false :=
    ha.absent_of_deletes (x := u.exchange) hdeletes
  rw [ownDialogue_append, ownDialogue_client, List.mem_append] at hy
  rcases hy with hy | hy
  · refine hmove.exists_deletes_new (p := (t₁ ++ .client v :: p) ++ [.client u]) (q := q) (s := u.after)
      (by simp) ?_ ⟨y, by simp [hy], hbinds⟩ ?_
    · exact leads_at.2 ⟨hl₁, ha, rfl⟩
    · exact fun hstill => Bool.false_ne_true (hgone.symm.trans hstill.contains)
  · -- the index would not be there any more when it is bound
    obtain ⟨q₁, w, q₂, rfl, rfl⟩ := exists_own_of_mem hy
    obtain ⟨hl₃, hbind, -⟩ := leads_at.1 hl₂
    have hparted : Parted (((t₁ ++ .client v :: p) ++ [.client u]) ++ (q₁ ++ .own w :: q₂)) := by
      simpa using h.parted
    have hparted := hparted.right.left
    have hgone := hparted.absent hl₃ (fun z hz => ?_) hgone
    · have hthere := hbind.contains_of_binds (x := w.exchange) hbinds
      exact absurd (hgone.symm.trans hthere) Bool.false_ne_true
    · exact hmove.creates_once (p := t₁) rfl ⟨x, hx, hcreates⟩ z (by simp [hz])

end SweepsAt

/-! ## A reindex and a sweep -/

section

variable {service service' : Service} {key : CollectionKey} {m m' : Memory} {t : List Step}

theorem not_listsBetween_of_looks {a b : String} {o : (EngineCall.getAlias b).Outcome}
    (h : clientDialogue t = [⟨.getAlias b, o⟩]) : ¬ ListsBetween a t := by
  rintro ⟨t₁, u, t₂, i, rfl, ⟨pattern, hcall⟩, -⟩
  have hu : u.exchange ∈ clientDialogue (t₁ ++ .client u :: t₂) := by simp
  rw [h, List.mem_singleton] at hu
  cases hcall.symm.trans (congrArg (·.1) hu)

/-- Where the operation binds and unbinds nothing, the alias stays bound. -/
theorem Parted.safe {a : String} (h : Parted t) (hl : Leads Memory.answer .none m (t.map Step.turn) m')
    (hfirst : BoundFirst a t) (hown : ∀ x ∈ ownDialogue t, x.Leaves)
    (hbound : m.store.aliasExists a = true) :
    ((∃ y ∈ t, ∃ i, y.turn.call = .deleteIndex i ∧ y.turn.before.store.Carries i a) ↔
        ListsBetween a t) ∧
      ((∃ y ∈ t, y.turn.after.store.aliasExists a = false) ↔
        ListsBetween a t ∧ ∃ i, m.store.carriers a = [i]) := by
  have hbetween : ¬ ListsBetween a t := by
    rintro ⟨t₁, u, t₂, i, rfl, -, -, x, hx, hbinds⟩
    exact (hown x (by simp [hx]) _ _).2.1 hbinds
  refine ⟨iff_of_false ?_ hbetween, iff_of_false ?_ fun h => hbetween h.1⟩
  · rintro ⟨y, hy, i, hcall, hcarries⟩
    obtain ⟨p, q, rfl⟩ := List.append_of_mem hy
    obtain ⟨x, hx, hbinds⟩ := hfirst p y q rfl i (hl.deletes_of_carries hy hcall hcarries) hcarries
    exact (hown x (by simp [hx]) _ _).2.1 hbinds
  · rintro ⟨y, hy, hlost⟩
    obtain ⟨i, hi⟩ := Store.aliasExists_iff.1 hbound
    obtain ⟨p, q, ht⟩ := List.append_of_mem hy
    have ht : t = (p ++ [y]) ++ q := by simp [ht]
    subst ht
    obtain ⟨hl, ha, -⟩ := leads_at.1 (by simpa using hl)
    refine Store.aliasExists_eq_false.1 hlost i (h.left.kept (leads_at.2 ⟨hl, ha, rfl⟩) hfirst.left ?_ hi)
    intro x hx
    rw [ownDialogue_append] at hown
    exact (hown x (List.mem_append_left _ hx) _ _).2

/-- A sweep beside a reindex deletes an index that the alias is bound to where it looks at the
generations between the making and the binding of the new index, and only then. The alias is then bound
to no index at some time where it has been bound to a single one, and only then. -/
theorem RunsBeside.sweep_harms_iff {r : Except ServiceError ReindexReport}
    {r' : Except ServiceError (List String)}
    (h : RunsBeside .none (Operation.reindex key) (Operation.deleteOrphaned key) service service' m t
      r r' m')
    (hnames : service'.indexNames = service.indexNames)
    (hbound : m.store.aliasExists (service.aliasName key) = true) :
    ((∃ y ∈ t, ∃ i, y.turn.call = .deleteIndex i ∧
          y.turn.before.store.Carries i (service.aliasName key)) ↔
        ListsBetween (service.aliasName key) t) ∧
      ((∃ y ∈ t, y.turn.after.store.aliasExists (service.aliasName key) = false) ↔
        ListsBetween (service.aliasName key) t ∧
          ∃ i, m.store.carriers (service.aliasName key) = [i]) := by
  obtain ⟨_, hown⟩ := h.own
  have hspares := hown.reindex_spares
  have hsweeps := h.sweeps hspares
  rw [Service.aliasName_congr hnames] at hsweeps
  have hparted : Parted t ∧ BoundFirst (service.aliasName key) t := by
    obtain ⟨b, o, hclient⟩ | ⟨t₁, v, t₂, orphans, rfl, hsweep⟩ := hsweeps
    · refine ⟨parted_of_looks hclient hspares, fun p y q ht i hdeletes => ?_⟩
      exact absurd hdeletes (deletes_nothing_of_looks hclient hspares y (by simp [ht]) i)
    · exact ⟨hsweep.parted, hsweep.first⟩
  obtain ⟨hparted, hfirst⟩ := hparted
  obtain hleaves | ⟨move, hmove, hrebinds⟩ := hown.reindex_rebinds
  · exact hparted.safe h.leads hfirst hleaves hbound
  rw [← hmove.alias_eq] at hsweeps hfirst ⊢
  have hmoves : RebindsBeside move m t m' := ⟨h.leads, hparted, hfirst, hrebinds⟩
  obtain ⟨b, o, hclient⟩ | ⟨t₁, v, t₂, orphans, rfl, hsweep⟩ := hsweeps
  · refine hmoves.harmed_iff (fun y hy i hdeletes => ?_) fun hbetween => ?_
    · exact absurd hdeletes (deletes_nothing_of_looks hclient hspares y hy i)
    · exact absurd hbetween (not_listsBetween_of_looks hclient)
  · exact hmoves.harmed_iff (fun y hy i => hsweep.listed_between hmoves hy)
      (hsweep.deletes_new hmoves hmove.generation)

/-- Beside a sweep that has looked at the generations before the new index is made, the alias stays
bound, and what is deleted is an index that an earlier reindex has left behind. -/
theorem RunsBeside.sweep_harmless_before_making :
    let script :=
      [(Request.ensureExists .english, []),
        (.reindex .english, List.replicate 5 .heard ++ [Cue.unperformed (.backend "out of memory")])]
    let m := ((World.empty .plain).rehearse script).2.memory
    let run := (Operation.reindex .english).rehearseBeside (Operation.deleteOrphaned .english)
      [true, true, false, false] .plain .plain m
    run.2.1.2 = .ok ["craftcms_en_1700000001"] ∧
      run.2.2.store.carriers (Service.plain.aliasName .english) = ["craftcms_en_1700000002"] ∧
      (∀ y ∈ run.1, y.turn.after.store.aliasExists (Service.plain.aliasName .english) = true) ∧
      ¬ ListsBetween (Service.plain.aliasName .english) run.1 ∧
      ¬ ∃ y ∈ run.1, ∃ i, y.turn.call = .deleteIndex i ∧
        y.turn.before.store.Carries i (Service.plain.aliasName .english) := by
  intro script m run
  have hresult : run.2.1.2 = .ok ["craftcms_en_1700000001"] := by decide +kernel
  have hbound : run.2.2.store.carriers (Service.plain.aliasName .english) =
      ["craftcms_en_1700000002"] := by decide +kernel
  have halways : ∀ y ∈ run.1,
      y.turn.after.store.aliasExists (Service.plain.aliasName .english) = true := by decide +kernel
  have hsingle : m.store.carriers (Service.plain.aliasName .english) =
      ["craftcms_en_1700000000"] := by decide +kernel
  have hrun : RunsBeside .none (Operation.reindex .english) (Operation.deleteOrphaned .english) .plain
      .plain m run.1 run.2.1.1 run.2.1.2 run.2.2 := Operation.runsBeside_rehearse
  clear_value run m
  obtain ⟨hdeletes, hlost⟩ := RunsBeside.sweep_harms_iff hrun rfl
    (Store.aliasExists_iff.2 ⟨_, (Store.carriers_eq_singleton.1 hsingle _).2 rfl⟩)
  have hbetween : ¬ ListsBetween (Service.plain.aliasName .english) run.1 := by
    intro hbetween
    obtain ⟨y, hy, hfree⟩ := hlost.2 ⟨hbetween, _, hsingle⟩
    exact Bool.false_ne_true (hfree.symm.trans (halways y hy))
  exact ⟨hresult, hbound, halways, hbetween, fun h => hbetween (hdeletes.1 h)⟩

/-- Where the sweep looks at the generations once the new index is made, both succeed, and the alias is
bound to no index in the end: the new index has been deleted when it had just been bound. -/
theorem alias_lost_beside_sweep :
    let m := ((World.empty .plain).rehearse [(Request.ensureExists .english, [])]).2.memory
    let run := (Operation.reindex .english).rehearseBeside (Operation.deleteOrphaned .english)
      [true, true, true, false, false] .plain .plain m
    let report : ReindexReport :=
      { aliasName := "craftcms_en", oldIndex := "craftcms_en_1700000000",
        newIndex := "craftcms_en_1700000001", total := 0, took := 0 }
    RunsBeside .none (Operation.reindex .english) (Operation.deleteOrphaned .english) .plain .plain m
        run.1 (.ok report) (.ok ["craftcms_en_1700000001"]) run.2.2 ∧
      m.store.carriers "craftcms_en" = ["craftcms_en_1700000000"] ∧
      (∃ y ∈ run.1, y.turn.call = .deleteIndex "craftcms_en_1700000001" ∧
        y.turn.before.store.carriers "craftcms_en" = ["craftcms_en_1700000001"]) ∧
      run.2.2.store.aliasExists "craftcms_en" = false := by
  intro m run report
  have hresults : run.2.1 = (.ok report, .ok ["craftcms_en_1700000001"]) := by decide +kernel
  have hrun : RunsBeside .none (Operation.reindex .english) (Operation.deleteOrphaned .english) .plain
      .plain m run.1 run.2.1.1 run.2.1.2 run.2.2 := Operation.runsBeside_rehearse
  rw [hresults] at hrun
  exact ⟨hrun, by decide +kernel, by decide +kernel, by decide +kernel⟩

end

end SiteSearch

