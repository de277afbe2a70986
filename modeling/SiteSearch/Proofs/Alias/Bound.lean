import SiteSearch.Proofs.Alias.Orphans
import SiteSearch.Proofs.Alias.Ownership
import SiteSearch.Proofs.Migration.Opening
import SiteSearch.Proofs.Service.Making

/-!
# An alias stays bound

Once a collection has been made, its alias is bound in every later state of the engine, between any
two calls as well, until the collection is deleted: `History.aliasExists_of_made`. Any call may fail
on the way, whether or not the engine has performed it.

Most calls take nothing from any alias, and what is done for other collections takes nothing from
this one. That leaves two operations. A move unbinds the old index only after the new one is bound
(`Operation.Runs.reindex_keeps`), and a sweep deletes only what the alias is not bound to
(`Operation.Runs.deleteOrphaned_keeps`).
-/

namespace SiteSearch

variable {faults : Faults} {a i : String}

/-! ## An index that stays behind the alias -/

section

variable {s s' : Memory} {t : List (Turn Memory)}

/-- The alias is bound after each of some turns, and at their end. -/
def BoundThroughout (a : String) (t : List (Turn Memory)) (s' : Memory) : Prop :=
  (∀ u ∈ t, u.after.store.aliasExists a = true) ∧ s'.store.aliasExists a = true

theorem Leads.boundThroughout {P : Exchange → Prop} (hl : Leads Memory.answer faults s t s')
    (hstep : ∀ {x : Exchange} {store : Store}, P x → store.Carries i a → (store.after x.1).Carries i a)
    (ht : ∀ x ∈ t.map Turn.exchange, P x) (h : s.store.Carries i a) :
    BoundThroughout a t s' := by
  obtain ⟨hturns, hlast⟩ := hl.keeps_store (J := fun store => store.Carries i a) hstep ht h
  exact ⟨fun u hu => Store.aliasExists_iff.2 ⟨i, hturns u hu⟩, Store.aliasExists_iff.2 ⟨i, hlast⟩⟩

theorem Leads.boundThroughout_of_builds {b : String} (hl : Leads Memory.answer faults s t s')
    (ht : ∀ x ∈ t.map Turn.exchange, x.1.Builds b) (h : s.store.Carries i a) :
    BoundThroughout a t s' :=
  hl.boundThroughout (P := fun x => x.1.Builds b) (fun hx hc => hc.after_of_builds hx) ht h

/-- What is done for one collection leaves the alias of another bound. -/
theorem Leads.boundThroughout_of_tends {b : String} (hl : Leads Memory.answer faults s t s')
    (ht : ∀ x ∈ t.map Turn.exchange, x.1.Tends b) (hne : a ≠ b) (hi : IsGeneration a i)
    (h : s.store.Carries i a) : BoundThroughout a t s' :=
  hl.boundThroughout (P := fun x => x.1.Tends b) (fun hx hc => hc.after_of_tends hi hx hne) ht h

theorem BoundThroughout.append {t₁ t₂ : List (Turn Memory)} {s₁ : Memory}
    (h₁ : BoundThroughout a t₁ s₁) (h₂ : BoundThroughout a t₂ s') :
    BoundThroughout a (t₁ ++ t₂) s' := by
  refine ⟨fun u hu => ?_, h₂.2⟩
  rcases List.mem_append.1 hu with hu | hu
  · exact h₁.1 u hu
  · exact h₂.1 u hu

end

/-! ## Moving the alias -/

/-- While a move unbinds its old index, the new one stays bound. -/
theorem Move.carries_newIndex_after {m : Move} {x : Exchange} {store : Store}
    (hne : m.newIndex ≠ m.oldIndex) (hx : m.Guards x ∨ x.1 = m.unbind)
    (h : store.Carries m.newIndex m.aliasName) :
    (store.after x.1).Carries m.newIndex m.aliasName := by
  rcases hx with hx | hx
  · refine h.after_of_builds (a := m.aliasName) ?_
    cases hx <;> trivial
  · rw [hx]
    rcases store.after_cases m.unbind with heq | hok
    · rwa [heq]
    · refine (Store.carries_deleteAlias hok).2 ⟨?_, h⟩
      rintro ⟨heq, -⟩
      exact hne heq.symm

/-- A move either takes nothing away, or binds the new index before it does. -/
theorem Move.Goes.builds {m : Move} {d : List Exchange} {r : Except ServiceError ReindexReply}
    (h : m.Goes d r) (hnew : IsGeneration m.aliasName m.newIndex) :
    (∀ x ∈ d, x.1.Builds m.aliasName) ∨
    ∃ d₁ d₂, d = d₁ ++ ⟨m.bind, .ok ()⟩ :: d₂ ∧ (∀ x ∈ d₁, x.1.Builds m.aliasName) ∧
      ∀ x ∈ d₂, m.Guards x ∨ x.1 = m.unbind := by
  have hguards : ∀ {x}, m.Guards x → x.1.Builds m.aliasName := by
    intro x hx
    cases hx <;> trivial
  have hcopied : ∀ {d : List Exchange} {o : m.copy.Outcome}, (∀ x ∈ d, m.Guards x) →
      ∀ x ∈ d ++ [⟨m.copy, o⟩], x.1.Builds m.aliasName := by
    intro d o hd x hx
    rcases List.mem_append.1 hx with hx | hx
    · exact hguards (hd x hx)
    · rw [List.mem_singleton.1 hx]
      trivial
  have hunbinding : ∀ {d : List Exchange} {o : m.unbind.Outcome}, (∀ x ∈ d, m.Guards x) →
      ∀ x ∈ ⟨m.unbind, o⟩ :: d, m.Guards x ∨ x.1 = m.unbind := by
    intro d o hd x hx
    rcases List.mem_cons.1 hx with rfl | hx
    · exact .inr rfl
    · exact .inl (hd x hx)
  cases h with
  | halted hd =>
    refine .inl fun x hx => ?_
    cases hd x hx with
    | guards hx => exact hguards hx
    | copy => trivial
    | bind => exact ⟨hnew, rfl⟩
  | doubled h₁ h₂ =>
    exact .inr ⟨_ ++ [_], _ :: _, by rw [List.append_assoc]; rfl, hcopied h₁, hunbinding h₂⟩
  | moved h₁ h₂ =>
    exact .inr ⟨_ ++ [_], _ :: _, by rw [List.append_assoc]; rfl, hcopied h₁, hunbinding h₂⟩

theorem Operation.Runs.reindex_keeps {key : CollectionKey} {w w' : World} {t : List (Turn Memory)}
    {r : Except ServiceError ReindexReport} (h : (Operation.reindex key).Runs faults w t r w')
    (hbound : w.memory.store.Carries i (w.service.aliasName key)) :
    BoundThroughout (w.service.aliasName key) t w'.memory := by
  rcases h.opens with ⟨-, hscouts⟩ | ⟨m, u₁, u₂, u₃, t', r', service₁, hm, -, hnew, hne, rfl, hu₁,
    hu₂, hu₃, -, -, -, hmove, hl, -⟩
  · obtain ⟨-, hcalls, -⟩ := Operation.asksOnly_reindex _ key rfl h.1
    refine h.2.boundThroughout_of_builds (b := w.service.aliasName key) (fun x hx => ?_) hbound
    have htends := hcalls x hx
    cases hscouts x hx with
    | getAlias | getIndices => trivial
    | refused => exact htends
  rw [← hm.alias_eq] at hbound ⊢
  have hbound₃ : u₃.after.store.Carries i m.aliasName := by
    rw [hu₃, Store.carries_insert_new hnew]
    exact .inr hbound
  have hopened : BoundThroughout m.aliasName [u₁, u₂, u₃] u₃.after := by
    refine ⟨fun u hu => Store.aliasExists_iff.2 ⟨i, ?_⟩, Store.aliasExists_iff.2 ⟨i, hbound₃⟩⟩
    obtain rfl | rfl | rfl : u = u₁ ∨ u = u₂ ∨ u = u₃ := by simpa using hu
    · rwa [hu₁]
    · rwa [hu₂]
    · exact hbound₃
  show BoundThroughout m.aliasName ([u₁, u₂, u₃] ++ t') w'.memory
  refine hopened.append ?_
  rcases hmove.goes.builds hm.generation with hbuilds | ⟨d₁, d₂, hd, hbefore, hbehind⟩
  · exact hl.boundThroughout_of_builds hbuilds hbound₃
  obtain ⟨s₁, t₁, t₂, rfl, rfl, ht₂, hl₁, hl₂⟩ := hl.split hd
  obtain ⟨s₂, t₃, rfl, hbind, rfl, hl₃⟩ := hl₂.first ht₂
  have hnewbound : s₂.store.Carries m.newIndex m.aliasName :=
    (Store.carries_putAlias hbind.perform_of_ok).2 (.inl ⟨rfl, rfl⟩)
  have hrest : BoundThroughout m.aliasName t₃ w'.memory :=
    hl₃.boundThroughout (P := fun x => m.Guards x ∨ x.1 = m.unbind)
      (Move.carries_newIndex_after hne) hbehind hnewbound
  refine (hl₁.boundThroughout_of_builds hbefore hbound₃).append ⟨fun u hu => ?_, hrest.2⟩
  rcases List.mem_cons.1 hu with rfl | hu
  · exact Store.aliasExists_iff.2 ⟨m.newIndex, hnewbound⟩
  · exact hrest.1 u hu

/-! ## Sweeping -/

theorem Operation.Runs.deleteOrphaned_keeps {key : CollectionKey} {w w' : World}
    {t : List (Turn Memory)} {r : Except ServiceError (List String)}
    (h : (Operation.deleteOrphaned key).Runs faults w t r w')
    (hbound : w.memory.store.Carries i (w.service.aliasName key)) :
    BoundThroughout (w.service.aliasName key) t w'.memory := by
  obtain ⟨t₁, t₂, m, rfl, ht₁, hm, hl, hdeletes, -⟩ := h.sweeps
  have hstart : w.memory.store.aliasExists (w.service.aliasName key) = true :=
    Store.aliasExists_iff.2 ⟨i, hbound⟩
  have hlooked : BoundThroughout (w.service.aliasName key) t₁ m :=
    ⟨fun u hu => by rwa [ht₁ u hu], by rwa [hm]⟩
  refine hlooked.append (hl.boundThroughout (i := i)
    (P := fun x => ∃ name, x.1 = .deleteIndex name ∧ name ≠ i) ?_ (fun x hx => ?_) (by rwa [hm]))
  · rintro ⟨c, o⟩ store ⟨name, rfl, hne⟩ hcarries
    rcases store.after_cases (.deleteIndex name) with heq | hok
    · rwa [heq]
    · obtain ⟨-, heq⟩ := Store.deleteIndex_eq_ok.1 hok
      rw [heq, Store.carries_erase]
      exact ⟨hne, hcarries⟩
  · obtain ⟨name, hcall, -, -, hunbound⟩ := hdeletes x hx
    refine ⟨name, hcall, ?_⟩
    rintro rfl
    exact hunbound hbound

/-! ## Making the collection -/

/-- A collection that is made ends with its alias being found bound, or with its being bound. -/
theorem Operation.Says.ensureExists {key : CollectionKey} {service service' : Service}
    {d : List Exchange} {made : Bool}
    (h : (Operation.ensureExists key).Says service d (.ok made) service') :
    ∃ d' x, d = d' ++ [x] ∧ (x = ⟨.aliasExists (service.aliasName key), .ok true⟩ ∨
      ∃ index, x = ⟨.putAlias index (service.aliasName key), .ok ()⟩) := by
  obtain ⟨hnot, hfound, -, -⟩ | ⟨listed, found, o, -, rfl, hr, -⟩ := h.makes
  · cases made with
    | true => exact absurd rfl hnot
    | false =>
      obtain ⟨d', rfl⟩ := hfound rfl
      exact ⟨d', _, rfl, .inl rfl⟩
  · rcases o with e | _
    · cases hr
    · exact ⟨[_, _, _], _, rfl, .inr ⟨_, rfl⟩⟩

theorem Operation.Runs.ensureExists_binds {key : CollectionKey} {w w' : World}
    {t : List (Turn Memory)} {made : Bool}
    (h : (Operation.ensureExists key).Runs faults w t (.ok made) w') :
    w'.memory.store.aliasExists (w.service.aliasName key) = true := by
  obtain ⟨hop, hl⟩ := h
  obtain ⟨d', x, hd, hx⟩ := hop.ensureExists
  obtain ⟨s₁, t₁, t₂, rfl, -, ht₂, -, hl₂⟩ := hl.split hd
  rcases hx with rfl | ⟨index, rfl⟩
  · obtain ⟨s₂, t₃, rfl, hasked, ht₃, hl₃⟩ := hl₂.first ht₂
    rw [(hl₃.none ht₃).2, hasked.store_of_looks fun _ => rfl]
    exact Except.ok.inj hasked.of_ok.1
  · obtain ⟨s₂, t₃, rfl, hput, ht₃, hl₃⟩ := hl₂.first ht₂
    rw [(hl₃.none ht₃).2]
    exact Store.aliasExists_iff.2
      ⟨index, (Store.carries_putAlias hput.perform_of_ok).2 (.inl ⟨rfl, rfl⟩)⟩

/-! ## Histories -/

theorem Request.boundThroughout {request : Request} {w w' : World} {t : List (Turn Memory)}
    {r : Except ServiceError Unit} (h : request.perform.Runs faults w t r w')
    (hstore : w.memory.store.WellNamed) (hbound : w.memory.store.aliasExists a = true)
    (hkept : ∀ key, request = .deleteCollection key → w.service.aliasName key ≠ a) :
    BoundThroughout a t w'.memory := by
  obtain ⟨i, hi⟩ := Store.aliasExists_iff.1 hbound
  by_cases hremoves : request.Removes
  · by_cases hown : a = w.service.aliasName request.key
    · subst hown
      cases request with
      | reindex key =>
        obtain ⟨r', hrun⟩ := h.of_discarded
        exact hrun.reindex_keeps hi
      | deleteOrphaned key =>
        obtain ⟨r', hrun⟩ := h.of_discarded
        exact hrun.deleteOrphaned_keeps hi
      | deleteCollection key => exact absurd rfl (hkept key rfl)
      | _ => exact hremoves.elim
    · obtain ⟨-, hcalls, -⟩ := request.asksOnly_perform rfl h.1
      exact h.2.boundThroughout_of_tends hcalls hown (hstore i a hi) hi
  · obtain ⟨-, hcalls, -⟩ := Request.asksOnly_perform_of_keeping hremoves rfl h.1
    exact h.2.boundThroughout_of_builds hcalls hi

theorem History.boundThroughout {w w' : World} {requests : List Request} {t : List (Turn Memory)}
    (h : History faults w requests t w') (hstore : w.memory.store.WellNamed)
    (hbound : w.memory.store.aliasExists a = true)
    (hkept : ∀ key, .deleteCollection key ∈ requests → w.service.aliasName key ≠ a) :
    BoundThroughout a t w'.memory := by
  induction h with
  | nil => exact ⟨by simp, hbound⟩
  | @cons w w₁ w₂ w₃ request requests t t' r hpass hrun _ ih =>
    obtain ⟨hnames, hcalls, -⟩ := request.asksOnly_perform rfl hrun.1
    rw [← hpass.1] at hstore hbound
    have hfirst : BoundThroughout a t w₂.memory := by
      refine Request.boundThroughout hrun hstore hbound fun key heq => ?_
      rw [Service.aliasName, hpass.indexNames]
      exact hkept key (by simp [heq])
    refine hfirst.append (ih (hstore.leads hrun.2 hcalls) hfirst.2 fun key hkey => ?_)
    rw [Service.aliasName, hnames, hpass.indexNames]
    exact hkept key (by simp [hkey])

/-- Once a collection has been made, its alias is bound in every later state, between the calls of
one operation too, until a collection with the same alias is deleted. Every call may fail, whether
or not the engine has performed it. -/
theorem History.aliasExists_of_made {service : Service} {earlier later : List Request}
    {t₁ t₂ t₃ : List (Turn Memory)} {w₁ w₂ w₃ w₄ : World} {key : CollectionKey} {made : Bool}
    (hearlier : History .any (.empty service) earlier t₁ w₁) (hpass : w₁.Passes w₂)
    (hmade : (Operation.ensureExists key).Runs .any w₂ t₂ (.ok made) w₃)
    (hlater : History .any w₃ later t₃ w₄)
    (hkept : ∀ other, .deleteCollection other ∈ later →
      service.aliasName other ≠ service.aliasName key) :
    w₃.memory.store.aliasExists (service.aliasName key) = true ∧
      (∀ u ∈ t₃, u.after.store.aliasExists (service.aliasName key) = true) ∧
      w₄.memory.store.aliasExists (service.aliasName key) = true := by
  obtain ⟨hstore₁, hnames₁⟩ := hearlier.wellNamed Store.wellNamed_empty
  rw [← hpass.1] at hstore₁
  have hnames₂ : w₂.service.indexNames = service.indexNames := hpass.indexNames.trans hnames₁
  obtain ⟨hnames₃, hcalls, -⟩ := Operation.asksOnly_ensureExists _ key rfl hmade.1
  have hstore₃ : w₃.memory.store.WellNamed :=
    hstore₁.leads hmade.2 fun x hx => (hcalls x hx).tends
  have hbound : w₃.memory.store.aliasExists (service.aliasName key) = true := by
    have := hmade.ensureExists_binds
    rwa [Service.aliasName, hnames₂] at this
  refine ⟨hbound, hlater.boundThroughout hstore₃ hbound fun other hother => ?_⟩
  rw [Service.aliasName, hnames₃, hnames₂]
  exact hkept other hother

/-- The alias stays bound where the answer to its unbinding is lost in one move, that to its binding
in the next, and sweeps follow both. -/
theorem aliasExists_through_lost_answers :
    let made := (Operation.ensureExists .english).rehearse [] (.empty .plain)
    let heard := List.replicate 6 Cue.heard
    let lost := Cue.unheard (.transport "connection reset")
    let later :=
      [ (Request.reindex .english, heard ++ [.heard, lost]), (.deleteOrphaned .english, []),
        (.reindex .english, heard ++ [lost]), (.deleteOrphaned .english, []) ]
    made.2.1 = .ok true ∧
      made.2.2.memory.store.aliasExists (Service.plain.aliasName .english) = true ∧
      (∀ u ∈ (made.2.2.rehearse later).1,
        u.after.store.aliasExists (Service.plain.aliasName .english) = true) ∧
      (made.2.2.rehearse later).2.memory.store.aliasExists
        (Service.plain.aliasName .english) = true := by
  intro made heard lost later
  have hmade : made.2.1 = .ok true := by decide +kernel
  have hlost : ∀ line ∈ later, ∀ cue ∈ line.2, cue.AllowedBy .any := by decide
  exact ⟨hmade, History.aliasExists_of_made (.nil _) (.refl _)
    (Operation.runs_rehearse (by simp) hmade) (World.history_rehearse hlost) (by simp [later])⟩

end SiteSearch
