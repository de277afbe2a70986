import SiteSearch.Proofs.Memory.Block
import SiteSearch.Proofs.Memory.Bodies
import SiteSearch.Proofs.Service.Calls

/-!
# Which calls make, delete, bind and unbind indexes

Of all exchanges only a few change which indexes there are, and which of them carry an alias:
`Answers.contains_iff` and `Answers.carries_iff` say which. Whatever runs beside them, a chain of
calls without such an exchange leaves things as they are (`Leads.contains`, `Leads.absent`,
`Leads.free`, `Leads.exists_deletes_of_lost`).

Clones are left out: they alone make indexes that carry an alias from the start.
-/

namespace SiteSearch

namespace Exchange

/-- The index has been made. -/
def Creates (index : String) : Exchange → Prop
  | ⟨.createIndex name _, .ok _⟩ => name = index
  | _ => False

/-- The index has been deleted. -/
def Deletes (index : String) : Exchange → Prop
  | ⟨.deleteIndex name, .ok _⟩ => name = index
  | _ => False

/-- The alias has been given to the index. -/
def Binds (index aliasName : String) : Exchange → Prop
  | ⟨.putAlias name a, .ok _⟩ => name = index ∧ a = aliasName
  | _ => False

/-- The alias has been taken from the index. -/
def Unbinds (index aliasName : String) : Exchange → Prop
  | ⟨.deleteAlias name a, .ok _⟩ => name = index ∧ a = aliasName
  | _ => False

theorem Deletes.call_eq {x : Exchange} {i : String} (h : x.Deletes i) : x.1 = .deleteIndex i := by
  obtain ⟨c, e | _⟩ := x
  · cases c <;> exact h.elim
  · cases c with
    | deleteIndex name =>
      obtain rfl : name = i := h
      rfl
    | _ => exact h.elim

theorem Binds.not_unbinds {x : Exchange} {i j a b : String} (h : x.Binds i a) : ¬ x.Unbinds j b := by
  obtain ⟨c, o⟩ := x
  cases c with
  | putAlias => exact id
  | _ => exact h.elim

end Exchange

/-- An index that the call makes carries no alias. -/
def EngineCall.MakesBare : EngineCall → Prop
  | createIndex _ body => ∃ key mapping, body = indexBody key mapping
  | cloneIndex _ _ _ => False
  | _ => True

theorem EngineCall.Tends.makesBare {a : String} {c : EngineCall} (h : c.Tends a)
    (hclones : ¬ c.Clones) : c.MakesBare := by
  cases c with
  | createIndex name body => exact h.2
  | cloneIndex => exact hclones .intro
  | _ => trivial

/-- A call that builds takes nothing away. -/
theorem EngineCall.Builds.takes_nothing {a : String} {x : Exchange} (h : x.1.Builds a) :
    (∀ i, ¬ x.Deletes i) ∧ ∀ i b, ¬ x.Unbinds i b := by
  obtain ⟨c, o⟩ := x
  cases c with
  | deleteIndex | deleteAlias => exact h.elim
  | _ => exact ⟨fun _ => id, fun _ _ => id⟩

/-- A call that builds makes generations only. -/
theorem EngineCall.Builds.isGeneration {a i : String} {x : Exchange} (h : x.1.Builds a)
    (hx : x.Creates i) : IsGeneration a i := by
  obtain ⟨c, e | _⟩ := x
  · cases c <;> exact hx.elim
  · cases c with
    | createIndex name body =>
      obtain rfl : name = i := hx
      exact h.1
    | _ => exact hx.elim

namespace Answers

variable {faults : Faults} {x : Exchange} {s s' : Memory} {i a : String}

theorem store_after_of_ok {c : EngineCall} {answer : c.Answer}
    (h : Answers Memory.answer faults c s (.ok answer) s') : s'.store = s.store.after c := by
  rw [Store.after, h.perform_of_ok]
  rfl

theorem contains_iff (h : Answers Memory.answer faults x.1 s x.2 s') (hfaults : faults ≠ .any)
    (hx : x.1.MakesBare) :
    s'.store.contains i = true ↔ x.Creates i ∨ s.store.contains i = true ∧ ¬ x.Deletes i := by
  obtain ⟨c, e | answer⟩ := x
  · rw [h.store_of_error hfaults]
    cases c <;> simp [Exchange.Creates, Exchange.Deletes]
  by_cases hkeep : c.KeepsAliases
  · rw [h.store_after_of_ok, (Store.sameAliases_after hkeep).contains_eq]
    cases c with
    | createIndex | deleteIndex => exact hkeep.elim
    | _ => simp [Exchange.Creates, Exchange.Deletes]
  cases c with
  | createIndex name body =>
    obtain ⟨-, -, heq⟩ := Store.createIndex_eq_ok.1 h.perform_of_ok
    rw [heq, NameMap.contains_insert]
    simp [Exchange.Creates, Exchange.Deletes]
  | deleteIndex name =>
    obtain ⟨-, heq⟩ := Store.deleteIndex_eq_ok.1 h.perform_of_ok
    rw [heq, NameMap.contains_erase]
    simp [Exchange.Creates, Exchange.Deletes, and_comm]
  | putAlias name b =>
    have hsame := Store.sameBy_putAlias (f := fun _ => ()) (fun _ _ => rfl) h.perform_of_ok
    rw [hsame.contains]
    simp [Exchange.Creates, Exchange.Deletes]
  | deleteAlias name b =>
    have hsame := Store.sameBy_deleteAlias (f := fun _ => ()) (fun _ _ => rfl) h.perform_of_ok
    rw [hsame.contains]
    simp [Exchange.Creates, Exchange.Deletes]
  | cloneIndex => exact hx.elim
  | _ => exact absurd trivial hkeep

theorem carries_iff (h : Answers Memory.answer faults x.1 s x.2 s') (hfaults : faults ≠ .any)
    (hx : x.1.MakesBare) :
    s'.store.Carries i a ↔
      x.Binds i a ∨ s.store.Carries i a ∧ ¬ x.Unbinds i a ∧ ¬ x.Deletes i := by
  obtain ⟨c, e | answer⟩ := x
  · rw [h.store_of_error hfaults]
    cases c <;> simp [Exchange.Binds, Exchange.Unbinds, Exchange.Deletes]
  by_cases hkeep : c.KeepsAliases
  · rw [h.store_after_of_ok, (Store.sameAliases_after hkeep).carries_iff]
    cases c with
    | deleteIndex | putAlias | deleteAlias => exact hkeep.elim
    | _ => simp [Exchange.Binds, Exchange.Unbinds, Exchange.Deletes]
  cases c with
  | createIndex name body =>
    obtain ⟨key, mapping, rfl⟩ := hx
    obtain ⟨hnew, -, heq⟩ := Store.createIndex_eq_ok.1 h.perform_of_ok
    rw [heq, Store.carries_insert_new hnew, Store.contains_aliases_indexOfBody]
    simp [Exchange.Binds, Exchange.Unbinds, Exchange.Deletes]
  | deleteIndex name =>
    obtain ⟨-, heq⟩ := Store.deleteIndex_eq_ok.1 h.perform_of_ok
    rw [heq, Store.carries_erase]
    simp [Exchange.Binds, Exchange.Unbinds, Exchange.Deletes, and_comm]
  | putAlias name b =>
    rw [Store.carries_putAlias h.perform_of_ok]
    simp [Exchange.Binds, Exchange.Unbinds, Exchange.Deletes]
  | deleteAlias name b =>
    rw [Store.carries_deleteAlias h.perform_of_ok]
    simp [Exchange.Binds, Exchange.Unbinds, Exchange.Deletes, and_comm]
  | cloneIndex => exact hx.elim
  | _ => exact absurd trivial hkeep

/-- An index is made only where there is none with its name. -/
theorem absent_of_creates (h : Answers Memory.answer faults x.1 s x.2 s') (hx : x.Creates i) :
    s.store.contains i = false := by
  obtain ⟨c, o⟩ := x
  cases c with
  | createIndex name body =>
    rcases o with e | _
    · exact hx.elim
    · obtain rfl : name = i := hx
      exact (Store.createIndex_eq_ok.1 h.perform_of_ok).1
  | _ => exact hx.elim

/-- What has been deleted is not there. -/
theorem absent_of_deletes (h : Answers Memory.answer faults x.1 s x.2 s') (hx : x.Deletes i) :
    s'.store.contains i = false := by
  obtain ⟨c, o⟩ := x
  cases c with
  | deleteIndex name =>
    rcases o with e | _
    · exact hx.elim
    · obtain rfl : name = i := hx
      obtain ⟨-, heq⟩ := Store.deleteIndex_eq_ok.1 h.perform_of_ok
      rw [heq, ← Bool.not_eq_true, NameMap.contains_erase]
      exact fun hthere => hthere.1 rfl
  | _ => exact hx.elim

/-- An index is made without a block. -/
theorem blocked?_of_creates (h : Answers Memory.answer faults x.1 s x.2 s') (hx : x.Creates i)
    (hbare : x.1.MakesBare) : s'.store.blocked? i = some false := by
  obtain ⟨c, o⟩ := x
  cases c with
  | createIndex name body =>
    rcases o with e | _
    · exact hx.elim
    · obtain rfl : name = i := hx
      obtain ⟨key, mapping, rfl⟩ := hbare
      obtain ⟨-, -, heq⟩ := Store.createIndex_eq_ok.1 h.perform_of_ok
      rw [heq, Store.blocked?_insert, if_pos rfl, Store.writeBlocked_indexOfBody]
  | _ => exact hx.elim

/-- An alias is given only to an index that is there. -/
theorem contains_of_binds (h : Answers Memory.answer faults x.1 s x.2 s') (hx : x.Binds i a) :
    s.store.contains i = true := by
  obtain ⟨c, o⟩ := x
  cases c with
  | putAlias name b =>
    rcases o with e | _
    · exact hx.elim
    · obtain ⟨rfl, rfl⟩ := hx
      obtain ⟨held, -, hget, -⟩ := Store.putAlias_eq_ok.1 h.perform_of_ok
      exact NameMap.contains_eq_true.2 ⟨held, hget⟩
  | _ => exact hx.elim

/-- Where no call may go wrong, an index that is there is deleted. -/
theorem deletes_of_contains {o : (EngineCall.deleteIndex i).Outcome}
    (h : Answers Memory.answer .none (.deleteIndex i) s o s') (hi : s.store.contains i = true) :
    Exchange.Deletes i ⟨.deleteIndex i, o⟩ := by
  obtain ⟨⟨_, rfl⟩, -⟩ := h.accepted .intro (Store.deleteIndex_eq_ok.2 ⟨hi, rfl⟩)
  rfl

/-- Where no call may go wrong, an index carries no alias that has just been taken from it. -/
theorem free_of_deleteAlias {o : (EngineCall.deleteAlias i a).Outcome}
    (h : Answers Memory.answer .none (.deleteAlias i a) s o s') : ¬ s'.store.Carries i a := by
  intro hi
  obtain hbinds | ⟨hcarries, hkept, -⟩ :=
    (h.carries_iff (x := ⟨.deleteAlias i a, o⟩) (by decide) .intro).1 hi
  · exact hbinds
  · obtain ⟨store', hok⟩ := Store.deleteAlias_of_carries hcarries
    obtain ⟨⟨_, rfl⟩, -⟩ := h.accepted .intro hok
    exact hkept ⟨rfl, rfl⟩

end Answers

/-! ## Chains -/

namespace Leads

variable {faults : Faults} {s s' : Memory} {t : List (Turn Memory)} {i a : String}

/-- What is there stays there unless it is deleted. -/
theorem contains (hl : Leads Memory.answer faults s t s') (hfaults : faults ≠ .any)
    (ht : ∀ x ∈ t.map Turn.exchange, x.1.MakesBare ∧ ¬ x.Deletes i)
    (hs : s.store.contains i = true) : s'.store.contains i = true :=
  (hl.keeps (J := fun s => s.store.contains i = true)
    (fun hx hs ha => (ha.contains_iff (x := ⟨_, _⟩) hfaults hx.1).2 (.inr ⟨hs, hx.2⟩)) ht hs).2

/-- What is not there appears only where it is made. -/
theorem absent (hl : Leads Memory.answer faults s t s') (hfaults : faults ≠ .any)
    (ht : ∀ x ∈ t.map Turn.exchange, x.1.MakesBare ∧ ¬ x.Creates i)
    (hs : s.store.contains i = false) : s'.store.contains i = false := by
  refine (hl.keeps (J := fun s => s.store.contains i = false)
    (fun hx hs ha => Bool.eq_false_iff.2 fun hi => ?_) ht hs).2
  rcases (ha.contains_iff (x := ⟨_, _⟩) hfaults hx.1).1 hi with hcreates | ⟨hthere, -⟩
  · exact hx.2 hcreates
  · rw [hs] at hthere
    cases hthere

/-- An index carries an alias only where it is given to it. -/
theorem free (hl : Leads Memory.answer faults s t s') (hfaults : faults ≠ .any)
    (ht : ∀ x ∈ t.map Turn.exchange, x.1.MakesBare ∧ ¬ x.Binds i a)
    (hs : ¬ s.store.Carries i a) : ¬ s'.store.Carries i a := by
  refine (hl.keeps (J := fun s => ¬ s.store.Carries i a) (fun hx hs ha hi => ?_) ht hs).2
  rcases (ha.carries_iff (x := ⟨_, _⟩) hfaults hx.1).1 hi with hbinds | ⟨hcarries, -⟩
  · exact hx.2 hbinds
  · exact hs hcarries

/-- An index that loses an alias which is not taken from it is deleted while it carries it. -/
theorem exists_deletes_of_lost (hfaults : faults ≠ .any) :
    ∀ {t : List (Turn Memory)} {s : Memory}, Leads Memory.answer faults s t s' →
      (∀ x ∈ t.map Turn.exchange, x.1.MakesBare ∧ ¬ x.Unbinds i a) →
      s.store.Carries i a → ¬ s'.store.Carries i a →
      ∃ u ∈ t, u.exchange.Deletes i ∧ u.before.store.Carries i a
  | [], _, hl, _, hs, hs' => by
    obtain rfl : s' = _ := hl
    exact absurd hs hs'
  | u :: t, s, ⟨hbefore, ha, hl⟩, ht, hs, hs' => by
    obtain ⟨⟨hbare, hkept⟩, ht⟩ := List.forall_mem_cons.1 ht
    by_cases hdeletes : u.exchange.Deletes i
    · exact ⟨u, List.mem_cons_self, hdeletes, hbefore ▸ hs⟩
    · have hstill : u.after.store.Carries i a :=
        (ha.carries_iff (x := u.exchange) hfaults hbare).2 (.inr ⟨hs, hkept, hdeletes⟩)
      obtain ⟨v, hv, hlost⟩ := exists_deletes_of_lost hfaults hl ht hstill hs'
      exact ⟨v, List.mem_cons_of_mem _ hv, hlost⟩

/-- Where an alias is taken from no index, those carry it in the end that have carried it before, and
those that it has been given to. -/
theorem carries_iff_binds (hfaults : faults ≠ .any) :
    ∀ {t : List (Turn Memory)} {s : Memory}, Leads Memory.answer faults s t s' →
      (∀ x ∈ t.map Turn.exchange, x.1.MakesBare ∧ ¬ x.Unbinds i a ∧ ¬ x.Deletes i) →
      (s'.store.Carries i a ↔ (∃ x ∈ t.map Turn.exchange, x.Binds i a) ∨ s.store.Carries i a)
  | [], _, hl, _ => by
    obtain rfl : s' = _ := hl
    simp
  | u :: t, s, ⟨_, ha, hl⟩, ht => by
    obtain ⟨⟨hbare, hkept⟩, ht⟩ := List.forall_mem_cons.1 ht
    rw [carries_iff_binds hfaults hl ht, ha.carries_iff (x := u.exchange) hfaults hbare,
      and_iff_left hkept, ← or_assoc, or_comm (b := u.exchange.Binds i a), List.map_cons]
    simp

/-- Where nothing is deleted, no index is made twice. -/
theorem creates_once (hfaults : faults ≠ .any) :
    ∀ {t : List (Turn Memory)} {s : Memory}, Leads Memory.answer faults s t s' →
      (∀ x ∈ t.map Turn.exchange, x.1.MakesBare ∧ ∀ i, ¬ x.Deletes i) →
      (t.map Turn.exchange).Pairwise fun x y => ∀ i, x.Creates i → ¬ y.Creates i
  | [], _, _, _ => .nil
  | u :: t, s, ⟨_, ha, hl⟩, ht => by
    obtain ⟨⟨hbare, hkept⟩, ht⟩ := List.forall_mem_cons.1 ht
    refine .cons (fun y hy i hcreates hagain => ?_) (creates_once hfaults hl ht)
    have hthere : u.after.store.contains i = true :=
      (ha.contains_iff (x := u.exchange) hfaults hbare).2 (.inl hcreates)
    obtain ⟨v, hv, rfl⟩ := List.mem_map.1 hy
    obtain ⟨t₁, t₂, rfl⟩ := List.append_of_mem hv
    obtain ⟨s₁, hl₁, hbefore, ha₁, -⟩ := leads_append.1 hl
    have hstill : s₁.store.contains i = true := by
      refine hl₁.contains hfaults (fun x hx => ?_) hthere
      have hx := ht x (by simp [List.mem_map.1 hx])
      exact ⟨hx.1, hx.2 i⟩
    rw [ha₁.absent_of_creates (x := v.exchange) hagain] at hstill
    cases hstill

/-- Where no block is set or lifted, what is made on the way is not blocked in the end. -/
theorem unblocked_of_creates (hl : Leads Memory.answer faults s t s')
    (ht : ∀ x ∈ t.map Turn.exchange, x.1.MakesBare ∧ x.1.KeepsBlocks)
    (hx : ∃ x ∈ t.map Turn.exchange, x.Creates i) : s'.store.blocked? i = some false := by
  obtain ⟨x, hx, hcreates⟩ := hx
  obtain ⟨u, hu, rfl⟩ := List.mem_map.1 hx
  obtain ⟨t₁, t₂, rfl⟩ := List.append_of_mem hu
  obtain ⟨s₁, -, -, ha, hl₂⟩ := leads_append.1 hl
  have hmade := ha.blocked?_of_creates (x := u.exchange) hcreates (ht _ hx).1
  have hkept := (hl₂.keeps_store (J := u.after.store.KeepsBlocks) (P := fun x => x.1.KeepsBlocks)
    (fun hx hs => hs.trans (Store.keepsBlocks_after hx))
    (fun x hx => (ht x (by simp [List.mem_map.1 hx])).2) .refl).2
  exact hkept.blocked? hmade

end Leads

end SiteSearch
