import SiteSearch.Proofs.Memory.Backing
import SiteSearch.Proofs.Memory.Growth
import SiteSearch.Proofs.Service.Making

/-!
# Where making a collection succeeds

With no call going wrong, a collection is made where its alias is not bound and the engine takes the next
generation under it (`Store.Accepts`); the new generation alone backs the alias then, and has no documents
(`Making.Founds.backs`). Where the alias is bound, nothing is done.
-/

namespace SiteSearch

variable {service : Service} {key : CollectionKey} {r : Except ServiceError Bool}

/-- The next generation of a collection can be made and bound: no index has the name of the alias, and the
engine takes the name that follows those of the generations it shows. -/
structure Store.Accepts (store : Store) (service : Service) (key : CollectionKey) : Prop where
  unnamed : store.contains (service.aliasName key) = false
  creates : ∀ found, store.describe (service.indexNames.generationPattern key) = .ok found →
    ∃ store', store.createIndex (service.newName key found) (indexBody key service.mapping) = .ok store'

theorem Service.newName_ne_aliasName {found : List IndexDescription} :
    service.newName key found ≠ service.aliasName key := by
  have hgeneration : IsGeneration (service.aliasName key) (service.newName key found) :=
    IndexNames.isGeneration_generationName _
  intro heq
  rw [heq] at hgeneration
  exact not_isGeneration_self hgeneration

/-- No generation under an alias takes the name of the alias. -/
theorem Store.unnamed_of_created {store store' : Store} {a n : String} {body : Json}
    (hname : store.contains a = false) (hn : IsGeneration a n)
    (hok : store.createIndex n body = .ok store') : store'.contains a = false := by
  obtain ⟨-, -, rfl⟩ := createIndex_eq_ok.1 hok
  refine unnamed_insert hname ?_
  rintro rfl
  exact not_isGeneration_self hn

namespace Making

variable {s s' : Memory} {t : List (Turn Memory)} {n : String}

/-- The store has got a new index, which an alias is bound to. -/
def Founds (a : String) (store : Store) (n : String) (store' : Store) : Prop :=
  ∃ key mapping store₁, store.createIndex n (indexBody key mapping) = .ok store₁ ∧
    store₁.putAlias n a = .ok store'

namespace Founds

variable {store store' : Store} {a : String}

theorem unnamed (h : Founds a store n store') : store'.contains a = false := by
  obtain ⟨_, _, store₁, -, hbound⟩ := h
  obtain ⟨-, hname, -⟩ := Store.putAlias_eq_ok.1 hbound
  exact (Store.sameBy_putAlias (f := fun _ => ()) (fun _ _ => rfl) hbound).contains.trans hname

theorem contains_iff (h : Founds a store n store') {i : String} :
    store'.contains i = true ↔ n = i ∨ store.contains i = true := by
  obtain ⟨_, _, store₁, hcreated, hbound⟩ := h
  have hsame := Store.sameBy_putAlias (f := fun _ => ()) (fun _ _ => rfl) hbound
  rw [hsame.contains, Store.contains_created hcreated, eq_comm]

theorem was_unnamed (h : Founds a store n store') : store.contains a = false :=
  Bool.eq_false_iff.2 fun hthere => by
    have hstill := h.contains_iff.2 (.inr hthere)
    rw [h.unnamed] at hstill
    cases hstill

/-- Where the alias has not been bound, the new index backs it. -/
theorem backs (h : Founds a store n store') (hfree : store.aliasExists a = false) :
    store'.Backs a n false {} := by
  have hunnamed := h.unnamed
  obtain ⟨key, mapping, store₁, hcreated, hbound⟩ := h
  have hgrows := Store.grows_of_making hcreated hbound (Store.aliasExists_eq_false.1 hfree)
  refine ⟨hunnamed, Store.carriers_eq_singleton.2 fun i => ?_, ?_⟩
  · rw [hgrows.carries]
    simp
  obtain ⟨-, -, rfl⟩ := Store.createIndex_eq_ok.1 hcreated
  obtain ⟨held, -, hget, ⟨-, rfl⟩ | ⟨-, rfl⟩⟩ := Store.putAlias_eq_ok.1 hbound
  · exact ⟨_, NameMap.get?_insert_self, Store.writeBlocked_indexOfBody, rfl⟩
  · obtain rfl := Option.some.inj (NameMap.get?_insert_self.symm.trans hget)
    exact ⟨_, NameMap.get?_insert_self, Store.writeBlocked_indexOfBody, rfl⟩

end Founds

/-- A new generation that the engine takes is made. -/
theorem Ends.creates {u : Turn Memory} {d : List Exchange} {store' : Store}
    (h : Ends service key n (u.exchange :: d) r) (ha : Answers Memory.answer .none u.call s u.outcome s')
    (hcreates : s.store.createIndex n (indexBody key service.mapping) = .ok store') :
    s'.store = store' ∧ ∃ o, d = [⟨.putAlias n (service.aliasName key), o⟩] ∧
      r = (Operation.resultOf o).map fun _ => true := by
  obtain ⟨c, o, b, s''⟩ := u
  generalize hx : Turn.exchange _ = x at h
  cases h with
  | lost | refused =>
    cases hx
    obtain ⟨⟨_, ho⟩, -⟩ := ha.accepted .intro hcreates
    cases ho
  | made o =>
    cases hx
    exact ⟨(ha.accepted .intro hcreates).2, o, rfl, rfl⟩

/-- It is bound then where no index has the name of the alias. -/
theorem binds_made {a : String} {o : (EngineCall.putAlias n a).Outcome}
    (ht : t.map Turn.exchange = [⟨.putAlias n a, o⟩]) (hl : Leads Memory.answer .none s t s')
    (hname : s.store.contains a = false) (hn : s.store.contains n = true) :
    o = .ok () ∧ s.store.putAlias n a = .ok s'.store := by
  obtain ⟨s₁, t₁, rfl, hbind, ht₁, hl₁⟩ := hl.first ht
  obtain ⟨-, rfl⟩ := hl₁.none ht₁
  obtain ⟨store₂, hbound⟩ := Store.putAlias_of_contains hname hn
  obtain ⟨⟨_, rfl⟩, rfl⟩ := hbind.accepted .intro hbound
  exact ⟨rfl, hbound⟩

/-- A new generation that the engine takes is made and bound. -/
theorem Ends.wins {store' : Store} (h : Ends service key n (t.map Turn.exchange) r)
    (hl : Leads Memory.answer .none s t s') (hname : s.store.contains (service.aliasName key) = false)
    (hn : IsGeneration (service.aliasName key) n)
    (hcreates : s.store.createIndex n (indexBody key service.mapping) = .ok store') :
    r = .ok true ∧ Founds (service.aliasName key) s.store n s'.store := by
  obtain _ | ⟨u, t⟩ := t
  · cases h
  obtain ⟨rfl, ha, hl⟩ := hl
  obtain ⟨rfl, o, ht, rfl⟩ := h.creates ha hcreates
  obtain ⟨rfl, hbound⟩ := binds_made ht hl (Store.unnamed_of_created hname hn hcreates)
    ((Store.contains_created hcreates).2 (.inl rfl))
  exact ⟨rfl, key, service.mapping, _, hcreates, hbound⟩

/-- Behind the look at the alias, a making succeeds where the engine takes the next generation. -/
theorem Goes.wins_behind {x : Exchange} (h : Goes service key (x :: t.map Turn.exchange) r)
    (ht : t ≠ []) (hl : Leads Memory.answer .none s t s') (haccepts : s.store.Accepts service key) :
    r = .ok true ∧ ∃ found,
      s.store.describe (service.indexNames.generationPattern key) = .ok found ∧
        Founds (service.aliasName key) s.store (service.newName key found) s'.store := by
  generalize hd : t.map Turn.exchange = d at h
  cases h with
  | unlooked | found => exact absurd (List.map_eq_nil_iff.1 hd) ht
  | @unlisted listed e hin =>
    obtain ⟨s₁, t₁, rfl, hlist, -⟩ := hl.first hd
    obtain ⟨found, hfound, -⟩ := hlist.exists_found
    rw [hfound] at hin
    cases hin
  | @named listed found _ _ hin hends =>
    obtain ⟨s₁, t₁, rfl, hlist, ht₁, hl₁⟩ := hl.first hd
    have hfound := hlist.listed hin
    have hstore : s₁.store = s.store := hlist.store_of_looks fun _ => rfl
    rw [← ht₁] at hends
    rw [← hstore] at haccepts hfound ⊢
    obtain ⟨store', hcreates⟩ := haccepts.creates found hfound
    obtain ⟨rfl, hfounds⟩ :=
      hends.wins hl₁ haccepts.unnamed (IndexNames.isGeneration_generationName _) hcreates
    exact ⟨rfl, found, hfound, hfounds⟩

/-- A making begins with a look. -/
theorem Goes.looks_first {x : Exchange} {d : List Exchange} (h : Goes service key (x :: d) r) :
    x.1.Looks := by
  cases h <;> exact fun _ => rfl

/-- A making succeeds where the alias is not bound and the engine takes the next generation. -/
theorem Goes.wins (h : Goes service key (t.map Turn.exchange) r)
    (hl : Leads Memory.answer .none s t s') (haccepts : s.store.Accepts service key)
    (hfree : s.store.aliasExists (service.aliasName key) = false) :
    r = .ok true ∧ ∃ found,
      s.store.describe (service.indexNames.generationPattern key) = .ok found ∧
        Founds (service.aliasName key) s.store (service.newName key found) s'.store := by
  obtain _ | ⟨u, rest⟩ := t
  · cases h
  have hmore : rest ≠ [] := by
    rintro rfl
    generalize hd : [u].map Turn.exchange = d at h
    cases h with
    | unlooked =>
      obtain ⟨s₁, t₁, -, hlook, -⟩ := hl.first hd
      cases hlook.of_none.1
    | found =>
      obtain ⟨s₁, t₁, -, hlook, -⟩ := hl.first hd
      have hbound : s.store.aliasExists (service.aliasName key) = true :=
        (Except.ok.inj hlook.of_none.1).symm
      rw [hfree] at hbound
      cases hbound
    | unlisted | named => simp at hd
  obtain ⟨-, ha, hl⟩ := hl
  have hstore : u.after.store = s.store := ha.store_of_looks h.looks_first
  rw [← hstore] at haccepts ⊢
  exact h.wins_behind hmore hl haccepts

/-- A making leaves the store alone where the alias is bound. -/
theorem Goes.yields (h : Goes service key (t.map Turn.exchange) r)
    (hl : Leads Memory.answer .none s t s')
    (hbound : s.store.aliasExists (service.aliasName key) = true) :
    r = .ok false ∧ s'.store = s.store := by
  generalize hd : t.map Turn.exchange = d at h
  cases h with
  | unlooked =>
    obtain ⟨s₁, t₁, -, hlook, -⟩ := hl.first hd
    cases hlook.of_none.1
  | found =>
    obtain ⟨s₁, t₁, rfl, hlook, ht₁, hl₁⟩ := hl.first hd
    rw [(hl₁.none ht₁).2]
    exact ⟨rfl, hlook.store_of_looks fun _ => rfl⟩
  | unlisted | named =>
    obtain ⟨s₁, t₁, -, hlook, -⟩ := hl.first hd
    have hfree : s.store.aliasExists (service.aliasName key) = false :=
      (Except.ok.inj hlook.of_none.1).symm
    rw [hbound] at hfree
    cases hfree

end Making

namespace Operation.Runs

variable {faults : Faults} {w w' : World} {t : List (Turn Memory)}

/-- What becomes of the store when a collection is made: nothing, or there is a new index, which is bound
or not. -/
theorem making_store (h : (Operation.ensureExists key).Runs faults w t r w') (hfaults : faults ≠ .any) :
    w'.memory.store = w.memory.store ∨
    w.memory.store.aliasExists (w.service.aliasName key) = false ∧ ∃ found,
      ((∃ e, r = .error e) ∧ w.memory.store.createIndex (w.service.newName key found)
          (indexBody key w.service.mapping) = .ok w'.memory.store ∨
        Making.Founds (w.service.aliasName key) w.memory.store (w.service.newName key found)
          w'.memory.store) := by
  rcases h.making hfaults with ⟨hsame, -⟩ |
    ⟨listed, found, s₁, s₂, s₃, o, -, -, -, hunbound, hcreated, hbind, rfl, -⟩
  · exact .inl hsame
  refine .inr ⟨Store.aliasExists_eq_false.2 hunbound, found, ?_⟩
  cases o with
  | error e => exact .inl ⟨⟨_, rfl⟩, by rw [hbind.store_of_error hfaults, hcreated]⟩
  | ok _ => exact .inr ⟨key, w.service.mapping, s₃.store, hcreated, hbind.perform_of_ok⟩

/-- Where the alias is bound, a collection that is asked for is there. -/
theorem ensureExists_of_bound (h : (Operation.ensureExists key).Runs .none w t r w')
    (hbound : w.memory.store.aliasExists (w.service.aliasName key) = true) :
    r = .ok false ∧ w'.memory.store = w.memory.store :=
  h.1.making_goes.1.yields h.2 hbound

/-- Where it is not, and the engine takes the next generation, the collection is made without
documents. -/
theorem ensureExists_of_accepted (h : (Operation.ensureExists key).Runs .none w t r w')
    (haccepts : w.memory.store.Accepts w.service key)
    (hfree : w.memory.store.aliasExists (w.service.aliasName key) = false) :
    r = .ok true ∧ ∃ new, w'.memory.store.Backs (w.service.aliasName key) new false {} := by
  obtain ⟨rfl, found, -, hfounds⟩ := h.1.making_goes.1.wins h.2 haccepts hfree
  exact ⟨rfl, _, hfounds.backs hfree⟩

end Operation.Runs

end SiteSearch
