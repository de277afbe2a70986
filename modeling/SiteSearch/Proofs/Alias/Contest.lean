import Mathlib.Data.List.Pairwise
import SiteSearch.Proofs.Alias.Marks
import SiteSearch.Proofs.Alias.NextTime
import SiteSearch.Proofs.Memory.Effects
import SiteSearch.Proofs.Service.Founding
import SiteSearch.Proofs.Service.Pairing

/-!
# A collection that is made twice at once

Two services may find the alias of a collection unbound at the same time. Each then names a new
generation, makes it and binds it, and a service learns of the other one only where its own index is
refused. So the alias ends on one generation where one of them alone has made it, and on two where both
have (`RunsBeside.made_once_iff`).
-/

namespace SiteSearch

variable {service service' : Service} {key : CollectionKey} {r r' : Except ServiceError Bool}

namespace Making

/-- Where making a collection succeeds one generation is bound, which has been made, and otherwise
none is. -/
theorem Goes.binds {d : List Exchange} (h : Goes service key d r) :
    (r ≠ .ok true ∧ ∀ i, ¬ ∃ x ∈ d, x.Binds i (service.aliasName key)) ∨
      (r = .ok true ∧ ∃ n, IsGeneration (service.aliasName key) n ∧ (∃ x ∈ d, x.Creates n) ∧
        ∀ i, (∃ x ∈ d, x.Binds i (service.aliasName key)) ↔ i = n) := by
  cases h with
  | unlooked | found | unlisted => exact .inl ⟨by simp, by simp [Exchange.Binds]⟩
  | @named _ found _ _ _ hends =>
    cases hends with
    | lost | refused => exact .inl ⟨by simp, by simp [Exchange.Binds]⟩
    | made o =>
      cases o with
      | error e =>
        refine .inl ⟨?_, by simp [Exchange.Binds]⟩
        rintro ⟨⟩
      | ok _ =>
        refine .inr ⟨rfl, service.newName key found, IndexNames.isGeneration_generationName _, ?_, ?_⟩
        · simp [Exchange.Creates]
        · simp [Exchange.Binds, eq_comm]

end Making

/-! ## One generation, or two -/

namespace RunsBeside

open Operation

variable {m m' : Memory} {t : List Step}

/-- Neither service takes anything away. -/
theorem makes {faults : Faults}
    (h : RunsBeside faults (ensureExists key) (ensureExists key) service service' m t r r' m')
    (hnames : service'.indexNames = service.indexNames) :
    ∀ x ∈ (t.map Step.turn).map Turn.exchange,
      x.1.Makes (service.aliasName key) ∧ x.1.KeepsBlocks := by
  have hasks : AsksOnly service.indexNames
      (fun c => c.Makes (service.aliasName key) ∧ c.KeepsBlocks) (ensureExists key) fun _ => True :=
    asksOnly_ensureExists_calls (fun _ => ⟨⟨.intro, .intro, id⟩, .intro⟩)
      (fun _ => ⟨⟨.intro, .intro, id⟩, .intro⟩)
      (fun _ mapping hname => ⟨⟨⟨hname, key, mapping, rfl⟩, .intro, id⟩, .intro⟩)
      fun _ hname => ⟨⟨⟨hname, rfl⟩, .intro, id⟩, .intro⟩
  intro x hx
  obtain ⟨_, hown⟩ := h.own
  obtain ⟨_, hclient⟩ := h.client
  rcases mem_exchanges.1 hx with hx | hx
  · exact (hasks rfl hown).2.1 x hx
  · exact (hasks hnames hclient).2.1 x hx

variable (h : RunsBeside .none (ensureExists key) (ensureExists key) service service' m t r r' m')
  (hnames : service'.indexNames = service.indexNames)
  (hfree : m.store.aliasExists (service.aliasName key) = false)

include h hnames hfree

/-- In the end the alias is bound to the indexes that one of the services has bound it to. -/
theorem carries_iff {i : String} :
    m'.store.Carries i (service.aliasName key) ↔
      (∃ x ∈ ownDialogue t, x.Binds i (service.aliasName key)) ∨
        ∃ x ∈ clientDialogue t, x.Binds i (service.aliasName key) := by
  rw [h.leads.carries_iff_binds (by decide) fun x hx => ?_, or_iff_left (Store.aliasExists_eq_false.1 hfree i)]
  · simp only [mem_exchanges, or_and_right, exists_or]
  · obtain ⟨⟨hbuilds, -, hclones⟩, -⟩ := h.makes hnames x hx
    exact ⟨hbuilds.tends.makesBare hclones, hbuilds.takes_nothing.2 _ _, hbuilds.takes_nothing.1 _⟩

/-- What the alias is bound to in the end has been made by one of the services. -/
theorem made_of_carries {i : String} (hi : m'.store.Carries i (service.aliasName key)) :
    ∃ x ∈ (t.map Step.turn).map Turn.exchange, x.Creates i := by
  obtain ⟨_, hown⟩ := h.own
  obtain ⟨_, hclient⟩ := h.client
  have hbinds := hclient.making_goes.1.binds
  rw [Service.aliasName_congr hnames] at hbinds
  rcases (h.carries_iff hnames hfree).1 hi with hi | hi
  · obtain ⟨-, hnone⟩ | ⟨-, n, -, ⟨x, hx, hcreates⟩, hbound⟩ := hown.making_goes.1.binds
    · exact absurd hi (hnone i)
    · exact ⟨x, mem_exchanges.2 (.inl hx), (hbound i).1 hi ▸ hcreates⟩
  · obtain ⟨-, hnone⟩ | ⟨-, n, -, ⟨x, hx, hcreates⟩, hbound⟩ := hbinds
    · exact absurd hi (hnone i)
    · exact ⟨x, mem_exchanges.2 (.inr hx), (hbound i).1 hi ▸ hcreates⟩

omit hfree in
/-- No index is made by both services. -/
theorem creates_apart {x y : Exchange} {i : String} (hx : x ∈ ownDialogue t)
    (hy : y ∈ clientDialogue t) (hcreates : x.Creates i) : ¬ y.Creates i := by
  have hpair := h.leads.creates_once (by decide) fun x hx => by
    obtain ⟨⟨hbuilds, -, hclones⟩, -⟩ := h.makes hnames x hx
    exact ⟨hbuilds.tends.makesBare hclones, hbuilds.takes_nothing.1⟩
  rw [List.pairwise_map, List.pairwise_map] at hpair
  obtain ⟨u, hu, rfl⟩ := mem_ownDialogue.1 hx
  obtain ⟨v, hv, rfl⟩ := mem_clientDialogue.1 hy
  have hsymm : Std.Symm fun y z : Step =>
      ∀ i, y.turn.exchange.Creates i → ¬ z.turn.exchange.Creates i :=
    ⟨fun _ _ hyz i hz hy => hyz i hy hz⟩
  exact hpair.forall hu hv nofun i hcreates

/-- The alias ends on one generation where one service alone has made it. -/
theorem single_iff :
    (∃ i, IsGeneration (service.aliasName key) i ∧
        m'.store.carriers (service.aliasName key) = [i]) ↔
      (r = .ok true ↔ r' ≠ .ok true) := by
  have hcarries := fun i => h.carries_iff hnames hfree (i := i)
  obtain ⟨_, hown⟩ := h.own
  obtain ⟨_, hclient⟩ := h.client
  have hbinds := hclient.making_goes.1.binds
  rw [Service.aliasName_congr hnames] at hbinds
  obtain ⟨hr, hnone⟩ | ⟨rfl, n, hn, hmade, hbound⟩ := hown.making_goes.1.binds <;>
    obtain ⟨hr', hnone'⟩ | ⟨rfl, n', hn', hmade', hbound'⟩ := hbinds
  · refine iff_of_false ?_ fun hiff => hr (hiff.2 hr')
    rintro ⟨i, -, hi⟩
    rcases (hcarries i).1 ((Store.carriers_eq_singleton.1 hi i).2 rfl) with hi | hi
    · exact hnone i hi
    · exact hnone' i hi
  · refine iff_of_true ⟨n', hn', Store.carriers_eq_singleton.2 fun i => ?_⟩ (by simpa using hr)
    rw [hcarries, hbound', or_iff_right (hnone i)]
  · refine iff_of_true ⟨n, hn, Store.carriers_eq_singleton.2 fun i => ?_⟩ (by simpa using hr')
    rw [hcarries, hbound, or_iff_left (hnone' i)]
  · refine iff_of_false ?_ (by simp)
    rintro ⟨i, -, hi⟩
    obtain ⟨x, hx, hcreates⟩ := hmade
    obtain ⟨y, hy, hcreates'⟩ := hmade'
    have hsame : ∀ j, j = n ∨ j = n' → j = i := by
      intro j hj
      rw [← hbound, ← hbound', ← hcarries] at hj
      exact (Store.carriers_eq_singleton.1 hi j).1 hj
    rw [← hsame n (.inl rfl)] at hsame
    rw [hsame n' (.inr rfl)] at hcreates'
    exact h.creates_apart hnames hx hy hcreates hcreates'

/-- Where no index has the name of the alias, writers reach an index where the alias ends on one
generation. -/
theorem writable_iff (hname : m.store.contains (service.aliasName key) = false) :
    (∃ i held, m'.store.openForWriting (service.aliasName key) = .ok (i, held)) ↔
      ∃ i, IsGeneration (service.aliasName key) i ∧
        m'.store.carriers (service.aliasName key) = [i] := by
  have hmakes := h.makes hnames
  have hname' : m'.store.contains (service.aliasName key) = false := by
    refine h.leads.absent (by decide) (fun x hx => ?_) hname
    obtain ⟨⟨hbuilds, -, hclones⟩, -⟩ := hmakes x hx
    exact ⟨hbuilds.tends.makesBare hclones, fun hx => not_isGeneration_self (hbuilds.isGeneration hx)⟩
  have hunmarked : m'.store.Unmarked (service.aliasName key) :=
    (h.leads.keeps_store (J := fun store => store.Unmarked (service.aliasName key))
      (P := fun x => x.1.Makes (service.aliasName key))
      (fun hx hs => hs.after hx.1.tends fun hclones => absurd hclones hx.2.2)
      (fun x hx => (hmakes x hx).1) (Store.unmarked_of_unbound (Store.aliasExists_eq_false.1 hfree))).2
  constructor
  · rintro ⟨i, held, hopen⟩
    obtain ⟨htarget, -⟩ := Store.openForWriting_eq_ok.1 hopen
    obtain ⟨hi, hsingle | hmarked⟩ := Store.carries_of_writeTarget hname' htarget
    · obtain ⟨x, hx, hcreates⟩ := h.made_of_carries hnames hfree hi
      exact ⟨i, (hmakes x hx).1.1.isGeneration hcreates, hsingle⟩
    · rw [hunmarked i] at hmarked
      cases hmarked
  · rintro ⟨i, -, hsingle⟩
    have hi := h.made_of_carries hnames hfree ((Store.carriers_eq_singleton.1 hsingle i).2 rfl)
    have hopen := h.leads.unblocked_of_creates (fun x hx => by
      obtain ⟨⟨hbuilds, -, hclones⟩, hkeeps⟩ := hmakes x hx
      exact ⟨hbuilds.tends.makesBare hclones, hkeeps⟩) hi
    obtain ⟨held, hget, hblocked⟩ := Option.map_eq_some_iff.1 hopen
    exact ⟨i, held, Store.openForWriting_eq_ok.2
      ⟨Store.writeTarget_of_carriers hname' hsingle, hget, hblocked⟩⟩

end RunsBeside

/-! ## One making within another -/

/-- A new generation under an alias can be made and bound: no index has the name of the alias, the name
of no generation is an alias, and no generation has been made at the end of time. -/
structure Store.Admits (store : Store) (aliasName : String) : Prop where
  unnamed : store.contains aliasName = false
  unaliased : ∀ i b, store.Carries i b → ¬ IsGeneration aliasName b
  timely : ∀ i, store.contains i = true → HasLater aliasName i

theorem Store.aliasExists_createIndex {store store' : Store} {n b : String} {mapping : Mapping}
    (h : store.createIndex n (indexBody key mapping) = .ok store') :
    store'.aliasExists b = store.aliasExists b := by
  obtain ⟨-, hcarries, -⟩ := created h
  rw [aliasExists, aliasExists, carriers_congr fun i => hcarries i b]

namespace Store.Admits

variable {store store' : Store} {a n : String} {mapping : Mapping}

theorem creates (h : store.Admits a) (hn : IsGeneration a n) (hnew : store.contains n = false) :
    ∃ store', store.createIndex n (indexBody key mapping) = .ok store' := by
  have hfree : store.carriers n = [] := List.eq_nil_iff_forall_not_mem.2 fun i hi =>
    h.unaliased i n (mem_carriers.1 hi) hn
  exact ⟨_, createIndex_eq_ok.2 ⟨hnew, hfree, rfl⟩⟩

theorem accepts (h : store.Admits (service.aliasName key)) : store.Accepts service key where
  unnamed := h.unnamed
  creates _ hfound :=
    h.creates (IndexNames.isGeneration_generationName _) (contains_newName hfound h.timely)

/-- A new generation changes nothing about that, unless it is made at the end of time. -/
theorem created (h : store.Admits a) (hn : IsGeneration a n) (hlater : HasLater a n)
    (hok : store.createIndex n (indexBody key mapping) = .ok store') : store'.Admits a := by
  refine ⟨unnamed_of_created h.unnamed hn hok, fun i b hi => ?_, fun i hi => ?_⟩
  · exact h.unaliased i b (((Store.created hok).2.1 i b).1 hi)
  · rcases (contains_created hok).1 hi with rfl | hi
    · exact hlater
    · exact h.timely i hi

theorem bound (h : store.Admits a) (hok : store.putAlias n a = .ok store') : store'.Admits a := by
  have hsame : ∀ i, store'.contains i = store.contains i := fun i =>
    (sameBy_putAlias (f := fun _ => ()) (fun _ _ => rfl) hok).contains
  refine ⟨(hsame a).trans h.unnamed, fun i b hi => ?_, fun i hi => ?_⟩
  · rcases (carries_putAlias hok).1 hi with ⟨-, rfl⟩ | hi
    · exact not_isGeneration_self
    · exact h.unaliased i b hi
  · exact h.timely i ((hsame i).symm.trans hi)

end Store.Admits

namespace Making

variable {s s' : Memory} {t : List (Turn Memory)} {n : String}

theorem Founds.admits {store store' : Store} {a : String} (h : Founds a store n store')
    (hadmits : store.Admits a) (hn : IsGeneration a n) (hlater : HasLater a n) : store'.Admits a := by
  obtain ⟨_, _, store₁, hcreated, hbound⟩ := h
  exact (hadmits.created hn hlater hcreated).bound hbound

/-- A name that is taken is not made. -/
theorem Ends.loses (h : Ends service key n (t.map Turn.exchange) r)
    (hl : Leads Memory.answer .none s t s') (hn : s.store.contains n = true) : r ≠ .ok true := by
  generalize hd : t.map Turn.exchange = d at h
  cases h with
  | lost | refused => nofun
  | made o =>
    obtain ⟨s₁, t₁, rfl, hcreate, -⟩ := hl.first hd
    rw [hcreate.absent_of_creates (x := ⟨_, _⟩) (i := n) rfl] at hn
    cases hn

/-- Where another service has made a collection since the look at the generations, a making fails only
over the name that the other one has chosen. -/
theorem Ends.loses_iff {store : Store} {n' : String} (h : Ends service key n (t.map Turn.exchange) r)
    (hl : Leads Memory.answer .none s t s') (hfounds : Founds (service.aliasName key) store n' s.store)
    (hadmits : store.Admits (service.aliasName key)) (hn : IsGeneration (service.aliasName key) n)
    (hnew : store.contains n = false) (hn' : IsGeneration (service.aliasName key) n')
    (hlater' : HasLater (service.aliasName key) n') : r ≠ .ok true ↔ n = n' := by
  constructor
  · intro hr
    by_contra hne
    have hstill : ¬ s.store.contains n = true := by
      rw [hfounds.contains_iff, hnew]
      simpa using Ne.symm hne
    have hadmits' := hfounds.admits hadmits hn' hlater'
    obtain ⟨_, hcreates⟩ := hadmits'.creates hn (Bool.eq_false_iff.2 hstill)
    exact hr (h.wins hl hadmits'.unnamed hn hcreates).1
  · rintro rfl
    exact h.loses hl (hfounds.contains_iff.2 (.inl rfl))

/-- Behind the look at the generations, there is a name for the new one. -/
theorem Goes.ends_behind {u₁ u₂ : Turn Memory} {d : List Exchange} {found : List IndexDescription}
    (h : Goes service key (u₁.exchange :: u₂.exchange :: d) r) (hd : d ≠ [])
    (hl : Leads Memory.answer .none s (u₁ :: u₂ :: t) s')
    (hfound : s.store.describe (service.indexNames.generationPattern key) = .ok found) :
    u₂.after.store = s.store ∧ Ends service key (service.newName key found) d r ∧
      Leads Memory.answer .none u₂.after t s' := by
  generalize hx : u₁.exchange = x at h
  generalize hy : u₂.exchange = y at h
  cases h with
  | unlisted => exact absurd rfl hd
  | @named listed found' _ _ hin hends =>
    obtain ⟨s₁, t₁, ht₁, hlook, -, hl₁⟩ := hl.first (congrArg (· :: _) hx)
    obtain ⟨-, rfl⟩ := List.cons.inj ht₁
    obtain ⟨s₂, t₂, ht₂, hlist, -, hl₂⟩ := hl₁.first (congrArg (· :: _) hy)
    obtain ⟨rfl, rfl⟩ := List.cons.inj ht₂
    have hstore₁ : s₁.store = s.store := hlook.store_of_looks fun _ => rfl
    have hstore₂ : s₂.store = s₁.store := hlist.store_of_looks fun _ => rfl
    have hfound' := hlist.listed hin
    rw [hstore₁] at hfound'
    obtain rfl := Except.ok.inj (hfound.symm.trans hfound')
    exact ⟨hstore₂.trans hstore₁, hends, hl₂⟩

/-- Two exchanges are left then. -/
theorem Ends.length_eq {d : List Exchange} (h : Ends service key n d r) : d.length = 2 := by
  cases h <;> rfl

end Making

/-- Of two services that make a collection at the same time, one within the other, both succeed, unless
the second one begins when the first has just looked at the generations, and they have the same name for
the new one. -/
theorem RunsBeside.made_within {m m' : Memory} {t : List Step} {us vs us' : List (Turn Memory)}
    {found : List IndexDescription}
    (h : RunsBeside .none (Operation.ensureExists key) (Operation.ensureExists key) service service' m t
      r r' m')
    (hnames : service'.indexNames = service.indexNames)
    (hfree : m.store.aliasExists (service.aliasName key) = false)
    (ht : t = us.map .own ++ (vs.map .client ++ us'.map .own)) (hus : us ≠ []) (hus' : us' ≠ [])
    (hadmits : m.store.Admits (service.aliasName key))
    (hfound : m.store.describe (service.indexNames.generationPattern key) = .ok found)
    (hlater : HasLater (service.aliasName key) (service.newName key found))
    (hlater' : HasLater (service.aliasName key) (service'.newName key found)) :
    r' = .ok true ∧
      (r ≠ .ok true ↔ us.length = 2 ∧ service.newName key found = service'.newName key found) := by
  subst ht
  obtain ⟨_, hown⟩ := h.own
  obtain ⟨_, hclient⟩ := h.client
  have hgoes := hown.making_goes.1
  have hgoes' := hclient.making_goes.1
  have hl := h.leads
  simp only [ownDialogue_append, ownDialogue_map_own, ownDialogue_map_client, List.nil_append,
    clientDialogue_append, clientDialogue_map_own, clientDialogue_map_client, List.append_nil] at hgoes hgoes'
  rw [List.map_append, List.map_append, map_turn_map_own, map_turn_map_client, map_turn_map_own,
    leads_append] at hl
  obtain ⟨s₁, hl₁, hl⟩ := hl
  obtain ⟨s₂, hl₂, hl₃⟩ := leads_append.1 hl
  have hwins : s₁.store.Admits (service.aliasName key) →
      s₁.store.aliasExists (service.aliasName key) = false → r' = .ok true ∧ ∃ found',
        s₁.store.describe (service.indexNames.generationPattern key) = .ok found' ∧
          Making.Founds (service.aliasName key) s₁.store (service'.newName key found') s₂.store := by
    rw [← Service.aliasName_congr hnames, ← hnames]
    exact fun hadmits => hgoes'.wins hl₂ hadmits.accepts
  have hgeneration : IsGeneration (service.aliasName key) (service.newName key found) :=
    IndexNames.isGeneration_generationName _
  have hgeneration' : ∀ found, IsGeneration (service.aliasName key) (service'.newName key found) := by
    intro found
    rw [← Service.aliasName_congr hnames]
    exact IndexNames.isGeneration_generationName _
  have hnew := Store.contains_newName hfound hadmits.timely
  -- what the other service finds depends on how far this one has come
  obtain _ | ⟨u₁, _ | ⟨u₂, _ | ⟨u₃, _ | ⟨u₄, us⟩⟩⟩⟩ := us
  · exact absurd rfl hus
  · obtain ⟨rfl, ha, rfl⟩ := hl₁
    rw [ha.store_of_looks hgoes.looks_first] at hwins
    obtain ⟨rfl, found', hfound', hfounds⟩ := hwins hadmits hfree
    obtain rfl := Except.ok.inj (hfound.symm.trans hfound')
    obtain ⟨rfl, -⟩ :=
      hgoes.wins_behind hus' hl₃ (hfounds.admits hadmits (hgeneration' _) hlater').accepts
    exact ⟨rfl, by simp⟩
  · have hd : us'.map Turn.exchange ≠ [] := fun h => hus' (List.map_eq_nil_iff.1 h)
    obtain ⟨hstore, hends, rfl⟩ := hgoes.ends_behind hd hl₁ hfound
    rw [hstore] at hwins
    obtain ⟨rfl, found', hfound', hfounds⟩ := hwins hadmits hfree
    obtain rfl := Except.ok.inj (hfound.symm.trans hfound')
    have hloses := hends.loses_iff hl₃ hfounds hadmits hgeneration hnew (hgeneration' _) hlater'
    exact ⟨rfl, hloses.trans (by simp)⟩
  · obtain ⟨hstore, hends, -, ha, rfl⟩ := hgoes.ends_behind (List.cons_ne_nil _ _) hl₁ hfound
    rw [← hstore] at hadmits hfree hnew
    obtain ⟨_, hcreated⟩ := hadmits.creates hgeneration hnew
    obtain ⟨rfl, o, ht, rfl⟩ := hends.creates ha hcreated
    have hadmits₁ := hadmits.created hgeneration hlater hcreated
    rw [← Store.aliasExists_createIndex hcreated] at hfree
    obtain ⟨rfl, found', -, hfounds⟩ := hwins hadmits₁ hfree
    obtain ⟨rfl, -⟩ := Making.binds_made ht hl₃ (hfounds.unnamed)
      (hfounds.contains_iff.2 (.inr ((Store.contains_created hcreated).2 (.inl rfl))))
    exact ⟨rfl, iff_of_false (fun hne => hne rfl) (by simp)⟩
  · obtain ⟨-, hends, -⟩ := hgoes.ends_behind (List.cons_ne_nil _ _) hl₁ hfound
    have hlength := hends.length_eq
    have hmore := List.length_pos_iff.2 hus'
    simp only [List.append_eq, List.length_append, List.length_map, List.length_cons] at hlength
    omega

/-- An alias that two services make a collection for at the same time ends on one generation, and takes
writes, where one of the two alone has made it. Where one of them makes it between two calls of the
other, this is so only between the look at the generations and the new index, and only where both have
the same name for the new generation. -/
theorem RunsBeside.made_once_iff {m m' : Memory} {t : List Step}
    (h : RunsBeside .none (Operation.ensureExists key) (Operation.ensureExists key) service service' m t
      r r' m')
    (hnames : service'.indexNames = service.indexNames)
    (hfree : m.store.aliasExists (service.aliasName key) = false) :
    ((∃ i, IsGeneration (service.aliasName key) i ∧
        m'.store.carriers (service.aliasName key) = [i]) ↔ (r = .ok true ↔ r' ≠ .ok true)) ∧
      (m.store.contains (service.aliasName key) = false →
        ((∃ i held, m'.store.openForWriting (service.aliasName key) = .ok (i, held)) ↔
          (r = .ok true ↔ r' ≠ .ok true))) ∧
      ∀ p n q found,
        t.map Step.isOwn =
          List.replicate p true ++ (List.replicate n false ++ List.replicate q true) →
        0 < p → 0 < q → m.store.Admits (service.aliasName key) →
        m.store.describe (service.indexNames.generationPattern key) = .ok found →
        HasLater (service.aliasName key) (service.newName key found) →
        HasLater (service.aliasName key) (service'.newName key found) →
        ((∃ i, IsGeneration (service.aliasName key) i ∧
            m'.store.carriers (service.aliasName key) = [i]) ↔
          p = 2 ∧ service.newName key found = service'.newName key found) := by
  have hsingle := h.single_iff hnames hfree
  refine ⟨hsingle, fun hname => (h.writable_iff hnames hfree hname).trans hsingle, ?_⟩
  intro p n q found horder hp hq hadmits hfound hlater hlater'
  obtain ⟨us, vs, us', ht, rfl, rfl⟩ := exists_of_map_isOwn horder
  obtain ⟨rfl, hwithin⟩ := h.made_within hnames hfree ht (List.ne_nil_of_length_pos hp)
    (List.ne_nil_of_length_pos hq) hadmits hfound hlater hlater'
  rw [hsingle, ← hwithin]
  simp

theorem Store.admits_empty {a : String} : Store.Admits {} a where
  unnamed := rfl
  unaliased _ _ := by
    rintro ⟨held, hget, -⟩
    cases hget
  timely _ hi := by cases hi

/-- Made by another service behind the look at the generations, the collection has one generation, which
writes go to. -/
theorem RunsBeside.made_once_behind_look :
    let op := Operation.ensureExists .english
    let run := op.rehearseBeside op [true, true, false, false, false, false] .plain .plain {}
    run.2.1 = (.ok false, .ok true) ∧
      (∃ i, IsGeneration (Service.plain.aliasName .english) i ∧
        run.2.2.store.carriers (Service.plain.aliasName .english) = [i]) ∧
      ∃ i held, run.2.2.store.openForWriting (Service.plain.aliasName .english) = .ok (i, held) := by
  intro op run
  have hr : run.2.1 = (.ok false, .ok true) := by decide +kernel
  have horder : run.1.map Step.isOwn =
      List.replicate 2 true ++ (List.replicate 4 false ++ List.replicate 2 true) := by decide +kernel
  have hlater : HasLater (Service.plain.aliasName .english) (Service.plain.newName .english []) := by
    intro time htime
    have hnow : generationTimeUnder? (Service.plain.aliasName .english)
        (Service.plain.newName .english []) = some 1700000000 := by decide +kernel
    obtain rfl := Option.some.inj (hnow.symm.trans htime)
    decide
  have hfound : Store.describe {} (Service.plain.indexNames.generationPattern .english) = .ok [] := by
    decide +kernel
  have hrun : RunsBeside .none op op .plain .plain {} run.1 run.2.1.1 run.2.1.2 run.2.2 :=
    Operation.runsBeside_rehearse
  clear_value run
  obtain ⟨hsingle, hwritable, hwithin⟩ := RunsBeside.made_once_iff hrun rfl rfl
  have hbound := (hwithin 2 4 2 [] horder (by decide) (by decide) Store.admits_empty hfound hlater
    hlater).2 ⟨rfl, rfl⟩
  exact ⟨hr, hbound, (hwritable rfl).2 (hsingle.1 hbound)⟩

/-- Where another service makes the collection before the look at the generations, both make it, and
the alias is bound to two generations, under which nothing is written. -/
theorem two_generations_after_contest :
    let op := Operation.ensureExists .english
    let run := op.rehearseBeside op [true, false, false, false, false] .plain .plain {}
    RunsBeside .none op op .plain .plain {} run.1 (.ok true) (.ok true) run.2.2 ∧
      run.1.map Step.isOwn = [true, false, false, false, false, true, true, true] ∧
      run.2.2.store.carriers "craftcms_en" = ["craftcms_en_1700000000", "craftcms_en_1700000001"] ∧
      run.2.2.store.openForWriting "craftcms_en" = .error (Store.noWriteIndex "craftcms_en") := by
  intro op run
  have hresults : run.2.1 = (.ok true, .ok true) := by decide +kernel
  have hrun : RunsBeside .none op op .plain .plain {} run.1 run.2.1.1 run.2.1.2 run.2.2 :=
    Operation.runsBeside_rehearse
  rw [hresults] at hrun
  exact ⟨hrun, by decide +kernel, by decide +kernel, by decide +kernel⟩

end SiteSearch
