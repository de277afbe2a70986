import SiteSearch.Proofs.Alias.Orderly
import SiteSearch.Proofs.Migration.Blocks
import SiteSearch.Proofs.Service.Making

/-!
# Renewals where no call goes wrong

Where no call goes wrong and the collections are in order, making, moving and cloning a collection
either leave everything alike, or they renew it: a new index, later than all that were there, is bound
to its alias and nothing else has changed (`World.Renews`). They cannot be stopped halfway, for what
comes behind the new index is never refused.
-/

namespace SiteSearch

/-- A collection has a new index, later than those there were, and nothing else has changed. -/
def World.Renews (w : World) (key : CollectionKey) (properties : NameMap Json) (w' : World) : Prop :=
  ∃ new time, new = w.service.aliasName key ++ "_" ++ Text.writeWord time ∧
    (∀ i, w.memory.store.contains i = true → EarlierUnder (w.service.aliasName key) i new) ∧
    w.memory.store.Grows (w.service.aliasName key) new properties w'.memory.store

/-- A renewal keeps collections in order. -/
theorem World.Renews.orderly {w w' : World} {key : CollectionKey} {properties : NameMap Json}
    {aliases : List String} (h : w.Renews key properties w')
    (hstore : w.memory.store.Orderly aliases) (hkey : w.service.aliasName key ∈ aliases) :
    w'.memory.store.Orderly aliases := by
  obtain ⟨new, time, rfl, hlater, hgrows⟩ := h
  exact hstore.grows hgrows ⟨_, hkey, time, rfl⟩ isGeneration_append hlater

namespace Operation.Runs

variable {α : Type} {w w' : World} {t : List (Turn Memory)} {key : CollectionKey}

/-- An operation under a block that is not there already: the block is set before it and lifted behind
it, and neither can be refused. -/
theorem bracketed {op : Operation α} {source : String} {r : Except ServiceError α}
    (h : (whileBlocked source op).Runs .none w t r w')
    (hfree : w.memory.store.blocked? source = some false) :
    ∃ s t₁ r₁ w₂, w.memory.store.Sets source true s.store ∧
      op.Runs .none ⟨w.service, s⟩ t₁ r₁ w₂ ∧ (∀ u ∈ t₁, u ∈ t) ∧ w'.service = w₂.service ∧
      (w₂.memory.store.contains source = true →
        r = r₁ ∧ w₂.memory.store.Sets source false w'.memory.store) := by
  obtain ⟨hsaid, hl⟩ := h
  have hsource : w.memory.store.contains source = true :=
    Store.contains_iff_blocked?.2 ⟨_, hfree⟩
  obtain ⟨e, ht, -⟩ | ⟨settings, d, hblocked, ht, -⟩ | ⟨settings, e, ht, -⟩ |
    ⟨settings, d, r₁, o, -, ht, hinner, hr⟩ := hsaid.whileBlocked
  · obtain ⟨s₁, t₁, -, hlook, -⟩ := hl.first ht
    obtain ⟨settings, hsettings⟩ := Store.getSettings_of_contains hsource
    cases hlook.of_none.1.trans hsettings
  · obtain ⟨s₁, t₁, -, hlook, -⟩ := hl.first ht
    have := hlook.blocked?_eq
    rw [hfree, hblocked] at this
    cases this
  · obtain ⟨s₁, t₁, rfl, hlook, ht₁, hl₁⟩ := hl.first ht
    obtain ⟨s₂, t₂, -, hset, -⟩ := hl₁.first ht₁
    have hs₁ : s₁.store = w.memory.store := hlook.store_of_looks fun _ => rfl
    obtain ⟨store', hput⟩ := Store.putSettings_of_contains (hs₁ ▸ hsource)
    obtain ⟨⟨_, heq⟩, -⟩ := hset.accepted .intro hput
    cases heq
  · obtain ⟨s₁, t₁, rfl, hlook, ht₁, hl₁⟩ := hl.first ht
    obtain ⟨s₂, t₂, rfl, hset, ht₂, hl₂⟩ := hl₁.first ht₁
    obtain ⟨s₃, t₃, t₄, rfl, rfl, ht₄, hl₃, hl₄⟩ := hl₂.split ht₂
    obtain ⟨s₄, t₅, rfl, hlift, ht₅, hl₅⟩ := hl₄.first ht₄
    obtain ⟨rfl, hs₄⟩ := hl₅.none ht₅
    have hs₁ : s₁.store = w.memory.store := hlook.store_of_looks fun _ => rfl
    have hset₁ := hset.perform_of_ok
    rw [hs₁] at hset₁
    refine ⟨s₂, t₃, r₁, ⟨w'.service, s₃⟩, Store.sets_of_putSettings hsource hset₁, ⟨hinner, hl₃⟩,
      fun u hu => by simp [hu], rfl, fun hthere => ?_⟩
    obtain ⟨store', hput⟩ := Store.putSettings_of_contains hthere
    obtain ⟨⟨_, rfl⟩, hlifted⟩ := hlift.accepted .intro hput
    refine ⟨?_, ?_⟩
    · rw [hr]
      cases r₁ <;> rfl
    · rw [hs₄, hlifted]
      exact Store.sets_of_putSettings hthere hput

/-- Where no call goes wrong and no failures are to be reported, a copy of an index into one that is
open for writing is made, and nothing is reported. -/
theorem copied_cleanly {old new : String} {fields : List String} {m m' : Memory}
    {o : Except EngineError ReindexReply}
    (h : Answers Memory.answer .none (.reindex (copyBody old new fields)) m o m')
    (hold : m.store.contains old = true) (hnew : m.store.blocked? new = some false)
    (hcalm : m.pendingFailures = 0) :
    ∃ reply, o = .ok reply ∧ reply.failures = [] ∧
      m.store.reindex (copyBody old new fields) 0 = .ok (m'.store, reply) := by
  obtain ⟨target, htarget, hopen⟩ := Option.map_eq_some_iff.1 hnew
  obtain ⟨store', reply, hok, hclean⟩ : ∃ store' reply,
      m.store.reindex (copyBody old new fields) 0 = .ok (store', reply) ∧ reply.failures.length = 0 :=
    Store.reindex_copyBody_of_open hold htarget hopen
  obtain ⟨⟨reply', rfl⟩, -⟩ := h.accepted .intro (by rw [Store.perform, hok]; rfl)
  have hcopied := h.copied
  rw [hcalm, hok] at hcopied
  obtain ⟨rfl, rfl⟩ := Prod.mk.inj (Except.ok.inj hcopied)
  exact ⟨reply, rfl, List.length_eq_zero_iff.1 hclean, hok⟩

/-- Where no call goes wrong a copy and the binding behind it are not stopped. -/
theorem moved_cleanly {m : Move} {r : Except ServiceError ReindexReply}
    (h : (copyAndRebind m.aliasName m.oldIndex m.newIndex
      (copyBody m.oldIndex m.newIndex m.mapping.names)).Runs .none w t r w')
    (hcalm : ∀ u ∈ t, u.before.pendingFailures = 0)
    (hold : w.memory.store.Carries m.oldIndex m.aliasName)
    (hnew : w.memory.store.blocked? m.newIndex = some false)
    (hname : w.memory.store.contains m.aliasName = false) :
    ∃ reply s₁ s₂, r = .ok reply ∧ w'.service = w.service ∧
      w.memory.store.reindex (copyBody m.oldIndex m.newIndex m.mapping.names) 0 = .ok (s₁, reply) ∧
      s₁.putAlias m.newIndex m.aliasName = .ok s₂ ∧
      s₂.deleteAlias m.oldIndex m.aliasName = .ok w'.memory.store := by
  obtain ⟨hsaid, hl⟩ := h
  have hcopies : ∀ {o : m.copy.Outcome} {s₁ : Memory},
      Answers Memory.answer .none m.copy w.memory o s₁ → w.memory.pendingFailures = 0 →
      ∃ reply, o = .ok reply ∧ reply.failures = [] ∧
        w.memory.store.reindex (copyBody m.oldIndex m.newIndex m.mapping.names) 0 =
          .ok (s₁.store, reply) ∧
        ∃ s₂, s₁.store.putAlias m.newIndex m.aliasName = .ok s₂ := by
    intro o s₁ hcopy hnone
    obtain ⟨reply, rfl, hclean, hreindex⟩ := copied_cleanly hcopy hold.contains hnew hnone
    have hsame : w.memory.store.SameBy (·.aliases) s₁.store := Store.sameAliases_reindex hreindex
    refine ⟨reply, rfl, hclean, hreindex, Store.putAlias_of_contains ?_ ?_⟩
    · rw [hsame.contains, hname]
    · rw [hsame.contains]
      exact Store.contains_iff_blocked?.2 ⟨_, hnew⟩
  obtain ⟨o, e, ho, ht, -⟩ | ⟨reply, e, ht, -⟩ | ⟨reply, o, -, ht, rfl, hsame⟩ :=
    hsaid.copyAndRebind
  · obtain ⟨s₁, t₁, rfl, hcopy, -⟩ := hl.first ht
    obtain ⟨reply, rfl, hclean, -⟩ := hcopies hcopy (hcalm _ List.mem_cons_self)
    exact absurd hclean (ho reply rfl)
  · obtain ⟨s₁, t₁, rfl, hcopy, ht₁, hl₁⟩ := hl.first ht
    obtain ⟨s₂, t₂, rfl, hbind, -⟩ := hl₁.first ht₁
    obtain ⟨-, -, -, -, s, hput⟩ := hcopies hcopy (hcalm _ List.mem_cons_self)
    obtain ⟨⟨_, heq⟩, -⟩ := hbind.accepted .intro hput
    cases heq
  · obtain ⟨s₁, t₁, rfl, hcopy, ht₁, hl₁⟩ := hl.first ht
    obtain ⟨s₂, t₂, rfl, hbind, ht₂, hl₂⟩ := hl₁.first ht₁
    obtain ⟨s₃, t₃, rfl, hunbind, ht₃, hl₃⟩ := hl₂.first ht₂
    obtain ⟨-, hs₃⟩ := hl₃.none ht₃
    obtain ⟨_, ⟨⟩, -, hreindex, -⟩ := hcopies hcopy (hcalm _ List.mem_cons_self)
    have hput := hbind.perform_of_ok
    have hold₂ : s₂.store.Carries m.oldIndex m.aliasName :=
      (Store.carries_putAlias hput).2 (.inr ((Store.sameAliases_reindex hreindex).carries_iff.2 hold))
    obtain ⟨store', hdelete⟩ := Store.deleteAlias_of_carries hold₂
    obtain ⟨⟨⟨⟩, rfl⟩, hs₃'⟩ := hunbind.accepted .intro hdelete
    refine ⟨reply, s₁.store, s₂.store, rfl, hsame, hreindex, hput, ?_⟩
    rw [hs₃, hs₃', hdelete]

/-- Where no call goes wrong an index is cloned under the block, or the clone is refused and nothing
has happened. -/
theorem cloned_cleanly {m : Cloning} {r : Except ServiceError Unit}
    (h : (cloneBlocked m.sourceIndex m.newIndex m.aliasName).Runs .none w t r w') :
    w'.service = w.service ∧
      ((∃ e, r = .error e) ∧ w'.memory.store = w.memory.store ∨
        r = .ok () ∧ ∃ s, w.memory.store.cloneIndex m.sourceIndex m.newIndex
          (cloneBody m.aliasName) = .ok s ∧ s.Sets m.newIndex false w'.memory.store) := by
  obtain ⟨hsaid, hl⟩ := h
  obtain ⟨hservice, ⟨e, ht, rfl⟩ | ⟨o, ht, rfl⟩⟩ := hsaid.cloneBlocked
  · obtain ⟨s₁, t₁, rfl, hclone, ht₁, hl₁⟩ := hl.first ht
    obtain ⟨-, hs₁⟩ := hl₁.none ht₁
    refine ⟨hservice, .inl ⟨⟨_, rfl⟩, ?_⟩⟩
    rw [hs₁, hclone.store_of_error (by decide)]
  · obtain ⟨s₁, t₁, rfl, hclone, ht₁, hl₁⟩ := hl.first ht
    obtain ⟨s₂, t₂, rfl, hlift, ht₂, hl₂⟩ := hl₁.first ht₁
    obtain ⟨-, hs₂⟩ := hl₂.none ht₂
    have hcloned := hclone.perform_of_ok
    have hthere : s₁.store.contains m.newIndex = true := by
      obtain ⟨held, -, -, -, heq⟩ := Store.cloneIndex_eq_ok.1 hcloned
      rw [heq]
      exact NameMap.contains_insert.2 (.inl rfl)
    obtain ⟨store', hput⟩ := Store.putSettings_of_contains hthere
    obtain ⟨⟨⟨⟩, rfl⟩, hlifted⟩ := hlift.accepted .intro hput
    refine ⟨hservice, .inr ⟨rfl, s₁.store, hcloned, ?_⟩⟩
    rw [hs₂, hlifted]
    exact Store.sets_of_putSettings hthere hput

section

variable {aliases : List String} (hstore : w.memory.store.Orderly aliases)

include hstore

/-- Cloning an index comes to nothing, or it renews the collection that is made from it. -/
theorem clone_renews {source : String} {r : Except ServiceError CloneReport}
    (h : (clone key source).Runs .none w t r w') :
    (w.memory.store.Alike w'.memory.store ∧ w'.service.cache = w.service.cache ∧ ∃ e, r = .error e) ∨
    ∃ properties, w.Renews key properties w' ∧
      w'.service.cache = w.service.cache.invalidate key ∧ ∃ report, r = .ok report := by
  obtain ⟨hsaid, hl⟩ := h
  rcases hsaid.clone with ⟨hr, hcache, hscouts⟩ | ⟨m, halias, o, found, d₁, d₂, r', service₁, hin, hnew,
    hfinds, ht, hclone, rfl, hcache⟩
  · refine .inl ⟨?_, hcache, hr⟩
    rw [(hl.idle (by decide) fun x hx => (hscouts x hx).idle).2]
    exact .refl
  obtain ⟨s₁, t₁, rfl, hlook, ht₁, hl₁⟩ := hl.first ht
  obtain ⟨s₂, t₂, t₃, rfl, ht₂, ht₃, hl₂, hl₃⟩ := hl₁.split ht₁
  obtain ⟨s₃, t₄, rfl, hlist, rfl, hl₄⟩ := hl₃.first ht₃
  have hs₁ : s₁.store = w.memory.store := hlook.store_of_looks fun _ => rfl
  have hs₂ : s₂.store = w.memory.store := (hl₂.idle (by decide) fun x hx =>
    (Cloning.scouts_of_finds hfinds x (ht₂ ▸ hx)).idle).2.trans hs₁
  have hs₃ : s₃.store = w.memory.store := (hlist.store_of_looks fun _ => rfl).trans hs₂
  have hsource : w.memory.store.contains m.sourceIndex = true := by
    rw [← hs₁]
    exact hfinds.contains hl₂ ht₂
  have hunbound : ∀ i, ¬ w.memory.store.Carries i m.aliasName := by
    intro i hi
    have hexists : w.memory.store.aliasExists m.aliasName = false := Except.ok.inj hlook.of_ok.1
    rw [Store.aliasExists_iff.2 ⟨i, hi⟩] at hexists
    cases hexists
  have hfound := hlist.listed hin
  rw [hs₂] at hfound
  have hfree := hstore.unblocked hsource
  have hruns : m.operation.Runs .none ⟨w.service, s₃⟩ t₄ r' ⟨service₁, w'.memory⟩ := ⟨hclone, hl₄⟩
  obtain ⟨s₄, t₅, r₁, w₂, hset, hinner, -, hservice, hlifted⟩ :=
    bracketed hruns (by rw [hs₃, hfree])
  rw [hs₃] at hset
  obtain ⟨hsame, ⟨⟨e, rfl⟩, hw₂⟩ | ⟨rfl, s₅, hcloned, hopened⟩⟩ := cloned_cleanly hinner
  · obtain ⟨rfl, hlift⟩ := hlifted (by rw [hw₂, hset.contains, hsource])
    rw [hw₂] at hlift
    obtain rfl : service₁ = w.service := hservice.trans hsame
    exact .inl ⟨hset.alike hlift hfree, hcache, e, rfl⟩
  · obtain ⟨held, hheld⟩ := NameMap.contains_eq_true.1 hsource
    have hthere : w₂.memory.store.contains m.sourceIndex = true := by
      obtain ⟨_, -, -, -, heq⟩ := Store.cloneIndex_eq_ok.1 hcloned
      rw [hopened.contains, heq]
      exact NameMap.contains_insert.2 (.inr (hset.contains.trans hsource))
    obtain ⟨rfl, hlift⟩ := hlifted hthere
    have hproperties : w.memory.store.properties? m.sourceIndex = some held.properties := by
      rw [Store.properties?, hheld]
      rfl
    have hgrows := Store.grows_of_cloning hset hcloned hopened hlift hfree hproperties hunbound
    have hfresh := hgrows.fresh
    refine .inr ⟨_, ⟨m.newIndex, _, hnew, ?_, halias ▸ hgrows⟩, ?_, _, rfl⟩
    · rw [hnew] at hfresh ⊢
      exact hstore.later hfound hfresh
    · obtain rfl : service₁ = w.service := hservice.trans hsame
      exact hcache

variable (hkey : w.service.aliasName key ∈ aliases)
  (hshape : ∀ a ∈ aliases, ∀ b ∈ aliases, ¬ IsGeneration b a)

include hkey hshape

/-- Making a collection comes to nothing, or it renews the collection. -/
theorem ensureExists_renews {r : Except ServiceError Bool}
    (h : (ensureExists key).Runs .none w t r w') :
    (w.memory.store.Alike w'.memory.store ∧ w'.service.cache = w.service.cache ∧ r ≠ .ok true) ∨
    w.Renews key (Store.indexOfBody (indexBody key w.service.mapping)).properties w' ∧
      w'.service.cache = w.service.cache.insert key w.service.mapping.signature ∧ r = .ok true := by
  rcases h.making (by decide) with ⟨hsame, hcache, hr⟩ |
    ⟨listed, found, s₁, s₂, s₃, o, hin, hs₁, hlist, hunbound, hcreated, hbind, hr, hcache⟩
  · rw [hsame]
    exact .inl ⟨.refl, hcache, hr⟩
  have hfound := hlist.listed hin
  rw [hs₁] at hfound
  obtain ⟨store', hput⟩ := Store.putAlias_of_contains (hstore.unnamed_beside (hshape _ hkey)
    (IndexNames.isGeneration_generationName _) fun _ => (Store.contains_created hcreated).1)
    ((Store.contains_created hcreated).2 (.inl rfl))
  obtain ⟨⟨⟨⟩, rfl⟩, hbound⟩ := hbind.accepted .intro hput
  have hgrows := Store.grows_of_making hcreated hput hunbound
  rw [← hbound] at hgrows
  exact .inr ⟨⟨_, _, rfl, hstore.later hfound hgrows.fresh, hgrows⟩, hcache, hr⟩

/-- Moving a collection comes to nothing, or it renews the collection. -/
theorem reindex_renews {r : Except ServiceError ReindexReport}
    (h : (reindex key).Runs .none w t r w') (hcalm : ∀ u ∈ t, u.before.pendingFailures = 0) :
    (w.memory.store.Alike w'.memory.store ∧ w'.service.cache = w.service.cache ∧ ∃ e, r = .error e) ∨
    w.Renews key (Store.indexOfBody (indexBody key w.service.mapping)).properties w' ∧
      w'.service.cache = w.service.cache.insert key w.service.mapping.signature ∧
      ∃ report, r = .ok report := by
  obtain ⟨hsaid, hl⟩ := h
  rcases hsaid.reindex with ⟨hr, hservice, hscouts⟩ | ⟨m, hm, bound, found, described, d', r', service₁,
    hnewest, hin, hnew, ht, hmove, rfl, hcache⟩
  · refine .inl ⟨?_, by rw [hservice], hr⟩
    rw [(hl.idle (by decide) fun x hx => (hscouts x hx).idle).2]
    exact .refl
  obtain ⟨s₁, t₁, rfl, hlook, ht₁, hl₁⟩ := hl.first ht
  obtain ⟨s₂, t₂, rfl, hlist, ht₂, hl₂⟩ := hl₁.first ht₁
  obtain ⟨s₃, t₃, rfl, hcreate, rfl, hl₃⟩ := hl₂.first ht₂
  have hs₁ : s₁.store = w.memory.store := hlook.store_of_looks fun _ => rfl
  have hs₂ : s₂.store = w.memory.store := (hlist.store_of_looks fun _ => rfl).trans hs₁
  have hfound := hlist.listed hin
  rw [hs₁] at hfound
  have hcreated := hcreate.perform_of_ok
  rw [hs₂] at hcreated
  -- The old index is the only one behind the alias, and it is not the new one.
  have hbound : w.memory.store.Carries m.oldIndex m.aliasName := by
    rw [hlook.bound_eq] at hnewest
    exact Store.mem_carriers.1 (mem_of_newestIndex? hnewest)
  obtain ⟨hfresh, hcarries, hblocked, -⟩ := Store.created hcreated
  have hne : m.newIndex ≠ m.oldIndex := by
    intro heq
    rw [heq, hbound.contains] at hfresh
    cases hfresh
  have hfree := hstore.unblocked hbound.contains
  have hfree₃ : s₃.store.blocked? m.oldIndex = some false := by rw [hblocked, if_neg hne, hfree]
  have hruns : m.operation.Runs .none ⟨w.service, s₃⟩ t₃ r' ⟨service₁, w'.memory⟩ := ⟨hmove, hl₃⟩
  obtain ⟨s₄, t₄, r₁, w₂, hset, hinner, hmem, hservice, hlifted⟩ := bracketed hruns hfree₃
  -- Under the block nothing is refused.
  obtain ⟨reply, s₅, s₆, rfl, hsame, hcopied, hput, hdelete⟩ :=
    moved_cleanly hinner (fun u hu => hcalm u (by simp [hmem u hu]))
      ((hset.carries _ _).2 ((hcarries _ _).2 hbound))
      (by rw [hset.blocked, if_neg hne.symm, hblocked, if_pos rfl])
      (hstore.unnamed_beside (hm.alias_eq ▸ hshape _ hkey) hm.generation fun i hi =>
        (Store.contains_created hcreated).1 (hset.contains ▸ hi))
  have hthere : w₂.memory.store.contains m.oldIndex = true := by
    have hold₅ : s₅.contains m.oldIndex = true := by
      rw [Store.SameBy.contains (Store.sameAliases_reindex hcopied), hset.contains]
      exact (Store.contains_created hcreated).2 (.inr hbound.contains)
    rw [(Store.sameBy_deleteAlias (f := (·.writeBlocked)) (fun _ _ => rfl) hdelete).contains,
      (Store.sameBy_putAlias (f := (·.writeBlocked)) (fun _ _ => rfl) hput).contains, hold₅]
  obtain ⟨rfl, hlift⟩ := hlifted hthere
  have hgrows := Store.grows_of_moving hcreated hset hcopied hput hdelete hlift
    (hstore.alone hbound) hfree
  refine .inr ⟨⟨m.newIndex, _, hnew, ?_, ?_⟩, ?_, _, rfl⟩
  · rw [hnew] at hfresh ⊢
    exact hstore.later hfound hfresh
  · rw [hm.alias_eq, hm.key_eq, hm.mapping_eq] at hgrows
    exact hgrows
  · obtain rfl : service₁ = w.service := hservice.trans hsame
    exact hcache reply rfl

end

end Operation.Runs

end SiteSearch
