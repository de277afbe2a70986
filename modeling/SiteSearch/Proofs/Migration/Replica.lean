import SiteSearch.Proofs.Migration.Blocks

/-!
# Clones are whole or absent

A clone makes a collection in one call: the new index has the documents and the mapping of its source
and carries the alias from the start, so there is no state in which the alias is bound to half a copy
(`Store.Replica`). What comes before that call, and what comes behind it, changes settings only
(`Store.KeepsContents`). `Operation.Runs.clone_is_whole_or_absent` says what is there behind a clone,
however calls fail.
-/

namespace SiteSearch

/-- What an index holds, apart from its settings and its block. -/
def StoredIndex.contents (index : StoredIndex) : NameMap Json × NameMap Json × NameMap Bool :=
  (index.documents, index.properties, index.aliases)

namespace Store

variable {start store store' store'' : Store} {source new a i j : String}

/-- Every index that was there holds what it held. -/
def KeepsContents (store store' : Store) : Prop :=
  ∀ i held, store.get? i = some held →
    ∃ held', store'.get? i = some held' ∧ held'.contents = held.contents

theorem KeepsContents.refl : store.KeepsContents store := fun _ held h => ⟨held, h, rfl⟩

theorem KeepsContents.trans (h : store.KeepsContents store') (h' : store'.KeepsContents store'') :
    store.KeepsContents store'' := by
  intro i held hget
  obtain ⟨held₁, hget₁, heq₁⟩ := h i held hget
  obtain ⟨held₂, hget₂, heq₂⟩ := h' i held₁ hget₁
  exact ⟨held₂, hget₂, heq₂.trans heq₁⟩

theorem SameBy.keepsContents (h : store.SameBy StoredIndex.contents store') :
    store.KeepsContents store' := fun _ _ hget => h.get? hget

theorem keepsContents_insert_new {held : StoredIndex} (h : store.contains new = false) :
    store.KeepsContents (store.insert new held) := by
  intro i held' hget
  have hne : i ≠ new := by
    rintro rfl
    rw [NameMap.contains_eq_false, hget] at h
    cases h
  exact ⟨held', (NameMap.get?_insert_ne hne).trans hget, rfl⟩

theorem sameContents_putSettings {settings : Json} (h : store.putSettings i settings = .ok store') :
    store.SameBy StoredIndex.contents store' :=
  sameBy_putSettings (fun _ _ _ => rfl) h

theorem SameBy.carries_of_contents (h : store.SameBy StoredIndex.contents store') :
    store'.Carries i a ↔ store.Carries i a := by
  have haliases : store.SameAliases store' := by
    intro i
    have hi := congrArg (Option.map (·.2.2)) (h i)
    simpa only [Option.map_map, Function.comp_def, StoredIndex.contents] using hi
  exact haliases.carries_iff

/-! ## Complete copies -/

/-- An alias that was bound nowhere is bound to one new index, which is a complete copy of a source as
it was: it has the same documents and the same mapping, it is open for writing, and it is marked as the
place to write to. -/
structure Replica (start : Store) (source new aliasName : String) (store : Store) : Prop where
  fresh : start.contains new = false
  alone : ∀ i, store.Carries i aliasName ↔ i = new
  copy : ∃ held held', start.get? source = some held ∧ store.get? new = some held' ∧
    held'.documents = held.documents ∧ held'.properties = held.properties ∧
    held'.writeBlocked = false ∧ held'.aliases.get? aliasName = some true

/-- Cloning makes a replica at once. -/
theorem replica_of_cloneIndex (hunbound : ∀ i, ¬ start.Carries i a)
    (hsame : start.SameBy StoredIndex.contents store)
    (hok : store.cloneIndex source new (cloneBody a) = .ok store') :
    start.Replica source new a store' ∧ start.KeepsContents store' := by
  obtain ⟨held, hget, -, hnew, rfl⟩ := cloneIndex_eq_ok.1 hok
  obtain ⟨held₀, hget₀, hcontents⟩ := hsame.get?_after hget
  obtain ⟨hdocuments, hrest⟩ := Prod.mk.inj hcontents
  obtain ⟨hproperties, -⟩ := Prod.mk.inj hrest
  refine ⟨⟨hsame.contains.symm.trans hnew, fun i => ?_, held₀, _, hget₀, NameMap.get?_insert_self,
    hdocuments, hproperties, rfl, ?_⟩, ?_⟩
  · rw [carries_insert_new hnew, contains_bodyAliases_cloneBody, hsame.carries_of_contents]
    constructor
    · rintro (⟨rfl, -⟩ | hi)
      · rfl
      · exact absurd hi (hunbound i)
    · rintro rfl
      exact .inl ⟨rfl, rfl⟩
  · rw [bodyAliases_cloneBody]
    exact NameMap.get?_insert_self
  · exact hsame.keepsContents.trans (keepsContents_insert_new hnew)

/-- A replica stays one when the block of an index is lifted. -/
theorem Replica.lifted (h : start.Replica source new a store) (hi : store.contains i = true)
    (hok : store.putSettings i (.ofFields [("index.blocks.write", .bool false)]) = .ok store') :
    start.Replica source new a store' := by
  have hsame := sameContents_putSettings hok
  obtain ⟨held, new', hget, hnew, hdocuments, hproperties, hfree, hmarked⟩ := h.copy
  obtain ⟨new'', hnew'', hcontents⟩ := hsame.get? hnew
  obtain ⟨hdocuments', hrest⟩ := Prod.mk.inj hcontents
  obtain ⟨hproperties', haliases'⟩ := Prod.mk.inj hrest
  refine ⟨h.fresh, fun j => hsame.carries_of_contents.trans (h.alone j), held, new'', hget, hnew'',
    hdocuments'.trans hdocuments, hproperties'.trans hproperties, ?_, by rw [haliases', hmarked]⟩
  have hblocked := blocked?_putSettings (j := new) hi hok
  rw [blocked?, hnew'', blocked?, hnew] at hblocked
  split at hblocked
  · exact Option.some.inj hblocked
  · exact (Option.some.inj hblocked).trans hfree

end Store

/-! ## Runs -/

variable {w w' : World} {t : List (Turn Memory)} {m : Cloning} {s s' : Memory}

/-- What goes before the copy changes settings only. -/
theorem Cloning.Prepares.sameContents {start : Store} {x : Exchange} (h : m.Prepares x)
    (hs : start.SameBy StoredIndex.contents s.store)
    (ha : Answers Memory.answer .unperformed x.1 s x.2 s') :
    start.SameBy StoredIndex.contents s'.store := by
  cases h with
  | look => rwa [ha.store_of_looks fun _ => rfl]
  | setBlock blocked o =>
    rcases o with e | _
    · rwa [ha.store_of_error (by decide)]
    · exact hs.trans (Store.sameContents_putSettings ha.perform_of_ok)
  | refused => rwa [ha.store_of_error (by decide)]

/-- What comes behind the copy leaves the replica as it is. -/
theorem Cloning.Lifts.replica {start : Store} {a : String} {x : Exchange} (h : m.Lifts x)
    (hsource : start.contains m.sourceIndex = true)
    (hs : start.Replica m.sourceIndex m.newIndex a s.store ∧ start.KeepsContents s.store)
    (ha : Answers Memory.answer .unperformed x.1 s x.2 s') :
    start.Replica m.sourceIndex m.newIndex a s'.store ∧ start.KeepsContents s'.store := by
  obtain ⟨hreplica, hkeeps⟩ := hs
  have hlift : ∀ {i : String} {o : (blockCall i false).Outcome}, s.store.contains i = true →
      Answers Memory.answer .unperformed (blockCall i false) s o s' →
      start.Replica m.sourceIndex m.newIndex a s'.store ∧ start.KeepsContents s'.store := by
    intro i o hi ha
    rcases o with e | _
    · rw [ha.store_of_error (by decide)]
      exact ⟨hreplica, hkeeps⟩
    · have hput := ha.perform_of_ok
      exact ⟨hreplica.lifted hi hput,
        hkeeps.trans (Store.sameContents_putSettings hput).keepsContents⟩
  cases h with
  | new o =>
    obtain ⟨-, new', -, hnew, -⟩ := hreplica.copy
    exact hlift (NameMap.contains_eq_true.2 ⟨new', hnew⟩) ha
  | source o =>
    obtain ⟨held, hget⟩ := NameMap.contains_eq_true.1 hsource
    obtain ⟨held', hget', -⟩ := hkeeps _ held hget
    exact hlift (NameMap.contains_eq_true.2 ⟨held', hget'⟩) ha

/-- However a clone goes on, it either makes a replica or nothing; it fails in the second case. -/
theorem Cloning.Goes.leads {d : List Exchange} {r : Except ServiceError Unit} (h : m.Goes d r)
    (hsource : s.store.contains m.sourceIndex = true)
    (hunbound : ∀ i, ¬ s.store.Carries i m.aliasName)
    (hl : Leads Memory.answer .unperformed s t s') (ht : t.map Turn.exchange = d) :
    (∀ u ∈ t, s.store.KeepsContents u.after.store) ∧ s.store.KeepsContents s'.store ∧
      ((∃ e, r = .error e) ∧ (∀ i, ¬ s'.store.Carries i m.aliasName) ∨
        s.store.Replica m.sourceIndex m.newIndex m.aliasName s'.store) := by
  have hprepares : ∀ {t : List (Turn Memory)} {s₁ : Memory},
      Leads Memory.answer .unperformed s t s₁ → (∀ x ∈ t.map Turn.exchange, m.Prepares x) →
      (∀ u ∈ t, s.store.SameBy StoredIndex.contents u.after.store) ∧
        s.store.SameBy StoredIndex.contents s₁.store := fun hl ht =>
    hl.keeps (J := fun s₁ => s.store.SameBy StoredIndex.contents s₁.store) (P := m.Prepares)
      (fun hx hs ha => hx.sameContents hs ha) ht .refl
  cases h with
  | halted hd =>
    obtain ⟨hturns, hlast⟩ := hprepares hl (ht ▸ hd)
    refine ⟨fun u hu => (hturns u hu).keepsContents, hlast.keepsContents, .inl ⟨⟨_, rfl⟩, fun i hi => ?_⟩⟩
    exact hunbound i (hlast.carries_of_contents.1 hi)
  | copied h₁ h₂ =>
    obtain ⟨s₁, t₁, t₂, rfl, rfl, ht₂, hl₁, hl₂⟩ := hl.split ht
    obtain ⟨s₂, t₃, rfl, hcopy, rfl, hl₃⟩ := hl₂.first ht₂
    obtain ⟨hturns₁, hlast₁⟩ := hprepares hl₁ h₁
    have hcopied := Store.replica_of_cloneIndex hunbound hlast₁ hcopy.perform_of_ok
    obtain ⟨hturns₃, hlast⟩ := hl₃.keeps
      (J := fun s₁ => s.store.Replica m.sourceIndex m.newIndex m.aliasName s₁.store ∧
        s.store.KeepsContents s₁.store) (P := m.Lifts)
      (fun hx hs ha => hx.replica hsource hs ha) h₂ hcopied
    refine ⟨fun u hu => ?_, hlast.2, .inr hlast.1⟩
    rcases List.mem_append.1 hu with hu | hu
    · exact (hturns₁ u hu).keepsContents
    rcases List.mem_cons.1 hu with rfl | hu
    · exact hcopied.2
    · exact (hturns₃ u hu).2

/-- A clone either changes nothing and fails, or it finds its alias unbound and an index behind the name
of its source. Then it leaves that alias unbound and fails, or makes a replica. -/
theorem Operation.Runs.clones {key : CollectionKey} {source : String}
    {r : Except ServiceError CloneReport}
    (h : (Operation.clone key source).Runs .unperformed w t r w') :
    ((∃ e, r = .error e) ∧ (∀ u ∈ t, u.after.store = w.memory.store) ∧
      w'.memory.store = w.memory.store ∧ w'.service.cache = w.service.cache) ∨
    ∃ m : Cloning, m.aliasName = w.service.aliasName key ∧
      w.memory.store.aliasExists m.aliasName = false ∧
      w.memory.store.Resolves source (t.map Turn.exchange) m.sourceIndex ∧
      (∀ u ∈ t, w.memory.store.KeepsContents u.after.store) ∧
      w.memory.store.KeepsContents w'.memory.store ∧ (∀ report, r = .ok report → report = m.report) ∧
      ((∃ e, r = .error e) ∧ (∀ i, ¬ w'.memory.store.Carries i m.aliasName) ∨
        w.memory.store.Replica m.sourceIndex m.newIndex m.aliasName w'.memory.store) := by
  obtain ⟨hsaid, hl⟩ := h
  rcases hsaid.clone with ⟨herror, hcache, hscouts⟩ | ⟨m, hm, o, found, d₁, d₂, r', service₁, -, -,
    hfinds, ht, hclone, rfl, -⟩
  · obtain ⟨hturns, hlast⟩ := hl.idle (by decide) fun x hx => (hscouts x hx).idle
    exact .inl ⟨herror, hturns, hlast, hcache⟩
  obtain ⟨s₁, t₁, rfl, hfree, ht₁, hl₁⟩ := hl.first ht
  obtain ⟨s₂, t₂, t₃, rfl, ht₂, ht₃, hl₂, hl₃⟩ := hl₁.split ht₁
  obtain ⟨s₃, t₄, rfl, hlist, rfl, hl₄⟩ := hl₃.first ht₃
  have hs₁ : s₁.store = w.memory.store := hfree.store_of_looks fun _ => rfl
  have hscouts : ∀ x ∈ t₂.map Turn.exchange, x.Idle := fun x hx =>
    (Cloning.scouts_of_finds hfinds x (ht₂ ▸ hx)).idle
  obtain ⟨hturns₂, hs₂⟩ := hl₂.idle (by decide) hscouts
  rw [hs₁] at hs₂ hturns₂
  have hs₃ : s₃.store = w.memory.store := (hlist.store_of_looks fun _ => rfl).trans hs₂
  have hunbound : w.memory.store.aliasExists m.aliasName = false := Except.ok.inj hfree.of_ok.1
  have hresolves := hfinds.resolves hl₂ ht₂
  rw [hs₁] at hresolves
  have hgoes := hclone.clone_goes.leads (by rw [hs₃]; exact hresolves.contains)
    (by
      rw [hs₃]
      intro i hi
      rw [Store.aliasExists_iff.2 ⟨i, hi⟩] at hunbound
      cases hunbound) hl₄ rfl
  rw [hs₃] at hgoes
  obtain ⟨hturns, hlast, hends⟩ := hgoes
  refine .inr ⟨m, hm, hunbound, hresolves.mono fun x hx => ?_, fun u hu => ?_, hlast, ?_, ?_⟩
  · rw [← ht₂] at hx
    simp only [List.map_cons, List.map_append, List.mem_cons, List.mem_append]
    exact .inr (.inl hx)
  · obtain rfl | hu | rfl | hu : u = _ ∨ u ∈ t₂ ∨ u = _ ∨ u ∈ t₄ := by simpa using hu
    · rw [hs₁]
      exact .refl
    · rw [hturns₂ u hu]
      exact .refl
    · rw [hs₃]
      exact .refl
    · exact hturns u hu
  · intro report hreport
    obtain ⟨-, -, rfl⟩ := map_eq_ok.1 hreport
    rfl
  · refine hends.imp_left fun ⟨⟨e, he⟩, hfailed⟩ => ⟨⟨e, ?_⟩, hfailed⟩
    rw [he]
    rfl

/-- A clone never changes what an index holds that was there before. Where its alias was bound, nothing
has happened, and that is what it reports unless the look at the alias has failed. Where it succeeds,
the new index alone carries the alias and is a complete copy of the index behind the name of the
source. Where it fails although the alias was not bound, there is such a copy all the same, or the
alias is not bound now either. -/
theorem Operation.Runs.clone_is_whole_or_absent {key : CollectionKey} {source : String}
    {r : Except ServiceError CloneReport}
    (h : (Operation.clone key source).Runs .unperformed w t r w') :
    (∀ u ∈ t, w.memory.store.KeepsContents u.after.store) ∧
    w.memory.store.KeepsContents w'.memory.store ∧
    (w.memory.store.aliasExists (w.service.aliasName key) = true →
      ((∀ u ∈ t, u.after.store = w.memory.store) ∧ w'.memory.store = w.memory.store ∧
        w'.service.cache = w.service.cache) ∧
      ((∀ e, ⟨.aliasExists (w.service.aliasName key), .error e⟩ ∉ t.map Turn.exchange) →
        r = .error (.destinationExists (w.service.aliasName key)))) ∧
    (∀ report, r = .ok report → report.destinationAlias = w.service.aliasName key ∧
      w.memory.store.Resolves source (t.map Turn.exchange) report.sourceIndex ∧
      w.memory.store.Replica report.sourceIndex report.newIndex report.destinationAlias
        w'.memory.store) ∧
    (w.memory.store.aliasExists (w.service.aliasName key) = false → ∀ e, r = .error e →
      w'.memory.store.aliasExists (w.service.aliasName key) = false ∨
      ∃ sourceIndex newIndex, w.memory.store.Resolves source (t.map Turn.exchange) sourceIndex ∧
        w.memory.store.Replica sourceIndex newIndex (w.service.aliasName key) w'.memory.store) := by
  have hrefused : w.memory.store.aliasExists (w.service.aliasName key) = true →
      (∀ e, ⟨.aliasExists (w.service.aliasName key), .error e⟩ ∉ t.map Turn.exchange) →
      r = .error (.destinationExists (w.service.aliasName key)) := by
    intro hbound hheard
    obtain ⟨o, d, ht, hr⟩ := h.1.clone_looks
    obtain ⟨s₁, t₁, rfl, hlook, -⟩ := h.2.first ht
    rcases o with e | bound
    · exact absurd List.mem_cons_self (hheard e)
    · have heq : w.memory.store.aliasExists (w.service.aliasName key) = bound :=
        Except.ok.inj hlook.of_ok.1
      exact hr (by rw [← heq, hbound])
  rcases h.clones with ⟨⟨e, rfl⟩, hturns, hlast, hcache⟩ | ⟨m, hm, hunbound, hresolves, hturns, hlast,
    hreport, hends⟩
  · refine ⟨fun u hu => ?_, ?_, fun hbound => ⟨⟨hturns, hlast, hcache⟩, hrefused hbound⟩, nofun,
      fun hunbound _ _ => .inl ?_⟩
    · rw [hturns u hu]
      exact .refl
    · rw [hlast]
      exact .refl
    · rw [hlast]
      exact hunbound
  rw [← hm] at hrefused ⊢
  refine ⟨hturns, hlast, fun hbound => ?_, fun report hok => ?_, fun _ e hfailed => ?_⟩
  · rw [hbound] at hunbound
    cases hunbound
  · obtain rfl := hreport report hok
    refine ⟨rfl, hresolves, ?_⟩
    rcases hends with ⟨⟨e, heq⟩, -⟩ | hreplica
    · rw [hok] at heq
      cases heq
    · exact hreplica
  · rcases hends with ⟨-, hnone⟩ | hreplica
    · refine .inl (Bool.eq_false_iff.2 fun hexists => ?_)
      obtain ⟨i, hi⟩ := Store.aliasExists_iff.1 hexists
      exact hnone i hi
    · exact .inr ⟨_, _, hresolves, hreplica⟩

/-- The English collection is cloned to the German one, and the lifting of the block of the clone
fails. The clone is complete all the same. -/
theorem Operation.Runs.clone_is_whole_after_failed_lifting :
    let document : Document := ⟨7, .ofList [("craft_attribute_title", "Home")]⟩
    let w := ((World.empty .plain).rehearse [(.upsert document .english, [])]).2
    let failed := Cue.unperformed (.backend "out of memory")
    let cloned := (Operation.clone .german "craftcms_en").rehearse (List.replicate 6 .heard ++ [failed]) w
    cloned.2.1.isOk = false ∧
      w.memory.store.aliasExists (w.service.aliasName .german) = false ∧
      cloned.2.2.memory.store.aliasExists (w.service.aliasName .german) = true ∧
      ∃ sourceIndex newIndex,
        w.memory.store.Replica sourceIndex newIndex (w.service.aliasName .german)
          cloned.2.2.memory.store := by
  intro document w failed cloned
  obtain ⟨hunbound, hbound⟩ : w.memory.store.aliasExists (w.service.aliasName .german) = false ∧
      cloned.2.2.memory.store.aliasExists (w.service.aliasName .german) = true := by decide +kernel
  obtain ⟨e, herror⟩ : ∃ e, cloned.2.1 = .error e :=
    ⟨.backend "out of memory", by decide +kernel⟩
  have hcues : ∀ cue ∈ List.replicate 6 Cue.heard ++ [failed], cue.AllowedBy .unperformed := by decide
  have hrun : (Operation.clone .german "craftcms_en").Runs .unperformed w cloned.1 cloned.2.1
      cloned.2.2 := Operation.runs_rehearse hcues rfl
  obtain ⟨-, -, -, -, hfails⟩ := Operation.Runs.clone_is_whole_or_absent hrun
  refine ⟨by rw [herror]; rfl, hunbound, hbound, ?_⟩
  rcases hfails hunbound e herror with hnone | ⟨sourceIndex, newIndex, -, hreplica⟩
  · rw [hbound] at hnone
    cases hnone
  · exact ⟨sourceIndex, newIndex, hreplica⟩

end SiteSearch
