import SiteSearch.Proofs.Collection.Generation
import SiteSearch.Proofs.Memory.Answer
import SiteSearch.Proofs.Service.Lookup

/-!
# What a look at the engine in memory tells

A look leaves the store as it is. At an alias it names the indexes that carry the alias, and at a name
or a pattern it describes the indexes under it (`Store.mem_described`); the pattern of a collection
covers all of its generations. So whatever index a service finds behind a name is there
(`Operation.Finds.contains`), and where the look at the alias is answered it is the newest one that
carries the alias (`Operation.Finds.resolves`).
-/

namespace SiteSearch

variable {names : IndexNames} {key : CollectionKey} {found : List IndexDescription} {faults : Faults}

namespace Store

variable {store : Store} {pattern : String}

/-- The descriptions of the indexes with some names. -/
def described (store : Store) (indexes : List String) : List IndexDescription :=
  indexes.filterMap fun name => (store.get? name).map fun index => ⟨name, index.aliases.names⟩

theorem describe_eq_ok :
    store.describe pattern = .ok found ↔
      ∃ indexes, found = store.described indexes ∧
        if pattern.toList.getLast? = some '*' then indexes = store.names.filter (patternCovers pattern)
        else store.readTargets pattern = .ok indexes := by
  unfold describe described
  split <;> rw [bind_eq_ok] <;> refine exists_congr fun indexes => ?_
  · constructor
    · rintro ⟨⟨⟩, ⟨⟩⟩
      exact ⟨rfl, rfl⟩
    · rintro ⟨rfl, rfl⟩
      exact ⟨rfl, rfl⟩
  · constructor
    · rintro ⟨h, ⟨⟩⟩
      exact ⟨rfl, h⟩
    · rintro ⟨rfl, h⟩
      exact ⟨h, rfl⟩

theorem mem_described {indexes : List String} {index : IndexDescription} :
    index ∈ store.described indexes ↔ index.name ∈ indexes ∧
      ∃ held, store.get? index.name = some held ∧ index.aliases = held.aliases.names := by
  rw [described, List.mem_filterMap]
  constructor
  · rintro ⟨name, hname, hindex⟩
    obtain ⟨held, hget, rfl⟩ := Option.map_eq_some_iff.1 hindex
    exact ⟨hname, held, hget, rfl⟩
  · rintro ⟨hname, held, hget, haliases⟩
    exact ⟨index.name, hname, Option.map_eq_some_iff.2 ⟨held, hget, by rw [← haliases]⟩⟩

end Store

/-- The pattern of a collection covers its generations. -/
theorem covers_of_isGeneration {index : String} (h : IsGeneration (names.aliasName key) index) :
    Store.patternCovers (names.generationPattern key) index = true := by
  have hpattern : (names.generationPattern key).toList.dropLast =
      (names.aliasName key ++ "_").toList := by
    rw [IndexNames.generationPattern, String.toList_append, String.toList_append]
    simp [List.dropLast_append_of_ne_nil]
  obtain ⟨time, htime⟩ := Option.isSome_iff_exists.1 h
  obtain ⟨digits, hstrip, -⟩ := Option.bind_eq_some_iff.1 htime
  rw [Store.patternCovers, Text.startsWith, hpattern, hstrip]
  rfl

theorem getLast?_generationPattern : (names.generationPattern key).toList.getLast? = some '*' := by
  rw [IndexNames.generationPattern, String.toList_append]
  simp

/-- A look at the generations of a collection describes every one of them. -/
theorem Store.describes_generation {store : Store} {i : String} {held : StoredIndex}
    (h : store.describe (names.generationPattern key) = .ok found) (hget : store.get? i = some held)
    (hi : IsGeneration (names.aliasName key) i) : ⟨i, held.aliases.names⟩ ∈ found := by
  obtain ⟨indexes, rfl, hindexes⟩ := describe_eq_ok.1 h
  rw [if_pos getLast?_generationPattern] at hindexes
  subst hindexes
  have hcontains : store.contains i = true := NameMap.contains_eq_true.2 ⟨held, hget⟩
  refine mem_described.2 ⟨List.mem_filter.2 ⟨NameMap.mem_names.2 hcontains, ?_⟩, held, hget, rfl⟩
  exact covers_of_isGeneration hi

/-- A look at the generations of a collection is never refused. -/
theorem Store.describe_generationPattern {store : Store} :
    ∃ found, store.describe (names.generationPattern key) = .ok found :=
  ⟨_, describe_eq_ok.2 ⟨_, rfl, by rw [if_pos getLast?_generationPattern]⟩⟩

/-! ## Looks that are answered -/

theorem Answers.store_of_looks {c : EngineCall} {s s' : Memory} {o : c.Outcome}
    (h : Answers Memory.answer faults c s o s') (hlooks : c.Looks) : s'.store = s.store := by
  rcases h.store with heq | heq
  · exact heq
  · exact heq.trans (hlooks _)

/-- A look at an alias that is answered names the indexes that carry it. -/
theorem Answers.bound_eq {aliasName : String} {s s' : Memory} {bound : List String}
    (h : Answers Memory.answer faults (.getAlias aliasName) s (.ok bound) s') :
    bound = s.store.carriers aliasName := by
  have hok : s.store.aliasTargets aliasName = .ok bound := h.of_ok.1
  unfold Store.aliasTargets at hok
  split at hok
  · cases hok
  · exact (Except.ok.inj hok).symm

/-- A look at an alias that nothing carries is not answered. -/
theorem Answers.bound_ne_nil {aliasName : String} {s s' : Memory} {bound : List String}
    (h : Answers Memory.answer faults (.getAlias aliasName) s (.ok bound) s') : bound ≠ [] := by
  rintro rfl
  have hok : s.store.aliasTargets aliasName = .ok [] := h.of_ok.1
  rw [Store.aliasTargets, ← h.bound_eq] at hok
  cases hok

/-- Where no call may go wrong, a look at an alias fails only since nothing carries it. -/
theorem Answers.notFound_of_unbound {aliasName : String} {s s' : Memory} {e : EngineError}
    (h : Answers Memory.answer .none (.getAlias aliasName) s (.error e) s') :
    ∃ what, e = .notFound what := by
  have hfailed : .error e = s.store.aliasTargets aliasName := h.of_none.1
  unfold Store.aliasTargets at hfailed
  split at hfailed
  · exact ⟨_, Except.error.inj hfailed⟩
  · cases hfailed

/-- A look at the indexes under a pattern that is answered describes them. -/
theorem Answers.describe_eq {pattern : String} {s s' : Memory}
    (h : Answers Memory.answer faults (.getIndices pattern) s (.ok found) s') :
    s.store.describe pattern = .ok found := h.of_ok.1

theorem Memory.answer_getIndices {pattern : String} {s : Memory} :
    (Memory.answer (.getIndices pattern) s).1 = s.store.describe pattern := rfl

/-- Where no call may go wrong, a look at the generations of a collection is answered. -/
theorem Answers.exists_described {o : Except EngineError (List IndexDescription)} {s s' : Memory}
    (h : Answers Memory.answer .none (.getIndices (names.generationPattern key)) s o s') :
    ∃ found, o = .ok found ∧ s.store.describe (names.generationPattern key) = .ok found := by
  obtain ⟨found, hdescribe⟩ : ∃ found, s.store.describe (names.generationPattern key) = .ok found :=
    Store.describe_generationPattern
  exact ⟨found, (h.of_none.1.trans Memory.answer_getIndices).trans hdescribe, hdescribe⟩

/-- Where no call may go wrong, the generations of a collection are found. -/
theorem Answers.exists_found {o : Except EngineError (List IndexDescription)} {s s' : Memory}
    (h : Answers Memory.answer .none (.getIndices (names.generationPattern key)) s o s') :
    ∃ found, foundIn o = .ok found ∧ s.store.describe (names.generationPattern key) = .ok found := by
  obtain ⟨found, rfl, hdescribe⟩ := h.exists_described
  exact ⟨found, rfl, hdescribe⟩

/-- Where no call may go wrong, a look at the generations of a collection describes them. -/
theorem Answers.listed {o : Except EngineError (List IndexDescription)} {s s' : Memory}
    (h : Answers Memory.answer .none (.getIndices (names.generationPattern key)) s o s')
    (hfound : foundIn o = .ok found) :
    s.store.describe (names.generationPattern key) = .ok found := by
  obtain ⟨found', hfound', hdescribe⟩ := h.exists_found
  rw [hdescribe, Except.ok.inj (hfound'.symm.trans hfound)]

/-- Nothing has happened to the store: the call only looks, or it has failed. -/
inductive Exchange.Idle : Exchange → Prop where
  | looks {c : EngineCall} (h : c.Looks) (o : c.Outcome) : Idle ⟨c, o⟩
  | failed {c : EngineCall} (e : EngineError) : Idle ⟨c, .error e⟩

theorem Leads.idle {s s' : Memory} {t : List (Turn Memory)} (h : Leads Memory.answer faults s t s')
    (hfaults : faults ≠ .any) (ht : ∀ x ∈ t.map Turn.exchange, x.Idle) :
    (∀ u ∈ t, u.after.store = s.store) ∧ s'.store = s.store := by
  refine h.keeps (J := fun m => m.store = s.store) (fun hx hs ha => ?_) ht rfl
  cases hx with
  | looks hlooks => exact (ha.store_of_looks hlooks).trans hs
  | failed => exact (ha.store_of_error hfaults).trans hs

/-- The index behind a name: the newest one that carries it as an alias, or else, where the look at the
alias has failed, the first one that is described under it. -/
def Store.Resolves (store : Store) (name : String) (d : List Exchange) (index : String) : Prop :=
  newestIndex? (store.carriers name) = some index ∨
    (∃ e, ⟨.getAlias name, .error e⟩ ∈ d) ∧
      ∃ description rest, store.describe name = .ok (description :: rest) ∧ description.name = index

theorem Store.Resolves.mono {store : Store} {name index : String} {d d' : List Exchange}
    (h : store.Resolves name d index) (hd : ∀ x ∈ d, x ∈ d') : store.Resolves name d' index :=
  h.imp_right fun ⟨⟨e, he⟩, hdescribed⟩ => ⟨⟨e, hd _ he⟩, hdescribed⟩

/-- What a service finds behind a name is the index behind it. -/
theorem Operation.Finds.resolves {name index : String} {d : List Exchange} {s s' : Memory}
    {t : List (Turn Memory)} (h : Operation.Finds name d index)
    (hl : Leads Memory.answer faults s t s') (ht : t.map Turn.exchange = d) :
    s.store.Resolves name d index := by
  cases h with
  | behindAlias hnewest =>
    obtain ⟨s₁, t', rfl, hlook, -⟩ := hl.first ht
    rw [hlook.bound_eq] at hnewest
    exact .inl hnewest
  | @described o e index rest hfailed =>
    obtain ⟨s₁, t₁, rfl, halias, ht₁, hl₁⟩ := hl.first ht
    obtain ⟨s₂, t₂, rfl, hlook, -⟩ := hl₁.first ht₁
    have hdescribe := hlook.describe_eq
    rw [halias.store_of_looks fun _ => rfl] at hdescribe
    rcases o with e | bound
    · exact .inr ⟨⟨e, List.mem_cons_self⟩, index, rest, hdescribe, rfl⟩
    · obtain ⟨newest, hnewest⟩ := exists_newestIndex? halias.bound_ne_nil
      simp only [resolvedIn, hnewest] at hfailed
      cases hfailed

/-- An index behind a name is there. -/
theorem Store.Resolves.contains {store : Store} {name index : String} {d : List Exchange}
    (h : store.Resolves name d index) : store.contains index = true := by
  obtain hnewest | ⟨-, description, rest, hdescribe, rfl⟩ := h
  · exact (mem_carriers.1 (mem_of_newestIndex? hnewest)).contains
  · obtain ⟨indexes, hfound, -⟩ := describe_eq_ok.1 hdescribe
    have hmem : description ∈ store.described indexes := by
      rw [← hfound]
      exact List.mem_cons_self
    obtain ⟨-, held, hget, -⟩ := mem_described.1 hmem
    exact NameMap.contains_eq_true.2 ⟨held, hget⟩

/-- What is found behind a name is there. -/
theorem Operation.Finds.contains {name index : String} {d : List Exchange} {s s' : Memory}
    {t : List (Turn Memory)} (h : Operation.Finds name d index)
    (hl : Leads Memory.answer faults s t s') (ht : t.map Turn.exchange = d) :
    s.store.contains index = true :=
  (h.resolves hl ht).contains

end SiteSearch
