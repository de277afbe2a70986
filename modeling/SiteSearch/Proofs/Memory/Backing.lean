import SiteSearch.Proofs.Memory.Block
import SiteSearch.Proofs.Memory.Writing

/-!
# The index that backs an alias

An alias is backed by an index that alone carries it (`Store.Backs`). Then what is read and written
through the alias is in that index, unless its block keeps writers out. While a second index carries
the alias too, unmarked, and the first one is blocked, writers reach neither (`Store.Doubles`).

The calls of a move lead from one of these states to the next; `Backs.created`, `Holds.blocked`,
`Backs.copied`, `Backs.doubled` and `Doubles.backs` follow them in their order.
-/

namespace SiteSearch.Store

variable {store store' : Store} {a i old new : String} {D E : NameMap Json} {b : Bool}

/-- An index is there, is blocked or not, and has some documents. -/
def Holds (store : Store) (index : String) (blocked : Bool) (documents : NameMap Json) : Prop :=
  ∃ held, store.get? index = some held ∧ held.writeBlocked = blocked ∧ held.documents = documents

theorem Holds.contains (h : store.Holds i b D) : store.contains i = true := by
  obtain ⟨held, hget, -⟩ := h
  exact NameMap.contains_eq_true.2 ⟨held, hget⟩

theorem Holds.blocked?_eq (h : store.Holds i b D) : store.blocked? i = some b := by
  obtain ⟨held, hget, hblocked, -⟩ := h
  rw [blocked?, hget, Option.map_some, hblocked]

theorem Holds.congr (h : store.Holds i b D) (hget : store'.get? i = store.get? i) :
    store'.Holds i b D := by
  obtain ⟨held, hheld, hblocked, hdocuments⟩ := h
  exact ⟨held, hget.trans hheld, hblocked, hdocuments⟩

theorem ne_of_unnamed {held : StoredIndex} (hname : store.contains a = false)
    (h : store.get? i = some held) : i ≠ a := by
  rintro rfl
  rw [NameMap.contains_eq_false, h] at hname
  cases hname

theorem unnamed_insert {held : StoredIndex} (hname : store.contains a = false) (h : i ≠ a) :
    NameMap.contains (store.insert i held) a = false := by
  rw [NameMap.contains_eq_false, NameMap.get?_insert_ne h.symm]
  exact NameMap.contains_eq_false.1 hname

/-- One index alone carries an alias, and no index has its name. -/
structure Backs (store : Store) (aliasName index : String) (blocked : Bool)
    (documents : NameMap Json) : Prop where
  unnamed : store.contains aliasName = false
  carriers_eq : store.carriers aliasName = [index]
  holds : store.Holds index blocked documents

/-- Two indexes carry an alias, of which one is blocked and the other is not marked. -/
structure Doubles (store : Store) (aliasName old new : String) (documents : NameMap Json) :
    Prop where
  unnamed : store.contains aliasName = false
  carries : ∀ i, store.Carries i aliasName ↔ i = old ∨ i = new
  old : ∃ held, store.get? old = some held ∧ held.writeBlocked = true
  new : ∃ held, store.get? new = some held ∧ held.writeBlocked = false ∧
    held.documents = documents ∧ held.aliases.get? aliasName = some false

/-! ## Reading and writing -/

theorem writeTarget_of_carriers (hname : store.contains a = false) (h : store.carriers a = [i]) :
    store.writeTarget a = .ok i := by
  rw [writeTarget, readTargets, if_neg (by simp [hname]), h]
  rfl

/-- A writer reaches an index that carries the alias, and where several do it is marked. -/
theorem carries_of_writeTarget (hname : store.contains a = false)
    (h : store.writeTarget a = .ok i) :
    store.Carries i a ∧ (store.carriers a = [i] ∨ store.isMarked a i = true) := by
  rw [writeTarget, readTargets, if_neg (by simp [hname])] at h
  rw [← mem_carriers]
  cases hcarriers : store.carriers a with
  | nil =>
    rw [hcarriers] at h
    cases h
  | cons first rest =>
    rw [hcarriers] at h
    cases rest with
    | nil =>
      obtain rfl := Except.ok.inj h
      exact ⟨List.mem_singleton_self _, .inl rfl⟩
    | cons second rest =>
      obtain ⟨targets, heq, h⟩ := bind_eq_ok.1 h
      obtain rfl := Except.ok.inj heq
      simp only at h
      split at h
      · rename_i hfound
        obtain rfl := Except.ok.inj h
        exact ⟨List.mem_of_find?_eq_some hfound, .inr (List.find?_some hfound)⟩
      · cases h

/-- A writer reaches no index where every index with the alias is blocked, or else is one of several
and not marked. -/
theorem closed_of_carriers (hname : store.contains a = false)
    (h : ∀ i held, store.get? i = some held → store.Carries i a →
      held.writeBlocked = true ∨
        store.carriers a ≠ [i] ∧ held.aliases.get? a = some false) :
    ∃ e, store.openForWriting a = .error e := by
  cases hopen : store.openForWriting a with
  | error e => exact ⟨e, rfl⟩
  | ok reached =>
    obtain ⟨i, held⟩ := reached
    obtain ⟨htarget, hget, hfree⟩ := openForWriting_eq_ok.1 hopen
    obtain ⟨hcarries, hreached⟩ := carries_of_writeTarget hname htarget
    rcases h i held hget hcarries with hblocked | ⟨hseveral, hunmarked⟩
    · rw [hblocked] at hfree
      cases hfree
    · rcases hreached with halone | hmarked
      · exact absurd halone hseveral
      · rw [isMarked, hget, Option.bind_some, hunmarked] at hmarked
        cases hmarked

theorem Backs.writable (h : store.Backs a i false D) :
    ∃ held, store.openForWriting a = .ok (i, held) ∧ held.documents = D := by
  obtain ⟨held, hget, hfree, hdocuments⟩ := h.holds
  have htarget := writeTarget_of_carriers h.unnamed h.carriers_eq
  exact ⟨held, openForWriting_eq_ok.2 ⟨htarget, hget, hfree⟩, hdocuments⟩

theorem Backs.closed (h : store.Backs a i true D) : ∃ e, store.openForWriting a = .error e := by
  refine closed_of_carriers h.unnamed fun j held hget hcarries => .inl ?_
  obtain ⟨held', hget', hblocked, -⟩ := h.holds
  obtain rfl := (carriers_eq_singleton.1 h.carriers_eq j).1 hcarries
  obtain rfl := Option.some.inj (hget.symm.trans hget')
  exact hblocked

theorem Doubles.closed (h : store.Doubles a old new D) (hne : new ≠ old) :
    ∃ e, store.openForWriting a = .error e := by
  refine closed_of_carriers h.unnamed fun i held hget hcarries => ?_
  rcases (h.carries i).1 hcarries with rfl | rfl
  · obtain ⟨held', hget', hblocked⟩ := h.old
    obtain rfl := Option.some.inj (hget.symm.trans hget')
    exact .inl hblocked
  · obtain ⟨held', hget', -, -, hunmarked⟩ := h.new
    obtain rfl := Option.some.inj (hget.symm.trans hget')
    refine .inr ⟨fun halone => hne ?_, hunmarked⟩
    exact ((carriers_eq_singleton.1 halone old).1 ((h.carries old).2 (.inl rfl))).symm

/-- Readers under the alias find the documents of the index behind it. -/
theorem Backs.documents_eq (h : store.Backs a i b D) : store.documents a = D.entries := by
  obtain ⟨held, hget, -, rfl⟩ := h.holds
  have hread : store.readTargets a = .ok [i] := by
    rw [readTargets, if_neg (by simp [h.unnamed]), h.carriers_eq]
  simp [documents, hread, indexesOf, hget]

/-- A reader under the alias is given the document of the index behind it. -/
theorem Backs.getSource_eq {id : String} (h : store.Backs a i b D) :
    store.getSource a id = (D.get? id).elim (.error (noSuchDocument id)) .ok := by
  obtain ⟨held, hget, -, rfl⟩ := h.holds
  have hread : store.readTargets a = .ok [i] := by
    rw [readTargets, if_neg (by simp [h.unnamed]), h.carriers_eq]
  cases hdocument : held.documents.get? id <;>
    simp [getSource, hread, indexesOf, hget, hdocument, bind, Except.bind]

/-! ## From state to state -/

/-- An index backs its alias as long as no alias changes. -/
theorem Backs.of_sameAliases {b' : Bool} {D' : NameMap Json} (h : store.Backs a i b D)
    (hsame : store.SameAliases store') (hholds : store'.Holds i b' D') : store'.Backs a i b' D' where
  unnamed := hsame.contains_eq.trans h.unnamed
  carriers_eq := (carriers_congr fun _ => hsame.carries_iff).trans h.carriers_eq
  holds := hholds

/-- Writers reach the index behind an alias, which backs it as before when its documents are written. -/
theorem Backs.written (h : store.Backs a i false D) : ∃ held, store.openForWriting a = .ok (i, held) ∧
    ∀ writes, (store.written i held writes).Backs a i false (replay writes D) := by
  obtain ⟨held, hopen, rfl⟩ := h.writable
  obtain ⟨-, hget, hfree⟩ := openForWriting_eq_ok.1 hopen
  exact ⟨held, hopen, fun writes => h.of_sameAliases (sameAliases_insert hget rfl)
    ⟨_, NameMap.get?_insert_self, hfree, rfl⟩⟩

/-- A new index without the alias does not stand behind it. -/
theorem Backs.created {body : Json} (h : store.Backs a i b D)
    (hok : store.createIndex new body = .ok store')
    (hbody : (indexOfBody body).aliases.contains a = false) :
    store'.Backs a i b D ∧ new ≠ i ∧ store'.Holds new (indexOfBody body).writeBlocked {} := by
  obtain ⟨habsent, hfree, rfl⟩ := createIndex_eq_ok.1 hok
  have hname : new ≠ a := by
    rintro rfl
    rw [h.carriers_eq] at hfree
    cases hfree
  have hne : new ≠ i := by
    rintro rfl
    rw [h.holds.contains] at habsent
    cases habsent
  refine ⟨⟨unnamed_insert h.unnamed hname, ?_, h.holds.congr (NameMap.get?_insert_ne hne.symm)⟩, hne, ?_⟩
  · rw [← h.carriers_eq]
    refine carriers_congr fun j => (carries_insert_new habsent).trans ?_
    simp [hbody]
  · exact ⟨_, NameMap.get?_insert_self, rfl, rfl⟩

/-- The block of an index is set or lifted, and nothing else changes. -/
theorem Holds.blocked {blocked : Bool} (h : store.Holds i b D)
    (hok : store.putSettings i (.ofFields [("index.blocks.write", .bool blocked)]) = .ok store') :
    store'.Holds i blocked D ∧ ∀ j, j ≠ i → store'.get? j = store.get? j := by
  obtain ⟨held, hget, -, hdocuments⟩ := h
  rw [putSettings_eq_ok hget hok]
  refine ⟨⟨_, NameMap.get?_insert_self, ?_, hdocuments⟩,
    fun j hj => NameMap.get?_insert_ne hj⟩
  rw [withSettings, blockSetting?_block]
  rfl

/-- A copy takes the restricted documents into the new index, which must be open for that. -/
theorem Backs.copied {fields : List String} {failures : Nat} {reply : ReindexReply} {b' : Bool}
    (h : store.Backs a old b D) (hnew : store.Holds new b' {}) (hne : new ≠ old)
    (hok : store.reindex (copyBody old new fields) failures = .ok (store', reply)) :
    store'.Backs a old b D ∧ store'.Holds new false (restricted fields D) := by
  have hsame : store.SameAliases store' := sameAliases_reindex hok
  obtain ⟨held, hheld, -, hdocuments⟩ := h.holds
  obtain ⟨target, htarget, -, hempty⟩ := hnew
  obtain ⟨rfl, -, hopen⟩ := reindex_copyBody hheld htarget hok
  refine ⟨h.of_sameAliases hsame (h.holds.congr (NameMap.get?_insert_ne hne.symm)), _,
    NameMap.get?_insert_self, hopen, ?_⟩
  rw [hempty, hdocuments, NameMap.written_empty]

/-- Bound to a second index the alias is marked on none that is open. -/
theorem Backs.doubled (h : store.Backs a old true D) (hnew : store.Holds new false E)
    (hne : new ≠ old) (hok : store.putAlias new a = .ok store') : store'.Doubles a old new E := by
  have hcarries : ∀ i, store'.Carries i a ↔ i = old ∨ i = new := by
    intro i
    rw [carries_putAlias hok, carriers_eq_singleton.1 h.carriers_eq]
    simp [eq_comm, or_comm]
  obtain ⟨held, hheld, hblocked, -⟩ := h.holds
  obtain ⟨target, htarget, hfree, hdocuments⟩ := hnew
  obtain ⟨target', -, htarget', ⟨hbound, rfl⟩ | ⟨-, rfl⟩⟩ := putAlias_eq_ok.1 hok
  · obtain rfl := Option.some.inj (htarget.symm.trans htarget')
    exact absurd ((carriers_eq_singleton.1 h.carriers_eq new).1 ⟨target, htarget, hbound⟩) hne
  · obtain rfl := Option.some.inj (htarget.symm.trans htarget')
    have hname : new ≠ a := ne_of_unnamed h.unnamed htarget
    refine ⟨unnamed_insert h.unnamed hname, hcarries,
      ⟨held, (NameMap.get?_insert_ne hne.symm).trans hheld, hblocked⟩,
      _, NameMap.get?_insert_self, hfree, hdocuments, ?_⟩
    exact NameMap.get?_insert_self

/-- Unbound from the old index, which is left, the alias is backed by the new one. -/
theorem Doubles.backs (h : store.Doubles a old new E) (hne : new ≠ old)
    (hok : store.deleteAlias old a = .ok store') :
    store'.Backs a new false E ∧ store'.contains old = true := by
  have hcarries : ∀ i, store'.Carries i a ↔ i = new := by
    intro i
    rw [carries_deleteAlias hok, h.carries]
    constructor
    · rintro ⟨hold, rfl | rfl⟩
      · exact absurd ⟨rfl, rfl⟩ hold
      · rfl
    · rintro rfl
      exact ⟨fun hold => hne hold.1.symm, .inr rfl⟩
  obtain ⟨held, hheld, -, rfl⟩ := deleteAlias_eq_ok.1 hok
  obtain ⟨target, htarget, hfree, hdocuments, -⟩ := h.new
  refine ⟨⟨unnamed_insert h.unnamed (ne_of_unnamed h.unnamed hheld),
    carriers_eq_singleton.2 hcarries, target, (NameMap.get?_insert_ne hne).trans htarget, hfree, hdocuments⟩, ?_⟩
  exact NameMap.contains_eq_true.2 ⟨_, NameMap.get?_insert_self⟩

end SiteSearch.Store
