import Mathlib.Data.List.Basic
import SiteSearch.Engine.Memory.Engine
import SiteSearch.Proofs.Memory.Backing

/-!
# What readers find

Under an alias a reader reaches every index that carries it, and a writer only one of them. A document
that is asked for by its id is that of the first index that has one (`getSource_eq_ok`), and a search
hits nothing but what some index has (`exists_document?_of_search`).

So a write is read back unless it is beside what readers see. An index strays (`Strays`) where readers
reach it and the writer does not; a document that is deleted is still found there
(`unread_deleted_iff`), and one that is put is found only behind those that come first
(`getSource_put_iff`).
-/

namespace SiteSearch.Store

variable {store store' : Store} {a id i j name : String} {document : Json} {held : StoredIndex}

/-- A reader under a name reaches the index. -/
def Reads (store : Store) (name index : String) : Prop :=
  ∃ targets, store.readTargets name = .ok targets ∧ index ∈ targets

/-- The document with an id in an index. -/
def document? (store : Store) (index id : String) : Option Json :=
  (store.get? index).bind fun held => held.documents.get? id

/-! ## Readers and the writer -/

theorem reads_of_contains (h : store.contains a = true) : store.Reads a i ↔ i = a := by
  rw [Reads, readTargets_of_contains h]
  simp

theorem reads_iff_carries (h : store.contains a = false) : store.Reads a i ↔ store.Carries i a := by
  rw [Reads, readTargets, if_neg (by simp [h]), ← mem_carriers]
  cases store.carriers a with
  | nil => simp
  | cons => simp

theorem rising_readTargets {targets : List String} (h : store.readTargets a = .ok targets) :
    targets.Pairwise (· < ·) := by
  unfold readTargets at h
  split at h
  · obtain rfl := Except.ok.inj h
    exact List.pairwise_singleton _ _
  · split at h
    · cases h
    · obtain rfl := Except.ok.inj h
      exact NameMap.rising_names _

/-- Who reaches which index depends on the aliases only. -/
theorem SameAliases.reads_iff (h : store.SameAliases store') : store'.Reads a i ↔ store.Reads a i := by
  have hcontains : store'.contains a = store.contains a := h.contains_eq
  cases ha : store.contains a with
  | true => rw [reads_of_contains ha, reads_of_contains (hcontains.trans ha)]
  | false => rw [reads_iff_carries ha, reads_iff_carries (hcontains.trans ha), h.carries_iff]

/-- The writer reaches an index that readers reach too. -/
theorem reads_of_writeTarget (h : store.writeTarget a = .ok i) : store.Reads a i := by
  cases ha : store.contains a with
  | true =>
    rw [writeTarget_of_contains ha] at h
    exact (reads_of_contains ha).2 (Except.ok.inj h).symm
  | false => exact (reads_iff_carries ha).2 (carries_of_writeTarget ha h).1

theorem Reads.contains (h : store.Reads a i) : store.contains i = true := by
  cases ha : store.contains a with
  | true =>
    rw [(reads_of_contains ha).1 h]
    exact ha
  | false => exact ((reads_iff_carries ha).1 h).contains

/-- Where there is something to read, a writer may be turned away, but not for want of an index. -/
theorem Reads.openForWriting_ne (h : store.Reads a i) (what : String) :
    store.openForWriting a ≠ .error (.notFound what) := by
  intro hrefused
  unfold openForWriting at hrefused
  cases htarget : store.writeTarget a with
  | error e =>
    obtain ⟨targets, htargets, -⟩ := h
    have he : e = .notFound what := by
      rw [htarget] at hrefused
      exact Except.error.inj hrefused
    unfold writeTarget at htarget
    rw [htargets] at htarget
    simp only [bind, Except.bind] at htarget
    split at htarget
    · cases htarget
    · split at htarget
      · cases htarget
      · rw [he] at htarget
        cases htarget
  | ok target =>
    obtain ⟨held, hget⟩ := NameMap.contains_eq_true.1 (reads_of_writeTarget htarget).contains
    simp only [htarget, index?_eq_ok.2 hget, bind, Except.bind] at hrefused
    split at hrefused
    · cases hrefused
    · cases hrefused

/-- A writer is turned away for want of an index exactly where there is nothing to read. -/
theorem openForWriting_notFound_iff :
    (∃ what, store.openForWriting a = .error (.notFound what)) ↔ ∀ i, ¬ store.Reads a i := by
  constructor
  · rintro ⟨what, hclosed⟩ i hreads
    exact hreads.openForWriting_ne what hclosed
  · intro hnone
    have hunnamed : store.contains a = false :=
      Bool.eq_false_iff.2 fun ha => hnone a ((reads_of_contains ha).2 rfl)
    have hcarriers : store.carriers a = [] :=
      List.eq_nil_iff_forall_not_mem.2 fun i hi =>
        hnone i ((reads_iff_carries hunnamed).2 (mem_carriers.1 hi))
    have hclosed : store.openForWriting a = .error (noSuchIndex a) := by
      rw [openForWriting, writeTarget, readTargets, if_neg (by simp [hunnamed]), hcarriers]
      rfl
    exact ⟨_, hclosed⟩

/-- Nothing is read under an alias that is bound nowhere, where no index has its name. -/
theorem unread_of_unbound (hname : store.contains a = false) (hfree : store.aliasExists a = false)
    (i : String) : ¬ store.Reads a i := fun hreads =>
  aliasExists_eq_false.1 hfree i ((reads_iff_carries hname).1 hreads)

/-! ## Documents -/

theorem documents_of_unread (h : ∀ i, ¬ store.Reads a i) : store.documents a = [] := by
  unfold documents
  cases htargets : store.readTargets a with
  | error e => rfl
  | ok targets =>
    obtain rfl : targets = [] :=
      List.eq_nil_iff_forall_not_mem.2 fun i hi => h i ⟨targets, htargets, hi⟩
    rfl

/-- Readers find the same documents where they reach the same indexes, each as it was. -/
theorem documents_congr (htargets : store'.readTargets a = store.readTargets a)
    (hget : ∀ i, store.Reads a i → store'.get? i = store.get? i) :
    store'.documents a = store.documents a := by
  unfold documents
  rw [htargets]
  cases hread : store.readTargets a with
  | error e => rfl
  | ok targets =>
    have hindexes : store'.indexesOf targets = store.indexesOf targets :=
      List.filterMap_congr fun i hi => hget i ⟨targets, hread, hi⟩
    dsimp only
    rw [hindexes]

/-! ## Single documents -/

theorem findSome?_indexesOf {targets : List String} :
    ((store.indexesOf targets).findSome? fun index => index.documents.get? id) =
      targets.findSome? (store.document? · id) := by
  rw [← List.head?_filterMap, ← List.head?_filterMap, indexesOf, List.filterMap_filterMap]
  rfl

/-- A look for a document finds one, or it says that there is none. -/
theorem getSource_cases (store : Store) (a id : String) :
    (∃ document, store.getSource a id = .ok document) ∨
      ∃ message, store.getSource a id = .error (.notFound message) := by
  unfold getSource readTargets
  split
  · simp only [bind, Except.bind]
    split
    · exact .inl ⟨_, rfl⟩
    · exact .inr ⟨_, rfl⟩
  · split
    · exact .inr ⟨_, rfl⟩
    · simp only [bind, Except.bind]
      split
      · exact .inl ⟨_, rfl⟩
      · exact .inr ⟨_, rfl⟩

/-- The document that is found is that of the first index that has one. -/
theorem getSource_eq_ok :
    store.getSource a id = .ok document ↔
      ∃ i, store.Reads a i ∧ store.document? i id = some document ∧
        ∀ j, store.Reads a j → j < i → store.document? j id = none := by
  unfold getSource Reads
  cases htargets : store.readTargets a with
  | error e => simp [bind, Except.bind]
  | ok targets =>
    have hrising := rising_readTargets htargets
    simp only [bind, Except.bind, findSome?_indexesOf, Except.ok.injEq, exists_eq_left']
    constructor
    · intro h
      split at h
      · rename_i found hfound
        obtain rfl := Except.ok.inj h
        obtain ⟨l₁, i, l₂, rfl, hi, hfirst⟩ := List.findSome?_eq_some_iff.1 hfound
        refine ⟨i, by simp, hi, fun j hj hlt => ?_⟩
        rcases List.mem_append.1 hj with hj | hj
        · exact hfirst j hj
        · -- what is listed behind an index comes later in the order of the names
          have hlater := (List.pairwise_append.1 hrising).2.1
          rcases List.mem_cons.1 hj with rfl | hj
          · exact absurd hlt (String.lt_irrefl _)
          · exact absurd (String.lt_trans hlt ((List.pairwise_cons.1 hlater).1 j hj))
              (String.lt_irrefl _)
      · cases h
    · rintro ⟨i, hi, hdocument, hfirst⟩
      obtain ⟨l₁, l₂, rfl⟩ := List.append_of_mem hi
      have hfound : (l₁ ++ i :: l₂).findSome? (store.document? · id) = some document := by
        refine List.findSome?_eq_some_iff.2 ⟨l₁, i, l₂, rfl, hdocument, fun j hj => ?_⟩
        have hlt : j < i := (List.pairwise_append.1 hrising).2.2 j hj i (by simp)
        exact hfirst j (List.mem_append_left _ hj) hlt
      rw [hfound]

theorem getSource_notFound :
    (∃ message, store.getSource a id = .error (.notFound message)) ↔
      ∀ i, store.Reads a i → store.document? i id = none := by
  unfold getSource Reads
  cases htargets : store.readTargets a with
  | error e =>
    have hmissing : e = noSuchIndex a := by
      unfold readTargets at htargets
      split at htargets
      · cases htargets
      · split at htargets
        · exact (Except.error.inj htargets).symm
        · cases htargets
    simp [bind, Except.bind, hmissing, noSuchIndex]
  | ok targets =>
    simp only [bind, Except.bind, findSome?_indexesOf, Except.ok.injEq, exists_eq_left']
    rw [← List.findSome?_eq_none_iff]
    cases targets.findSome? (store.document? · id) with
    | none => simp [noSuchDocument]
    | some document => simp

/-! ## Searches -/

/-- What is made of a list in one pass is made of its members. -/
theorem exists_of_mapM_eq_ok {α β : Type} {f : α → Except EngineError β} :
    ∀ {items : List α} {results : List β}, items.mapM f = .ok results →
      ∀ b ∈ results, ∃ x ∈ items, f x = .ok b
  | [], _, h, b, hb => by
    obtain rfl := Except.ok.inj h
    cases hb
  | x :: items, results, h, b, hb => by
    rw [List.mapM_cons] at h
    obtain ⟨first, hfirst, h⟩ := bind_eq_ok.1 h
    obtain ⟨rest, hrest, h⟩ := bind_eq_ok.1 h
    obtain rfl := Except.ok.inj h
    rcases List.mem_cons.1 hb with rfl | hb
    · exact ⟨x, List.mem_cons_self, hfirst⟩
    · obtain ⟨y, hy, heq⟩ := exists_of_mapM_eq_ok hrest b hb
      exact ⟨y, List.mem_cons_of_mem _ hy, heq⟩

/-- Readers are shown the documents of the indexes that they reach. -/
theorem mem_documents : (id, document) ∈ store.documents a ↔
    ∃ i, store.Reads a i ∧ store.document? i id = some document := by
  unfold documents Reads document?
  cases store.readTargets a with
  | error e => simp
  | ok targets =>
    simp only [List.mem_flatMap, indexesOf, List.mem_filterMap, Option.bind_eq_some_iff,
      NameMap.mem_entries, Except.ok.injEq, exists_eq_left']
    constructor
    · rintro ⟨held, ⟨i, hi, hget⟩, hdocument⟩
      exact ⟨i, hi, held, hget, hdocument⟩
    · rintro ⟨i, hi, held, hget, hdocument⟩
      exact ⟨held, ⟨i, hi, hget⟩, hdocument⟩

/-- A hit is a document of an index that readers reach. -/
theorem exists_document?_of_search {body : Json} {reply : SearchReply} {hit : SearchHit}
    (h : store.search a body = .ok reply) (hhit : hit ∈ reply.hits) :
    ∃ i document, store.Reads a i ∧ store.document? i hit.id = some document := by
  obtain ⟨targets, htargets, h⟩ := bind_eq_ok.1 h
  obtain ⟨found, hfound, h⟩ := bind_eq_ok.1 h
  obtain rfl := Except.ok.inj h
  have hmem : some hit ∈ found := by
    obtain ⟨_, hfound, rfl⟩ := List.mem_filterMap.1 (List.mem_mergeSort.1 (List.mem_of_mem_take hhit))
    exact hfound
  obtain ⟨⟨id, document⟩, hdocument, heq⟩ := exists_of_mapM_eq_ok hfound _ hmem
  obtain ⟨score, -, heq⟩ := bind_eq_ok.1 heq
  have hread : (id, document) ∈ store.documents a := by
    rw [documents, htargets]
    exact hdocument
  obtain ⟨i, hreads, hstored⟩ := mem_documents.1 hread
  cases score with
  | none => cases Except.ok.inj heq
  | some score =>
    obtain rfl := Option.some.inj (Except.ok.inj heq)
    exact ⟨i, document, hreads, hstored⟩

/-! ## Reading what was written -/

/-- Readers reach the index and the writer reaches another one. -/
structure Strays (store : Store) (name id index : String) : Prop where
  reads : store.Reads name index
  unwritten : ∃ target, store.writeTarget name = .ok target ∧ index ≠ target
  holds : ∃ document, store.document? index id = some document

/-- Where readers reach one index at most, none strays. -/
theorem not_strays_of_single (h : ∀ j, store.Reads a j → j = i) : ¬ store.Strays a id j := by
  rintro ⟨hreads, ⟨target, hwrites, hne⟩, -⟩
  exact hne ((h j hreads).trans (h target (reads_of_writeTarget hwrites)).symm)

/-- Readers find a document in the index that is not the one that the writer has put. -/
structure Shadows (store : Store) (name id : String) (document : Json) (index : String) : Prop where
  strays : store.Strays name id index
  other : store.document? index id ≠ some document
  front : ∀ target, store.writeTarget name = .ok target → index < target
  first : ∀ j, store.Reads name j → j < index → store.document? j id = none

section

variable {writes : List Write}

theorem document?_written :
    (store.written i held writes).document? j id =
      if i = j then (replay writes held.documents).get? id else store.document? j id := by
  rw [document?, written, NameMap.get?_insert]
  split
  · rfl
  · rfl

theorem reads_written (h : store.openForWriting a = .ok (i, held)) :
    (store.written i held writes).Reads a j ↔ store.Reads a j :=
  SameAliases.reads_iff (sameAliases_insert (openForWriting_eq_ok.1 h).2.1 rfl)

end

/-- A document that the engine does not have to delete is in no index that the writer reaches. -/
theorem of_deleteDocument_notFound {what : String}
    (h : store.deleteDocument a id = .error (.notFound what)) :
    (∀ i, ¬ store.Reads a i) ∨
      ∃ i held, store.openForWriting a = .ok (i, held) ∧ store = store.written i held [.delete id] := by
  cases hopen : store.openForWriting a with
  | error e =>
    obtain rfl := Except.error.inj ((deleteDocument_of_closed hopen).symm.trans h)
    exact .inl (openForWriting_notFound_iff.1 ⟨what, hopen⟩)
  | ok reached =>
    obtain ⟨i, held⟩ := reached
    refine .inr ⟨i, held, rfl, ?_⟩
    rcases deleteDocument_of_open hopen with hok | ⟨-, hkept⟩
    · rw [hok] at h
      cases h
    · exact hkept.symm

/-- Where a document has been deleted, readers find it no more unless an index strays. -/
theorem unread_deleted_iff (h : store.openForWriting a = .ok (i, held)) :
    (∀ j, (store.written i held [.delete id]).Reads a j →
        (store.written i held [.delete id]).document? j id = none) ↔
      ∀ j, ¬ store.Strays a id j := by
  have htarget := (openForWriting_eq_ok.1 h).1
  constructor
  · rintro hnone j ⟨hreads, ⟨target, hwrites, hne⟩, document, hdocument⟩
    obtain rfl := Except.ok.inj (htarget.symm.trans hwrites)
    have := hnone j ((reads_written h).2 hreads)
    rw [document?_written, if_neg hne.symm, hdocument] at this
    cases this
  · intro hstrays j hreads
    rw [document?_written]
    split
    · exact (NameMap.get?_erase ..).trans (if_pos rfl)
    · rename_i hne
      refine Option.eq_none_iff_forall_ne_some.2 fun document hdocument => hstrays j ?_
      exact ⟨(reads_written h).1 hreads, ⟨i, htarget, Ne.symm hne⟩, document, hdocument⟩

theorem document?_put : (store.written i held [.put id document]).document? i id = some document := by
  rw [document?_written, if_pos rfl]
  exact NameMap.get?_insert_self

/-- What readers find instead of a document that has been put is in front of it. -/
theorem exists_shadows_of_getSource_put {found : Json} (h : store.openForWriting a = .ok (i, held))
    (hfound : (store.written i held [.put id document]).getSource a id = .ok found)
    (hne : found ≠ document) : ∃ j, store.Shadows a id document j := by
  have htarget := (openForWriting_eq_ok.1 h).1
  obtain ⟨k, hk, hdocument, hfirst⟩ := getSource_eq_ok.1 hfound
  have hki : k ≠ i := by
    rintro rfl
    rw [document?_put] at hdocument
    exact hne (Option.some.inj hdocument).symm
  have hik : ¬ i < k := fun hlt => by
    have := hfirst i ((reads_written h).2 (reads_of_writeTarget htarget)) hlt
    rw [document?_put] at this
    cases this
  rw [document?_written, if_neg hki.symm] at hdocument
  refine ⟨k, ⟨(reads_written h).1 hk, ⟨i, htarget, hki⟩, found, hdocument⟩, ?_, ?_, ?_⟩
  · rw [hdocument]
    exact fun heq => hne (Option.some.inj heq)
  · intro target hwrites
    obtain rfl := Except.ok.inj (htarget.symm.trans hwrites)
    exact Decidable.not_not.1 fun hge => hki (eq_of_not_lt hge hik)
  · intro j hj hjk
    have hji : i ≠ j := fun heq => hik (heq ▸ hjk)
    have := hfirst j ((reads_written h).2 hj) hjk
    rwa [document?_written, if_neg hji] at this

/-- Where a document has been put, readers find it unless they find another one in front of it. -/
theorem getSource_put_iff (h : store.openForWriting a = .ok (i, held)) :
    (store.written i held [.put id document]).getSource a id = .ok document ↔
      ∀ j, ¬ store.Shadows a id document j := by
  have htarget := (openForWriting_eq_ok.1 h).1
  constructor
  · rintro hfound j ⟨⟨hreads, ⟨target, hwrites, hne⟩, old, hold⟩, hother, hfront, hfirst⟩
    obtain rfl := Except.ok.inj (htarget.symm.trans hwrites)
    obtain ⟨k, hk, hdocument, hnone⟩ := getSource_eq_ok.1 hfound
    -- the first index with a document comes neither behind the one that shadows nor in front of it
    have hjk : ¬ j < k := fun hlt => by
      have := hnone j ((reads_written h).2 hreads) hlt
      rw [document?_written, if_neg hne.symm, hold] at this
      cases this
    have hki : i ≠ k := fun heq => hjk (heq ▸ hfront i htarget)
    rw [document?_written, if_neg hki] at hdocument
    have hkj : ¬ k < j := fun hlt => by
      rw [hfirst k ((reads_written h).1 hk) hlt] at hdocument
      cases hdocument
    obtain rfl := eq_of_not_lt hjk hkj
    exact hother hdocument
  · intro hshadows
    rcases getSource_cases (store.written i held [.put id document]) a id with
      ⟨found, hfound⟩ | hmissing
    · rw [hfound]
      by_cases heq : found = document
      · rw [heq]
      · obtain ⟨j, hj⟩ := exists_shadows_of_getSource_put h hfound heq
        exact absurd hj (hshadows j)
    · have hgone := getSource_notFound.1 hmissing i
        ((reads_written h).2 (reads_of_writeTarget htarget))
      rw [document?_put] at hgone
      cases hgone

end SiteSearch.Store
