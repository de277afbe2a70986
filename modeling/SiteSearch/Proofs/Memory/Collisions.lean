import SiteSearch.Proofs.Memory.Answer

/-!
# Names that stand for an index and for an alias

A name is looked up among the indexes first and among the aliases second, which makes no difference
as long as no name is both (`Store.Collides`). The engine in memory guards that where an index is
asked for by name and where an alias is given to an index: the one must be no alias, the other no
index. Where it makes an index from a body it does not look at the aliases that the body brings, and
a clone is made under any name that is no index. `EngineCall.Clashes` says when such a call makes a
name stand for both; no other call does, so the two kinds of names stay apart exactly as long as no
such call is made (`Leads.collides_iff_clashes`).
-/

namespace SiteSearch

namespace Store

variable {store store' : Store} {a name : String}

/-- Some name is an index and an alias. -/
def Collides (store : Store) : Prop :=
  ∃ name, store.contains name = true ∧ ∃ i, store.Carries i name

/-- The indexes that a reader would reach if a name were looked up among the aliases first. -/
def aliasFirstTargets (store : Store) (name : String) : Except EngineError (List String) :=
  match store.carriers name with
  | [] => store.readTargets name
  | targets => .ok targets

theorem collides_iff_names :
    store.Collides ↔ ∃ name ∈ store.names, store.aliasExists name = true := by
  refine exists_congr fun name => and_congr ?_ aliasExists_iff.symm
  rw [NameMap.contains_eq_true, NameMap.mem_names, NameMap.contains_eq_true]

instance : DecidablePred Collides := fun _ => decidable_of_iff _ collides_iff_names.symm

/-- Where no name is both, it does not matter what it is taken for first. -/
theorem aliasFirstTargets_eq (h : ¬ store.Collides) :
    store.aliasFirstTargets name = store.readTargets name := by
  unfold aliasFirstTargets
  cases hcarriers : store.carriers name with
  | nil => rfl
  | cons i rest =>
    have hi : store.Carries i name := by
      rw [← mem_carriers, hcarriers]
      exact List.mem_cons_self
    have hname : ¬ store.contains name = true := fun hname => h ⟨name, hname, i, hi⟩
    rw [readTargets, if_neg hname, hcarriers]

/-! ## What an operation does to names -/

theorem SameAliases.collides_iff (h : store.SameAliases store') :
    store'.Collides ↔ store.Collides := by
  refine exists_congr fun name => and_congr ?_ (exists_congr fun i => h.carries_iff)
  rw [h.contains_eq]

/-- A new index collides by its own name, or by an alias that it carries. -/
theorem collides_insert_new {held : StoredIndex} (hfresh : store.contains name = false)
    (h : ¬ store.Collides) :
    Collides (store.insert name held) ↔
      (∃ i, store.Carries i name) ∨
        ∃ b, held.aliases.contains b = true ∧ (b = name ∨ store.contains b = true) := by
  constructor
  · rintro ⟨b, hb, i, hi⟩
    rw [NameMap.contains_insert] at hb
    rcases (carries_insert_new hfresh).1 hi with ⟨-, hgiven⟩ | hi
    · exact .inr ⟨b, hgiven, hb.imp Eq.symm id⟩
    · rcases hb with rfl | hb
      · exact .inl ⟨i, hi⟩
      · exact absurd ⟨b, hb, i, hi⟩ h
  · rintro (⟨i, hi⟩ | ⟨b, hgiven, hb⟩)
    · exact ⟨name, NameMap.contains_insert.2 (.inl rfl), i, (carries_insert_new hfresh).2 (.inr hi)⟩
    · refine ⟨b, NameMap.contains_insert.2 (hb.imp Eq.symm id), name, ?_⟩
      exact (carries_insert_new hfresh).2 (.inl ⟨rfl, hgiven⟩)

theorem not_collides_deleteIndex (hok : store.deleteIndex name = .ok store')
    (h : ¬ store.Collides) : ¬ store'.Collides := by
  obtain ⟨-, rfl⟩ := deleteIndex_eq_ok.1 hok
  rintro ⟨b, hb, i, hi⟩
  exact h ⟨b, (NameMap.contains_erase.1 hb).2, i, (carries_erase.1 hi).2⟩

/-- An alias that is given to an index is no index itself. -/
theorem not_collides_putAlias (hok : store.putAlias name a = .ok store') (h : ¬ store.Collides) :
    ¬ store'.Collides := by
  obtain ⟨-, ha, -⟩ := putAlias_eq_ok.1 hok
  rintro ⟨b, hb, i, hi⟩
  rw [(sameBy_putAlias (f := fun _ => ()) (fun _ _ => rfl) hok).contains] at hb
  rcases (carries_putAlias hok).1 hi with ⟨-, rfl⟩ | hi
  · rw [ha] at hb
    cases hb
  · exact h ⟨b, hb, i, hi⟩

theorem not_collides_deleteAlias (hok : store.deleteAlias name a = .ok store')
    (h : ¬ store.Collides) : ¬ store'.Collides := by
  rintro ⟨b, hb, i, hi⟩
  rw [(sameBy_deleteAlias (f := fun _ => ()) (fun _ _ => rfl) hok).contains] at hb
  exact h ⟨b, hb, i, ((carries_deleteAlias hok).1 hi).2⟩

end Store

/-! ## Calls -/

/-- An index that the call makes would carry an alias that is an index, or have a name that is an
alias: by the aliases of its body, or by the name of a clone. -/
def EngineCall.Clashes (store : Store) : EngineCall → Prop
  | createIndex name body =>
    ∃ b, (Store.bodyAliases body).contains b = true ∧ (b = name ∨ store.contains b = true)
  | cloneIndex _ target body =>
    (∃ i, store.Carries i target) ∨
      ∃ b, (Store.bodyAliases body).contains b = true ∧ (b = target ∨ store.contains b = true)
  | _ => False

/-- Only a call that clashes and is not refused makes a name stand for an index and an alias. -/
theorem Store.collides_after_iff {store : Store} (c : EngineCall) (h : ¬ store.Collides) :
    (store.after c).Collides ↔ (store.perform c).isOk ∧ c.Clashes store := by
  cases hp : store.perform c with
  | error e =>
    rw [Store.after, hp]
    exact ⟨fun hc => absurd hc h, fun hc => absurd hc.1 Bool.false_ne_true⟩
  | ok store' =>
    have hafter : store.after c = store' := by rw [Store.after, hp]; rfl
    rw [hafter]
    refine Iff.trans ?_ (and_iff_right rfl).symm
    by_cases hkeep : c.KeepsAliases
    · have hsame : store.SameAliases store' := hafter ▸ sameAliases_after hkeep
      rw [hsame.collides_iff]
      cases c with
      | createIndex | cloneIndex => exact hkeep.elim
      | _ => exact ⟨h, False.elim⟩
    cases c with
    | createIndex name body =>
      obtain ⟨hfresh, hcarriers, rfl⟩ := createIndex_eq_ok.1 hp
      rw [collides_insert_new hfresh h]
      refine or_iff_right ?_
      rintro ⟨i, hi⟩
      rw [← mem_carriers, hcarriers] at hi
      cases hi
    | cloneIndex source target body =>
      obtain ⟨held, -, -, hfresh, rfl⟩ := cloneIndex_eq_ok.1 hp
      exact collides_insert_new hfresh h
    | deleteIndex name => exact ⟨not_collides_deleteIndex hp h, False.elim⟩
    | putAlias name a => exact ⟨not_collides_putAlias hp h, False.elim⟩
    | deleteAlias name a => exact ⟨not_collides_deleteAlias hp h, False.elim⟩
    | _ => exact absurd trivial hkeep

/-- A turn of a clash that is not refused. -/
def Turn.Clashes (u : Turn Memory) : Prop :=
  u.outcome.isOk ∧ u.call.Clashes u.before.store

/-- What the engine answers to a call makes names collide exactly in a clash. -/
theorem Answers.collides_iff {c : EngineCall} {m m' : Memory} {o : c.Outcome}
    (ha : Answers Memory.answer .none c m o m') (h : ¬ m.store.Collides) :
    m'.store.Collides ↔ Turn.Clashes ⟨c, o, m, m'⟩ := by
  obtain ⟨rfl, rfl⟩ := ha.of_none
  rw [Memory.answer_store, Store.collides_after_iff c h]
  by_cases hchanges : c.Changes
  · rw [Turn.Clashes, Memory.isOk_answer hchanges]
  · have hno : ¬ c.Clashes m.store := by
      cases c with
      | createIndex | cloneIndex => exact absurd .intro hchanges
      | _ => exact id
    exact iff_of_false (fun hc => hno hc.2) fun hc => hno hc.2

/-! ## Any sequence of calls -/

/-- The program that makes some calls, whatever comes of them. -/
def Program.inTurn : List EngineCall → Program Unit
  | [] => .done ()
  | c :: calls => .call c fun _ => inTurn calls

/-- From a store without collisions, all states stay without collisions as long as nothing clashes. -/
theorem Leads.collides_iff : ∀ {t : List (Turn Memory)} {m m' : Memory},
    Leads Memory.answer .none m t m' → ¬ m.store.Collides →
      ((∀ u ∈ t, ¬ u.after.store.Collides) ↔ ∀ u ∈ t, ¬ u.Clashes)
  | [], _, _, _, _ => by simp
  | ⟨c, o, before, after⟩ :: t, m, m', ⟨hbefore, ha, hl⟩, h => by
    obtain rfl : before = m := hbefore
    have hfirst := ha.collides_iff h
    rw [List.forall_mem_cons, List.forall_mem_cons, ← hfirst]
    exact and_congr_right fun hafter => hl.collides_iff hafter

/-- Whatever an engine without indexes is asked: no name ever stands for an index and an alias,
unless an index is made from a body with an alias that is an index or the new index itself, or a
clone is made under an alias. Until then the order of lookups makes no difference. -/
theorem Leads.collides_iff_clashes {t : List (Turn Memory)} {m : Memory}
    (h : Leads Memory.answer .none {} t m) :
    ((∀ u ∈ t, ¬ u.after.store.Collides) ↔ ∀ u ∈ t, ¬ u.Clashes) ∧
      ((∀ u ∈ t, ¬ u.Clashes) → ∀ u ∈ t, ∀ name,
        u.after.store.aliasFirstTargets name = u.after.store.readTargets name) := by
  have hempty : ¬ Store.Collides {} := by
    rintro ⟨name, hname, -⟩
    cases hname
  have hiff := h.collides_iff hempty
  exact ⟨hiff, fun hno u hu name => Store.aliasFirstTargets_eq (hiff.2 hno u hu)⟩

/-- Two indexes and an alias of both keep their three names apart. -/
theorem Leads.three_names_apart :
    let turns := (Program.inTurn [.createIndex "a" (.ofFields []),
      .createIndex "b" (.ofFields [("aliases", .ofFields [("c", .ofFields [])])]),
      .putAlias "a" "c"]).play Memory.answer [] {}
    (∀ u ∈ turns.1, ¬ u.Clashes) ∧ ∀ u ∈ turns.1, ∀ name,
      u.after.store.aliasFirstTargets name = u.after.store.readTargets name := by
  intro turns
  have hiff := Leads.collides_iff_clashes (t := turns.1) (m := turns.2.2)
    (Program.runs_play (by simp)).2
  have hapart : ∀ u ∈ turns.1, ¬ u.after.store.Collides := by decide +kernel
  exact ⟨hiff.1.1 hapart, hiff.2 (hiff.1.1 hapart)⟩

/-- Names do come to stand for both: an index is made with an alias that another index has for its
name, and then a reader who tried aliases first would read elsewhere. -/
theorem Leads.names_collide :
    ¬ ∀ (t : List (Turn Memory)) (m : Memory), Leads Memory.answer .none {} t m →
      ∀ u ∈ t, ¬ u.after.store.Collides ∧ ∀ name,
        u.after.store.aliasFirstTargets name = u.after.store.readTargets name := by
  intro hall
  let turns := (Program.inTurn [.createIndex "a" (.ofFields []),
    .createIndex "b" (.ofFields [("aliases", .ofFields [("a", .ofFields [])])])]).play
      Memory.answer [] {}
  have hapart := hall turns.1 turns.2.2 (Program.runs_play (by simp)).2
  have hcollides : ∃ u ∈ turns.1, u.after.store.Collides ∧
      u.after.store.aliasFirstTargets "a" = .ok ["b"] ∧ u.after.store.readTargets "a" = .ok ["a"] := by
    decide +kernel
  obtain ⟨u, hu, hc, -⟩ := hcollides
  exact (hapart u hu).1 hc

end SiteSearch
