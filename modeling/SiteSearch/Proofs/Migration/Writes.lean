import SiteSearch.Proofs.Memory.Backing
import SiteSearch.Proofs.Migration.Opening
import SiteSearch.Proofs.Service.Sharing

/-!
# Writes during a move

While a reindex goes on clients may write through the alias between any two of its calls. As long as
the old index is open they write there. From the block to the unbinding they are turned away: first
the old index alone is behind the alias and blocked, then the alias covers two indexes and no open one
is marked. Behind the unbinding they write into the new index.

So a move that succeeds loses no acknowledged write (`Operation.RunsAmong.reindex_keeps_writes`):
what was written before the copy is copied with the rest, and what is written behind it is written
over the copy.
-/

namespace SiteSearch

/-- The writes of a step that have been acknowledged to a client. -/
def Step.acknowledged : Step → List Write
  | own _ => []
  | client u => u.exchange.acknowledged

/-- The writes that have been acknowledged to clients, in their order. -/
def acknowledged (t : List Step) : List Write := t.flatMap Step.acknowledged

@[simp]
theorem acknowledged_nil : acknowledged [] = [] := rfl

@[simp]
theorem acknowledged_append {t t' : List Step} :
    acknowledged (t ++ t') = acknowledged t ++ acknowledged t' := List.flatMap_append

@[simp]
theorem acknowledged_own {u : Turn Memory} {t : List Step} :
    acknowledged (.own u :: t) = acknowledged t := rfl

theorem acknowledged_clients {us : List (Turn Memory)} :
    acknowledged (us.map .client) = us.flatMap fun u => u.exchange.acknowledged := by
  rw [acknowledged, List.flatMap_map]
  rfl

/-- Clients are refused with all that they write, and change nothing. -/
def TurnsAway (t : List Step) : Prop :=
  ∀ u, .client u ∈ t → u.exchange.Refused ∧ u.after.store = u.before.store

namespace TurnsAway

variable {t t' : List Step} {u : Turn Memory}

theorem append (h : TurnsAway t) (h' : TurnsAway t') : TurnsAway (t ++ t') := by
  intro u hu
  rcases List.mem_append.1 hu with hu | hu
  · exact h u hu
  · exact h' u hu

theorem nil : TurnsAway [] := by
  intro u hu
  cases hu

/-- The operation may make a call in between. -/
theorem through (h : TurnsAway t) (h' : TurnsAway t') : TurnsAway (t ++ .own u :: t') := by
  refine h.append fun v hv => h' v ?_
  simpa using hv

theorem acknowledged_eq_nil (h : TurnsAway t) : acknowledged t = [] := by
  refine List.flatMap_eq_nil_iff.2 fun x hx => ?_
  cases x with
  | own u => rfl
  | client u => exact (h u hx).1.acknowledged_eq_nil

end TurnsAway

variable {m : Move} {a i : String} {b : Bool} {s s' : Memory} {t : List Step} {D E : NameMap Json}

/-! ## Stretches -/

/-- Where writers reach no index, clients are turned away. -/
theorem Leads.turnsAway {us : List (Turn Memory)} {e : EngineError}
    (hl : Leads Memory.answer .unperformed s us s') (hus : ∀ u ∈ us, u.call.WritesThrough a)
    (h : s.store.openForWriting a = .error e) :
    s'.store = s.store ∧ TurnsAway (us.map .client) := by
  obtain ⟨hs', hrefused⟩ := hl.refused hus h
  exact ⟨hs', fun u hu => hrefused u (by simpa using hu)⟩

/-- Clients write into the index behind the alias and change nothing else; where it is blocked they
are turned away. -/
theorem Leads.backs {us : List (Turn Memory)} (hl : Leads Memory.answer .unperformed s us s')
    (hus : ∀ u ∈ us, u.call.WritesThrough a) (h : s.store.Backs a i b D) :
    s'.store.Backs a i b (replay (acknowledged (us.map .client)) D) ∧
      (∀ j, j ≠ i → s'.store.get? j = s.store.get? j) ∧
      (b = true → TurnsAway (us.map .client)) := by
  cases b with
  | false =>
    obtain ⟨held, hopen, hdocuments⟩ := h.writable
    have hs' := hl.written hus hopen
    obtain ⟨-, hget, hfree⟩ := Store.openForWriting_eq_ok.1 hopen
    have hsame : s.store.SameAliases s'.store := by
      rw [hs']
      exact Store.sameAliases_insert hget rfl
    refine ⟨h.of_sameAliases hsame ?_, fun j hj => ?_, by simp⟩
    · rw [hs', acknowledged_clients, ← hdocuments]
      exact ⟨_, NameMap.get?_insert_self, hfree, rfl⟩
    · rw [hs']
      exact NameMap.get?_insert_ne hj
  | true =>
    obtain ⟨e, hclosed⟩ := h.closed
    obtain ⟨hs', haway⟩ := hl.turnsAway hus hclosed
    rw [hs', haway.acknowledged_eq_nil]
    exact ⟨h, fun _ _ => rfl, fun _ => haway⟩

/-- Up to the next call of the operation clients write into the index behind the alias. -/
theorem LeadsAmong.backed {c : EngineCall} {o : c.Outcome} {d : List Exchange}
    (hl : LeadsAmong (EngineCall.WritesThrough a) .unperformed s t s')
    (hd : ownDialogue t = ⟨c, o⟩ :: d) (h : s.store.Backs a i b D) :
    ∃ (t₁ : List Step) (s₁ s₂ : Memory) (t₂ : List Step),
      t = t₁ ++ .own ⟨c, o, s₁, s₂⟩ :: t₂ ∧ s₁.store.Backs a i b (replay (acknowledged t₁) D) ∧
      (∀ j, j ≠ i → s₁.store.get? j = s.store.get? j) ∧ (b = true → TurnsAway t₁) ∧
      Answers Memory.answer .unperformed c s₁ o s₂ ∧ ownDialogue t₂ = d ∧
      LeadsAmong (EngineCall.WritesThrough a) .unperformed s₂ t₂ s' := by
  obtain ⟨us, s₁, s₂, t₂, rfl, hus, hcalls, ha, hd₂, hl₂⟩ := hl.own hd
  obtain ⟨hbacks, hothers, haway⟩ := hus.backs hcalls h
  exact ⟨_, s₁, s₂, t₂, rfl, hbacks, hothers, haway, ha, hd₂, hl₂⟩

/-! ## The course of a move that succeeds -/

namespace Move

/-- The new index has been made and not filled, and the alias is backed by the old one. -/
structure Opened (m : Move) (b : Bool) (D : NameMap Json) (store : Store) : Prop where
  backs : store.Backs m.aliasName m.oldIndex b D
  empty : ∃ b', store.Holds m.newIndex b' {}
  ne : m.newIndex ≠ m.oldIndex

/-- The first four calls of a move find the index behind the alias and its block, and make the new
index. -/
theorem opens {bound : List String} {pattern : String} {settings : Json} {d : List Exchange}
    {found : (EngineCall.getIndices pattern).Outcome}
    (hl : LeadsAmong (EngineCall.WritesThrough m.aliasName) .unperformed s t s')
    (hd : ownDialogue t = ⟨.getAlias m.aliasName, .ok bound⟩ :: ⟨.getIndices pattern, found⟩ ::
      ⟨m.create, .ok ()⟩ :: ⟨m.look, .ok settings⟩ :: d)
    (hnewest : newestIndex? bound = some m.oldIndex) (h : s.store.Backs m.aliasName i b D) :
    m.oldIndex = i ∧ Operation.saysBlocked settings = b ∧
      ∃ (t₁ t₂ : List Step) (s₁ : Memory), t = t₁ ++ t₂ ∧
        m.Opened b (replay (acknowledged t₁) D) s₁.store ∧ (b = true → TurnsAway t₁) ∧
        ownDialogue t₂ = d ∧
        LeadsAmong (EngineCall.WritesThrough m.aliasName) .unperformed s₁ t₂ s' := by
  obtain ⟨t₁, s₁, s₁', t, rfl, h₁, -, haway₁, ha₁, hd, hl⟩ := hl.backed hd h
  obtain rfl : m.oldIndex = i := by
    have hmem := mem_of_newestIndex? hnewest
    rw [ha₁.bound_eq, h₁.carriers_eq] at hmem
    exact List.mem_singleton.1 hmem
  rw [← ha₁.store_of_looks fun _ => rfl] at h₁
  obtain ⟨t₂, s₂, s₂', t, rfl, h₂, -, haway₂, ha₂, hd, hl⟩ := hl.backed hd h₁
  rw [← ha₂.store_of_looks fun _ => rfl] at h₂
  obtain ⟨t₃, s₃, s₃', t, rfl, h₃, -, haway₃, ha₃, hd, hl⟩ := hl.backed hd h₂
  obtain ⟨h₃, hne, hempty⟩ :=
    h₃.created ha₃.perform_of_ok Store.contains_aliases_indexOfBody
  obtain ⟨t₄, s₄, s₄', t, rfl, h₄, hothers, haway₄, ha₄, hd, hl⟩ := hl.backed hd h₃
  have hs₄ : s₄'.store = s₄.store := ha₄.store_of_looks fun _ => rfl
  have hblocked := (Store.saysBlocked_getSettings ha₄.of_ok.1).symm.trans h₄.holds.blocked?_eq
  refine ⟨rfl, Option.some.inj hblocked,
    t₁ ++ .own _ :: (t₂ ++ .own _ :: (t₃ ++ .own _ :: (t₄ ++ [.own _]))), t, s₄',
    by simp; exact ⟨rfl, rfl, rfl, rfl⟩, ⟨?_, ?_, hne⟩, fun hb => ?_, hd, hl⟩
  · rw [hs₄]
    simp only [acknowledged_append, acknowledged_own, acknowledged_nil, List.append_nil,
      replay_append]
    exact h₄
  · rw [hs₄]
    exact ⟨_, hempty.congr (hothers m.newIndex hne)⟩
  · exact (haway₁ hb).through ((haway₂ hb).through ((haway₃ hb).through ((haway₄ hb).through .nil)))

/-- Setting the block closes the old index. -/
theorem Opened.blocks {d : List Exchange} (h : m.Opened false D s.store)
    (hl : LeadsAmong (EngineCall.WritesThrough m.aliasName) .unperformed s t s')
    (hd : ownDialogue t = ⟨m.setBlock true, .ok ()⟩ :: d) :
    ∃ (t₁ t₂ : List Step) (u : Turn Memory), t = t₁ ++ .own u :: t₂ ∧
      u.exchange = ⟨m.setBlock true, .ok ()⟩ ∧
      m.Opened true (replay (acknowledged t₁) D) u.after.store ∧ ownDialogue t₂ = d ∧
      LeadsAmong (EngineCall.WritesThrough m.aliasName) .unperformed u.after t₂ s' := by
  obtain ⟨t₁, s₁, s₁', t₂, rfl, h₁, hothers, -, ha, hd, hl⟩ := hl.backed hd h.backs
  obtain ⟨b', hempty⟩ := h.empty
  have hok : s₁.store.putSettings m.oldIndex (.ofFields [("index.blocks.write", .bool true)]) =
      .ok s₁'.store := ha.perform_of_ok
  obtain ⟨hblocked, hothers'⟩ := h₁.holds.blocked hok
  refine ⟨t₁, t₂, _, rfl, rfl, ⟨?_, ⟨b', ?_⟩, h.ne⟩, hd, hl⟩
  · exact h₁.of_sameAliases (Store.sameAliases_putSettings hok) hblocked
  · exact hempty.congr ((hothers' _ h.ne).trans (hothers _ h.ne))

/-- While documents and alias are brought over, clients are turned away. Then the alias is backed by
the new index, which has the documents that the old one had when it was closed. -/
theorem Opened.transfers {reply : ReindexReply} {d : List Exchange} (h : m.Opened true D s.store)
    (hl : LeadsAmong (EngineCall.WritesThrough m.aliasName) .unperformed s t s')
    (hd : ownDialogue t = m.transfer reply ++ d) :
    ∃ (t₁ t₂ t₃ : List Step) (u v : Turn Memory), t = t₁ ++ .own u :: (t₂ ++ .own v :: t₃) ∧
      u.exchange = ⟨m.copy, .ok reply⟩ ∧ v.exchange = ⟨m.unbind, .ok ()⟩ ∧
      TurnsAway t₁ ∧ TurnsAway t₂ ∧
      v.after.store.Backs m.aliasName m.newIndex false (Store.restricted m.mapping.names D) ∧
      v.after.store.contains m.oldIndex = true ∧ ownDialogue t₃ = d ∧
      LeadsAmong (EngineCall.WritesThrough m.aliasName) .unperformed v.after t₃ s' := by
  obtain ⟨t₁, s₁, s₁', t, rfl, h₁, hothers, haway₁, ha₁, hd, hl⟩ := hl.backed hd h.backs
  rw [(haway₁ rfl).acknowledged_eq_nil] at h₁
  obtain ⟨b', hempty⟩ := h.empty
  obtain ⟨failures, hcopied⟩ := ha₁.reindexed
  obtain ⟨h₁, hfilled⟩ := h₁.copied (hempty.congr (hothers _ h.ne)) h.ne hcopied
  obtain ⟨t₂, s₂, s₂', t, rfl, h₂, hothers, haway₂, ha₂, hd, hl⟩ := hl.backed hd h₁
  rw [(haway₂ rfl).acknowledged_eq_nil] at h₂
  have h₂' := h₂.doubled (hfilled.congr (hothers _ h.ne)) h.ne ha₂.perform_of_ok
  obtain ⟨us, s₃, s₃', t₃, rfl, hus, hcalls, ha₃, hd, hl⟩ := hl.own hd
  obtain ⟨e, hclosed⟩ := h₂'.closed h.ne
  obtain ⟨hs₃, haway₃⟩ := hus.turnsAway hcalls hclosed
  rw [← hs₃] at h₂'
  obtain ⟨hbacks, hold⟩ := h₂'.backs h.ne ha₃.perform_of_ok
  exact ⟨t₁, t₂ ++ .own _ :: us.map .client, t₃, _, _, by simp; exact ⟨rfl, rfl, rfl⟩, rfl, rfl,
    haway₁ rfl, (haway₂ rfl).through haway₃, hbacks, hold, hd, hl⟩

/-- Behind the unbinding clients write into the new index; lifting the block of the old one is nothing
to them. -/
theorem reopens (hl : LeadsAmong (EngineCall.WritesThrough m.aliasName) .unperformed s t s')
    (hd : ownDialogue t = [] ∨ ownDialogue t = [⟨m.setBlock false, .ok ()⟩])
    (h : s.store.Backs m.aliasName m.newIndex false E)
    (hold : s.store.contains m.oldIndex = true) (hne : m.newIndex ≠ m.oldIndex) :
    s'.store.Backs m.aliasName m.newIndex false (replay (acknowledged t) E) := by
  rcases hd with hd | hd
  · obtain ⟨us, rfl, hus, hcalls⟩ := hl.own_nil hd
    exact (hus.backs hcalls h).1
  · obtain ⟨t₁, s₁, s₁', t₂, rfl, h₁, hothers, -, ha, hd, hl⟩ := hl.backed hd h
    obtain ⟨held, hheld⟩ := NameMap.contains_eq_true.1 hold
    rw [← hothers _ hne.symm] at hheld
    have hok : s₁.store.putSettings m.oldIndex (.ofFields [("index.blocks.write", .bool false)]) =
        .ok s₁'.store := ha.perform_of_ok
    have hget : s₁'.store.get? m.newIndex = s₁.store.get? m.newIndex := by
      rw [Store.putSettings_eq_ok hheld hok]
      exact NameMap.get?_insert_ne hne
    have h₁' := h₁.of_sameAliases (Store.sameAliases_putSettings hok) (h₁.holds.congr hget)
    obtain ⟨us, rfl, hus, hcalls⟩ := hl.own_nil hd
    rw [acknowledged_append, acknowledged_own, replay_append]
    exact (hus.backs hcalls h₁').1

end Move

/-- A reindex that succeeds loses no write that has been acknowledged to a client. While it goes on
clients write through the alias between any of its calls; at the start the alias is bound to one
index. At the end the documents under the alias are what the writes acknowledged before the copy have
made of those at the start, restricted to the fields of the current mapping, with the writes done that
have been acknowledged behind the copy. From the block, or from the start where the old index was
blocked already, to the unbinding all that clients write is refused and changes nothing. -/
theorem Operation.RunsAmong.reindex_keeps_writes {key : CollectionKey} {w w' : World}
    {report : ReindexReport} {old : String}
    (h : (Operation.reindex key).RunsAmong
      (EngineCall.WritesThrough (w.service.aliasName key)) .unperformed w t (.ok report) w')
    (hname : w.memory.store.contains (w.service.aliasName key) = false)
    (hbound : w.memory.store.carriers (w.service.aliasName key) = [old]) :
    ∃ (m : Move) (held : StoredIndex) (opened closed closed' reopened : List Step)
      (copied unbound : Turn Memory) (reply : ReindexReply),
      m.For w.service key ∧ m.oldIndex = old ∧ report = m.report reply ∧
      w.memory.store.get? old = some held ∧
      t = (opened ++ closed) ++ .own copied :: (closed' ++ .own unbound :: reopened) ∧
      copied.exchange = ⟨m.copy, .ok reply⟩ ∧ unbound.exchange = ⟨m.unbind, .ok ()⟩ ∧
      (if held.writeBlocked then opened = []
        else ∃ earlier blocked, opened = earlier ++ [.own blocked] ∧
          blocked.exchange = ⟨m.setBlock true, .ok ()⟩) ∧
      TurnsAway closed ∧ TurnsAway closed' ∧
      w'.memory.store.documents (w.service.aliasName key) =
        (replay (acknowledged (closed' ++ .own unbound :: reopened))
          (Store.restricted w.service.mapping.names
            (replay (acknowledged (opened ++ closed)) held.documents))).entries := by
  obtain ⟨hop, hl⟩ := h
  obtain ⟨m, hm, bound, found, settings, reply, d, hnewest, rfl, hd, hcourse⟩ := hop.reindex_ok
  rw [← hm.alias_eq] at hl hname hbound ⊢
  rw [← hm.mapping_eq]
  obtain ⟨held, hheld, -⟩ := Store.mem_carriers.1 (hbound ▸ List.mem_singleton_self old)
  have hbacks : w.memory.store.Backs m.aliasName old held.writeBlocked held.documents :=
    ⟨hname, hbound, held, hheld, rfl, rfl⟩
  obtain ⟨rfl, hblocked, t₁, t₂, s₁, rfl, hopened, haway, hd₂, hl₂⟩ := Move.opens hl hd hnewest hbacks
  rw [hblocked] at hcourse
  rcases hcourse with ⟨hb, rfl⟩ | ⟨hb, rfl⟩
  · rw [hb] at hopened
    obtain ⟨c₁, c₂, t₃, u, v, rfl, hu, hv, haway₁, haway₂, hnew, hold, hd₃, hl₃⟩ :=
      hopened.transfers hl₂ (d := []) (by rw [hd₂, List.append_nil])
    have hlast := Move.reopens hl₃ (.inl hd₃) hnew hold hopened.ne
    refine ⟨m, held, [], t₁ ++ c₁, c₂, t₃, u, v, reply, hm, rfl, rfl, hheld, by simp, hu, hv,
      by rw [if_pos hb], (haway hb).append haway₁, haway₂, ?_⟩
    rw [hlast.documents_eq]
    simp [haway₁.acknowledged_eq_nil, haway₂.acknowledged_eq_nil]
  · rw [hb] at hopened
    obtain ⟨t₃, t₄, x, rfl, hx, hclosed, hd₄, hl₄⟩ := hopened.blocks hl₂ hd₂
    obtain ⟨c₁, c₂, t₅, u, v, rfl, hu, hv, haway₁, haway₂, hnew, hold, hd₅, hl₅⟩ :=
      hclosed.transfers hl₄ hd₄
    have hlast := Move.reopens hl₅ (.inr hd₅) hnew hold hopened.ne
    refine ⟨m, held, t₁ ++ t₃ ++ [.own x], c₁, c₂, t₅, u, v, reply, hm, rfl, rfl, hheld, by simp,
      hu, hv, ?_, haway₁, haway₂, ?_⟩
    · rw [if_neg (by simp [hb])]
      exact ⟨_, x, rfl, hx⟩
    · rw [hlast.documents_eq]
      simp [haway₁.acknowledged_eq_nil, haway₂.acknowledged_eq_nil, replay_append]

/-- Of what clients write here, the documents 1 and 2 are written before the block and are copied; the
writes between the block and the unbinding are refused; behind it document 2 is deleted and 3 is
written, with a field that the mapping does not have. -/
theorem writes_kept_among_clients :
    let w := ((World.empty .plain).rehearse [(.ensureExists .english, [])]).2
    let page : Json := .ofFields [("craft_attribute_title", .string "Home"), ("note", .string "draft")]
    let script : List (List EngineCall) :=
      [ [.indexDocument "craftcms_en" "1" page], [], [], [],
        [.bulk [.index "craftcms_en" "2" page, .delete "craftcms_en" "3"]],
        [.deleteDocument "craftcms_en" "1"], [], [.bulk [.delete "craftcms_en" "1"]],
        [.deleteDocument "craftcms_en" "2"], [.indexDocument "craftcms_en" "3" page] ]
    let moved := (Operation.reindex .english).rehearseAmong script w
    let report : ReindexReport :=
      { aliasName := "craftcms_en", oldIndex := "craftcms_en_1700000000",
        newIndex := "craftcms_en_1700000001", total := 2, took := 0 }
    moved.2.1 = .ok report ∧
      moved.2.2.memory.store.documents "craftcms_en" =
        [("1", .ofFields [("craft_attribute_title", .string "Home")]), ("3", page)] ∧
      ∃ (opened closed closed' reopened : List Step) (copied unbound : Turn Memory),
        moved.1 = (opened ++ closed) ++ .own copied :: (closed' ++ .own unbound :: reopened) ∧
        TurnsAway closed ∧ TurnsAway closed' := by
  intro w page script moved report
  have hwrites : ∀ calls ∈ script, ∀ c ∈ calls,
      c.WritesThrough (w.service.aliasName .english) := by decide +kernel
  have hmoved : moved.2.1 = .ok report := by decide +kernel
  have hname : w.memory.store.contains (w.service.aliasName .english) = false := by decide +kernel
  have hbound : w.memory.store.carriers (w.service.aliasName .english) =
      ["craftcms_en_1700000000"] := by decide +kernel
  have hdocuments : moved.2.2.memory.store.documents "craftcms_en" =
      [("1", .ofFields [("craft_attribute_title", .string "Home")]), ("3", page)] := by decide +kernel
  have hrun : (Operation.reindex .english).RunsAmong
      (EngineCall.WritesThrough (w.service.aliasName .english)) .unperformed w moved.1 (.ok report)
      moved.2.2 := Operation.runsAmong_rehearse hwrites hmoved
  refine ⟨hmoved, hdocuments, ?_⟩
  clear_value moved w
  obtain ⟨m, held, opened, closed, closed', reopened, copied, unbound, reply, -, -, -, -, ht, -, -, -,
    haway, haway', -⟩ := Operation.RunsAmong.reindex_keeps_writes hrun hname hbound
  exact ⟨opened, closed, closed', reopened, copied, unbound, ht, haway, haway'⟩

end SiteSearch
