import SiteSearch.Proofs.Alias.Marks
import SiteSearch.Proofs.Document.Ids
import SiteSearch.Proofs.Service.Founding
import SiteSearch.Service.Inspection
import SiteSearch.Service.Search

/-!
# Reading what was acknowledged

A service that has deleted a document hides it (`World.Hides`): it is neither found by its id nor by
any search. One that has written a document answers with it (`World.source`). In every state that a
service brings about, whatever calls fail on the way, that is so except for indexes that stray: those
that readers reach under the alias beside the one that is written to.

Only a clone can make an index stray, for only a clone is marked as the one to write to: when it is
moved and cannot be unbound, writers stay with it while readers reach the new index as well.
-/

namespace SiteSearch

variable {key : CollectionKey} {id : ElementId} {document : Document}

/-- Where it is said that something is missing, the engine itself has found it missing. -/
def Turn.Found (u : Turn Memory) : Prop :=
  ∀ what, u.outcome = .error (.notFound what) → u.outcome = (Memory.answer u.call u.before).1

/-- Where no call may go wrong, the engine has found what is said. -/
theorem Leads.found : ∀ {t : List (Turn Memory)} {s s' : Memory},
    Leads Memory.answer .none s t s' → ∀ u ∈ t, u.Found
  | [], _, _, _, _, hu => absurd hu List.not_mem_nil
  | v :: t, s, s', ⟨hbefore, ha, hl⟩, u, hu => by
    rcases List.mem_cons.1 hu with rfl | hu
    · intro what _
      rw [hbefore]
      exact ha.of_none.1
    · exact hl.found u hu

/-! ## What is said -/

namespace Operation

variable {service service' : Service} {d : List Exchange}

/-- What the outcome of its call makes of a deletion: what is missing counts as deleted. -/
def deletedIn : Except EngineError Unit → Except ServiceError Unit
  | .ok _ | .error (.notFound _) => .ok ()
  | .error e => .error (.ofEngine e)

theorem deletedIn_eq_ok {o : Except EngineError Unit} :
    deletedIn o = .ok () ↔ o = .ok () ∨ ∃ what, o = .error (.notFound what) := by
  rcases o with e | _
  · cases e <;> simp [deletedIn]
  · simp [deletedIn]

/-- A document is deleted by one call. -/
theorem Says.deletes {r : Except ServiceError Unit} (h : (delete id key).Says service d r service') :
    ∃ o, d = [⟨.deleteDocument (service.aliasName key) (Text.writeWord id), o⟩] ∧ r = deletedIn o := by
  unfold Operation.delete at h
  rw [says_aliasOf_bind] at h
  obtain ⟨o, d', rfl, hdone⟩ := says_attempt_bind.1 h
  refine ⟨o, ?_⟩
  split at hdone
  · obtain ⟨rfl, rfl, -⟩ := says_record.1 hdone
    exact ⟨rfl, rfl⟩
  · obtain ⟨rfl, rfl, -⟩ := says_record.1 hdone
    exact ⟨rfl, rfl⟩
  · rename_i e hother
    obtain ⟨rfl, rfl, -⟩ := says_throw.1 (says_record_bind.1 hdone)
    refine ⟨rfl, ?_⟩
    cases e with
    | notFound what => exact absurd rfl (hother what)
    | _ => rfl

/-- A document counts as deleted where the engine has deleted it or does not have it. -/
theorem Says.delete_ok (h : (delete id key).Says service d (.ok ()) service') :
    ∃ o, d = [⟨.deleteDocument (service.aliasName key) (Text.writeWord id), o⟩] ∧
      (o = .ok () ∨ ∃ what, o = .error (.notFound what)) := by
  obtain ⟨o, hd, hr⟩ := h.deletes
  exact ⟨o, hd, deletedIn_eq_ok.1 hr.symm⟩

/-- A document is written by one call, behind the making of its collection. -/
theorem Says.upserts {r : Except ServiceError Unit}
    (h : (upsert document key).Says service d r service') :
    (∃ e, (Operation.ensureExists key).Says service d (.error e) service' ∧ r = .error e) ∨
    ∃ made service₁ d₁ o, (Operation.ensureExists key).Says service d₁ (.ok made) service₁ ∧
      d = d₁ ++ [⟨.indexDocument (service.aliasName key) (Text.writeWord document.id)
        document.toJson, o⟩] ∧ r = resultOf o := by
  obtain ⟨e, hmade, rfl⟩ | ⟨made, service₁, d₁, d₂, rfl, hmade, hwrite⟩ := says_bind.1 h
  · exact .inl ⟨e, hmade, rfl⟩
  have hnames := (asksOnly_ensureExists service.indexNames key rfl hmade).1
  rw [says_aliasOf_bind, Service.aliasName_congr hnames] at hwrite
  obtain ⟨o, d₃, rfl, hdone⟩ := says_attempt_bind.1 hwrite
  refine .inr ⟨made, service₁, d₁, o, hmade, ?_⟩
  cases o with
  | error e =>
    obtain ⟨rfl, rfl, -⟩ := says_throw.1 (says_record_bind.1 hdone)
    exact ⟨rfl, rfl⟩
  | ok _ =>
    obtain ⟨rfl, rfl, -⟩ := says_record.1 hdone
    exact ⟨rfl, rfl⟩

/-- A document counts as written where the engine has written it, behind the making of its
collection. -/
theorem Says.upsert_ok (h : (upsert document key).Says service d (.ok ()) service') :
    ∃ made service₁ d₁, (Operation.ensureExists key).Says service d₁ (.ok made) service₁ ∧
      d = d₁ ++ [⟨.indexDocument (service.aliasName key) (Text.writeWord document.id)
        document.toJson, .ok ()⟩] := by
  obtain ⟨e, -, heq⟩ | ⟨made, service₁, d₁, o, hmade, rfl, hr⟩ := h.upserts
  · cases heq
  obtain rfl := resultOf_eq_ok.1 hr.symm
  exact ⟨made, service₁, d₁, hmade, rfl⟩

/-- What the service makes of the outcome of a search: a query that the engine cannot make sense of has
found nothing. -/
def ranked : Except EngineError SearchReply → Except ServiceError (List RankedHit)
  | .ok reply => .ok (Query.rank reply.hits)
  | .error e =>
    match ServiceError.ofEngine e with
    | .badQuery _ => .ok []
    | e => .error e

theorem ranked_of_badQuery {e : EngineError} {reason : String}
    (h : ServiceError.ofEngine e = .badQuery reason) : ranked (.error e) = .ok [] := by
  simp [ranked, h]

theorem ranked_of_ne {e : EngineError} (h : ∀ reason, ServiceError.ofEngine e ≠ .badQuery reason) :
    ranked (.error e) = .error (.ofEngine e) := by
  unfold ranked
  dsimp only
  split
  · rename_i reason hbad
    exact absurd hbad (h reason)
  · rfl

/-- A search that is answered has found nothing, or it ranks what the engine answers. -/
theorem ranked_eq_ok {o : Except EngineError SearchReply} {hits : List RankedHit}
    (h : ranked o = .ok hits) : hits = [] ∨ ∃ reply, o = .ok reply ∧ hits = Query.rank reply.hits := by
  unfold ranked at h
  split at h
  · rename_i reply
    exact .inr ⟨reply, rfl, (Except.ok.inj h).symm⟩
  · split at h
    · exact .inl (Except.ok.inj h).symm
    · cases h

/-- A search asks the engine once, under the alias of its collection unless hooks see to it, and ranks
what it is answered. -/
theorem Says.search {tokens : List Query.Token} {target : Option CollectionKey}
    {scope : Option (List ElementId)} {r : Except ServiceError (List RankedHit)}
    (h : (search tokens target scope).Says service d r service')
    (htarget : target.or service.defaultCollection = some key) :
    let request := service.searchSettings.request (service.aliasName key) tokens scope
    ∃ o, d = [⟨.search request.index request.body, o⟩] ∧ r = ranked o := by
  unfold Operation.search at h
  rw [says_get_bind, htarget] at h
  dsimp only at h
  unfold notify at h
  rw [says_modify_bind, says_get_bind, says_aliasOf_bind] at h
  have hasked : ∀ {request : Query.Request} {service₁ service₂ : Service} {d₁ : List Exchange}
      {r₁ : Except ServiceError (List RankedHit)}, (searchHits request).Says service₁ d₁ r₁ service₂ →
      ∃ o, d₁ = [⟨.search request.index request.body, o⟩] ∧ r₁ = ranked o := by
    intro request service₁ service₂ d₁ r₁ h₁
    obtain ⟨o, d₂, rfl, hdone⟩ := says_attempt_bind.1 h₁
    refine ⟨o, ?_⟩
    cases o with
    | ok reply =>
      dsimp only at hdone
      rw [says_record_bind] at hdone
      obtain ⟨rfl, rfl, -⟩ := says_pure.1 hdone
      exact ⟨rfl, rfl⟩
    | error e =>
      dsimp only at hdone
      split at hdone <;> rw [says_record_bind] at hdone
      · rename_i hbad
        obtain ⟨rfl, rfl, -⟩ := says_pure.1 hdone
        exact ⟨rfl, (ranked_of_badQuery hbad).symm⟩
      · rename_i hnot
        obtain ⟨rfl, rfl, -⟩ := says_throw.1 hdone
        exact ⟨rfl, (ranked_of_ne hnot).symm⟩
  obtain ⟨e, hfound, rfl⟩ | ⟨found, service₁, d₁, d₂, rfl, hfound, htold⟩ := says_bind.1 h
  · exact hasked hfound
  rw [says_record_bind, says_record_bind, says_modify_bind] at htold
  obtain ⟨rfl, rfl, -⟩ := says_pure.1 htold
  rw [List.append_nil]
  exact hasked hfound

end Operation

/-- A search that is answered has looked at the store. -/
theorem Answers.searched {faults : Faults} {name : String} {body : Json} {reply : SearchReply}
    {s s' : Memory} (h : Answers Memory.answer faults (.search name body) s (.ok reply) s') :
    s.store.search name body = .ok reply := by
  have hok := h.of_ok.1
  simp only [Memory.answer, Memory.serve, Memory.search] at hok
  split at hok
  · cases hok
  · exact hok

/-! ## What is done -/

namespace Operation.Runs

variable {w w' : World} {t : List (Turn Memory)}

/-- What counts as deleted is gone from the index that is written to, or there is nothing to read. -/
theorem delete_ok (h : (Operation.delete id key).Runs .unperformed w t (.ok ()) w')
    (hfound : ∀ u ∈ t, u.Found) :
    (w'.memory.store = w.memory.store ∧
      ∀ i, ¬ w.memory.store.Reads (w.service.aliasName key) i) ∨
    ∃ i held, w.memory.store.openForWriting (w.service.aliasName key) = .ok (i, held) ∧
      w'.memory.store = w.memory.store.written i held [.delete (Text.writeWord id)] := by
  obtain ⟨o, hd, ho⟩ := h.1.delete_ok
  obtain ⟨s₁, t₁, rfl, ha, ht₁, hl⟩ := h.2.first hd
  rw [(hl.none ht₁).2]
  rcases ho with rfl | ⟨what, rfl⟩
  · obtain ⟨i, held, document, hopen, -, hstore⟩ := Store.deleteDocument_eq_ok.1 ha.perform_of_ok
    exact .inr ⟨i, held, hopen, hstore⟩
  · rw [ha.store_of_error (by decide)]
    have hmissing : w.memory.store.deleteDocument (w.service.aliasName key) (Text.writeWord id) =
        .error (.notFound what) := by
      have hanswer := hfound _ List.mem_cons_self what rfl
      simp only [Memory.answer, Memory.serve, Memory.update] at hanswer
      split at hanswer
      · cases hanswer
      · rename_i e hrefused
        rw [Except.error.inj hanswer]
        exact hrefused
    rcases Store.of_deleteDocument_notFound hmissing with hnone | ⟨i, held, hopen, hsame⟩
    · exact .inl ⟨rfl, hnone⟩
    · exact .inr ⟨i, held, hopen, hsame⟩

/-- A collection that is there stays as it is; one that is not is made of a single index. -/
theorem ensureExists_ok {made : Bool}
    (h : (Operation.ensureExists key).Runs .unperformed w t (.ok made) w') :
    w'.memory.store = w.memory.store ∨
      (∀ i, ¬ w.memory.store.Reads (w.service.aliasName key) i) ∧
      ∃ new, ∀ i, w'.memory.store.Reads (w.service.aliasName key) i → i = new := by
  obtain hsame | ⟨hfree, found, ⟨⟨e, heq⟩, -⟩ | hfounds⟩ := h.making_store (by decide)
  · exact .inl hsame
  · cases heq
  have hbacks := hfounds.backs hfree
  refine .inr ⟨Store.unread_of_unbound hfounds.was_unnamed hfree, w.service.newName key found,
    fun i hreads => ?_⟩
  exact (Store.carriers_eq_singleton.1 hbacks.carriers_eq i).1
    ((Store.reads_iff_carries hbacks.unnamed).1 hreads)

/-- What is written is in the index that is written to, and the same indexes stray as before. -/
theorem upsert_ok (h : (Operation.upsert document key).Runs .unperformed w t (.ok ()) w') :
    ∃ (store : Store) (i : String) (held : StoredIndex),
      (∀ j, store.Shadows (w.service.aliasName key) (Text.writeWord document.id) document.toJson j ↔
        w.memory.store.Shadows (w.service.aliasName key) (Text.writeWord document.id) document.toJson j) ∧
      store.openForWriting (w.service.aliasName key) = .ok (i, held) ∧
      w'.memory.store = store.written i held [.put (Text.writeWord document.id) document.toJson] := by
  obtain ⟨made, service₁, d₁, hmade, hd⟩ := h.1.upsert_ok
  obtain ⟨s₁, t₁, t₂, rfl, ht₁, ht₂, hl₁, hl₂⟩ := h.2.split hd
  obtain ⟨s₂, t₃, rfl, hwrite, ht₃, hl₃⟩ := hl₂.first ht₂
  obtain ⟨i, held, hopen, hstore⟩ := Store.indexDocument_eq_ok.1 hwrite.perform_of_ok
  have hrun : (Operation.ensureExists key).Runs .unperformed w t₁ (.ok made) ⟨service₁, s₁⟩ :=
    ⟨ht₁ ▸ hmade, hl₁⟩
  refine ⟨s₁.store, i, held, fun j => ?_, hopen, ?_⟩
  · rcases hrun.ensureExists_ok with hsame | ⟨hnone, new, hsingle⟩
    · rw [show s₁.store = w.memory.store from hsame]
    · constructor
      · exact fun hshadows => absurd hshadows.strays (Store.not_strays_of_single hsingle)
      · exact fun hshadows => absurd hshadows.strays.reads (hnone j)
  · rw [(hl₃.none ht₃).2]
    exact hstore

end Operation.Runs

/-! ## What readers are shown -/

/-- What a service answers with when it is asked for a document. -/
def World.source (w : World) (id : ElementId) (key : CollectionKey) : Except ServiceError Json :=
  ((Operation.sourceOf id key).rehearse [] w).2.1

/-- A document is found neither by its id nor by a search, unless hooks send the search elsewhere. -/
structure World.Hides (w : World) (id : ElementId) (key : CollectionKey) : Prop where
  missing : ∃ message, w.source id key = .error (.notFound message)
  unfound : ∀ (tokens : List Query.Token) (target : Option CollectionKey)
    (scope : Option (List ElementId)) (t : List (Turn Memory)) (hits : List RankedHit) (w' : World),
    target.or w.service.defaultCollection = some key →
    (w.service.searchSettings.request (w.service.aliasName key) tokens scope).index =
      w.service.aliasName key →
    (Operation.search tokens target scope).Runs .unperformed w t (.ok hits) w' →
      ∀ hit ∈ hits, hit.id ≠ id

namespace World

variable {w : World}

theorem source_eq : w.source id key = Operation.resultOf
    (w.memory.store.getSource (w.service.aliasName key) (Text.writeWord id)) := by
  obtain ⟨hsaid, hl⟩ : (Operation.sourceOf id key).Runs .none w _ (w.source id key) _ :=
    Operation.runs_rehearse_nil _ w
  unfold Operation.sourceOf at hsaid
  rw [Operation.says_aliasOf_bind, Operation.says_ask] at hsaid
  obtain ⟨o, hd, hr, -⟩ := hsaid
  obtain ⟨s₁, t₁, -, ha, -⟩ := hl.first hd
  rw [hr, ha.of_none.1]
  rfl

/-- A document is hidden where no index that readers reach has it. -/
theorem hides_iff (h : w.memory.store.Worded) :
    w.Hides id key ↔ ∀ i, w.memory.store.Reads (w.service.aliasName key) i →
      w.memory.store.document? i (Text.writeWord id) = none := by
  constructor
  · rintro ⟨⟨message, hmissing⟩, -⟩
    rw [source_eq] at hmissing
    rcases w.memory.store.getSource_cases (w.service.aliasName key) (Text.writeWord id) with
      ⟨document, hfound⟩ | hnone
    · rw [hfound] at hmissing
      cases hmissing
    · exact Store.getSource_notFound.1 hnone
  · intro hnone
    obtain ⟨message, hmissing⟩ := Store.getSource_notFound.2 hnone
    refine ⟨⟨message, by rw [source_eq, hmissing]; rfl⟩, ?_⟩
    rintro tokens target scope t hits w' htarget hindex hrun hit hhit rfl
    obtain ⟨o, hd, hr⟩ := hrun.1.search htarget
    rw [hindex] at hd
    obtain ⟨s₁, t₁, -, ha, -⟩ := hrun.2.first hd
    rcases Operation.ranked_eq_ok hr.symm with rfl | ⟨reply, rfl, rfl⟩
    · cases hhit
    · obtain ⟨i, document, hreads, hdocument⟩ := h.exists_document?_of_rank ha.searched hhit
      rw [hnone i hreads] at hdocument
      cases hdocument

end World

/-! ## Histories -/

/-- In every state that a service brings about, whatever calls have failed without effect, what it
acknowledges is what readers see, apart from indexes that stray. A document that counts as deleted is
hidden exactly where no index has strayed with it. One that counts as written is answered with exactly
where no index shadows it that has strayed. And where no clone has been asked for under the alias, none
has strayed. -/
theorem History.acknowledged_writes_are_read {service : Service} {requests : List Request}
    {t : List (Turn Memory)} {w w' : World} (key : CollectionKey)
    (h : History .unperformed (.empty service) requests t w') (hpass : w'.Passes w) :
    (∀ id t₁ w₁, (Operation.delete id key).Runs .unperformed w t₁ (.ok ()) w₁ →
      (∀ u ∈ t₁, u.Found) →
      (w₁.Hides id key ↔
        ∀ i, ¬ w.memory.store.Strays (service.aliasName key) (Text.writeWord id) i)) ∧
    (∀ document t₁ w₁, (Operation.upsert document key).Runs .unperformed w t₁ (.ok ()) w₁ →
      (w₁.source document.id key = .ok document.toJson ↔
        ∀ i, ¬ w.memory.store.Shadows (service.aliasName key) (Text.writeWord document.id)
          document.toJson i)) ∧
    ((∀ request ∈ requests, request.Clones →
        service.aliasName request.key ≠ service.aliasName key) →
      ∀ id i, ¬ w.memory.store.Strays (service.aliasName key) id i) := by
  have hnames : w.service.indexNames = service.indexNames := hpass.indexNames.trans h.indexNames
  have halias : w.service.aliasName key = service.aliasName key := congrArg (·.aliasName key) hnames
  refine ⟨fun id t₁ w₁ hrun hfound => ?_, fun document t₁ w₁ hrun => ?_, fun hclones id i => ?_⟩
  · have hworded : w.memory.store.Worded := hpass.1 ▸ h.worded
    have hrequest : (Request.delete id key).perform.Runs .unperformed w t₁ (.ok ()) w₁ := hrun
    obtain ⟨hworded₁, hnames₁⟩ :=
      Request.keeps_store hrequest (fun _ hfits hstore => hstore.after hfits.1) hworded
    have halias₁ : w₁.service.aliasName key = service.aliasName key :=
      congrArg (·.aliasName key) (hnames₁.trans hnames)
    rw [World.hides_iff hworded₁, halias₁]
    rcases hrun.delete_ok hfound with ⟨hsame, hnone⟩ | ⟨i, held, hopen, heq⟩
    · rw [halias] at hnone
      rw [hsame]
      exact ⟨fun _ i hstrays => hnone i hstrays.reads, fun _ i hreads => absurd hreads (hnone i)⟩
    · rw [halias] at hopen
      rw [heq]
      exact Store.unread_deleted_iff hopen
  · have hnames₁ := (Operation.asksOnly_upsert _ key document rfl hrun.1).1
    have halias₁ : w₁.service.aliasName key = service.aliasName key :=
      congrArg (·.aliasName key) (hnames₁.trans hnames)
    obtain ⟨store, i, held, hshadows, hopen, heq⟩ := hrun.upsert_ok
    rw [halias] at hopen hshadows
    rw [World.source_eq, halias₁, heq, Operation.resultOf_eq_ok, Store.getSource_put_iff hopen]
    exact forall_congr' fun j => not_congr (hshadows j)
  · rw [hpass.1]
    exact (h.unmarked hclones).not_strays

/-- A collection that has been cloned and moved, where the clone could not be unbound. -/
def leftOverClone : List (Request × List Cue) :=
  [ (.ensureExists .english, []),
    (.upsert ⟨7, NameMap.ofList [("title", "Hello")]⟩ .english, []),
    (.clone .german "craftcms_en", []),
    (.reindex .german, List.replicate 7 .heard ++ [.unperformed (.backend "out of memory")]) ]

/-- What is deleted from the collection that has been cloned is hidden. -/
theorem deleted_document_is_hidden_beside_left_over_clone :
    let w := ((World.empty .plain).rehearse leftOverClone).2
    let run := (Operation.delete 7 .english).rehearse [] w
    run.2.1 = .ok () ∧ run.2.2.Hides 7 .english := by
  intro w run
  have hhistory : History .unperformed (.empty .plain) (leftOverClone.map (·.1))
      ((World.empty .plain).rehearse leftOverClone).1 w :=
    World.history_rehearse (by decide)
  have hok : run.2.1 = .ok () := by decide +kernel
  have hrun : ∀ {faults}, (Operation.delete 7 .english).Runs faults w run.1 (.ok ()) run.2.2 :=
    Operation.runs_rehearse (by simp) hok
  obtain ⟨hdelete, -, hclones⟩ := hhistory.acknowledged_writes_are_read .english (.refl w)
  refine ⟨hok, (hdelete 7 _ _ hrun hrun.2.found).2 (hclones ?_ _)⟩
  intro request hrequest hclone
  obtain rfl | rfl | rfl | rfl : request = _ ∨ request = _ ∨ request = _ ∨ request = _ := by
    simpa [leftOverClone] using hrequest
  · cases hclone
  · cases hclone
  · decide
  · cases hclone

/-- What is deleted from the clone is still read from the index that it was moved to. -/
theorem deleted_document_is_read_behind_left_over_clone :
    let w := ((World.empty .plain).rehearse leftOverClone).2
    let run := (Operation.delete 7 .german).rehearse [] w
    run.2.1 = .ok () ∧ run.2.2.source 7 .german = .ok (.ofFields []) := by
  decide +kernel

end SiteSearch
