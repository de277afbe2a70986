import SiteSearch.Proofs.Document.Replacing

/-!
# What a failed indexing leaves

The document of an element is deleted before it is written anew. So where the indexing of an element
fails, nothing has been written: readers find the documents that they have found before, unless the
deletion has been acknowledged, and then that document alone is gone (`Operation.Runs.indexElement_error`).
Only a call that fails, or an index with the name of the alias, can come between the two.
-/

namespace SiteSearch

variable {key : CollectionKey} {element : Element} {document : Document}

/-- A new index shows readers no other documents than before, unless they look under its name. -/
theorem Store.documents_created {store store' : Store} {a n : String} {mapping : Mapping}
    (h : store.createIndex n (indexBody key mapping) = .ok store') (hname : n ≠ a) :
    store'.documents a = store.documents a := by
  obtain ⟨hnew, hcarries, -⟩ := created h
  obtain ⟨-, -, rfl⟩ := createIndex_eq_ok.1 h
  have hcontains : NameMap.contains (store.insert n (indexOfBody (indexBody key mapping))) a =
      store.contains a := by
    rw [NameMap.contains, NameMap.get?_insert_ne hname.symm, NameMap.contains]
  refine documents_congr ?_ fun i hreads => NameMap.get?_insert_ne ?_
  · rw [readTargets, readTargets, hcontains, carriers_congr fun i => hcarries i a]
  · rintro rfl
    rw [hreads.contains] at hnew
    cases hnew

namespace Operation

/-- The writes of a dialogue that have been acknowledged. -/
def acknowledgedIn (d : List Exchange) : List Write := d.flatMap Exchange.acknowledged

/-- No call of the making of a collection writes a document. -/
theorem Says.acknowledged_ensureExists {service service' : Service} {d : List Exchange}
    {r : Except ServiceError Bool} (h : (Operation.ensureExists key).Says service d r service') :
    acknowledgedIn d = [] := by
  have hkept : Keeps service (fun c => ∀ o, Exchange.acknowledged ⟨c, o⟩ = [])
      (Operation.ensureExists key) fun _ => True :=
    keeps_ensureExists (fun o => by cases o <;> rfl) (fun o => by cases o <;> rfl)
      (fun _ _ o => by cases o <;> rfl) fun _ _ o => by cases o <;> rfl
  exact List.flatMap_eq_nil_iff.2 fun x hx => (hkept .refl h).2.1 x hx x.2

namespace Runs

variable {faults : Faults} {w w' : World} {t : List (Turn Memory)}

/-- Making a collection, or failing to, shows readers no other documents under its alias. -/
theorem documents_ensureExists {r : Except ServiceError Bool}
    (h : (ensureExists key).Runs faults w t r w') (hfaults : faults ≠ .any) :
    w'.memory.store.documents (w.service.aliasName key) =
      w.memory.store.documents (w.service.aliasName key) := by
  obtain hsame | ⟨hfree, found, ⟨-, hcreated⟩ | hfounds⟩ := h.making_store hfaults
  · rw [hsame]
  · exact Store.documents_created hcreated Service.newName_ne_aliasName
  · rw [(hfounds.backs hfree).documents_eq,
      Store.documents_of_unread (Store.unread_of_unbound hfounds.was_unnamed hfree)]
    rfl

/-- Where a document could not be written, nothing has been. -/
theorem upsert_error {e : ServiceError} (h : (upsert document key).Runs faults w t (.error e) w')
    (hfaults : faults ≠ .any) :
    acknowledgedIn (t.map Turn.exchange) = [] ∧
      w'.memory.store.documents (w.service.aliasName key) =
        w.memory.store.documents (w.service.aliasName key) := by
  obtain ⟨e', hmade, -⟩ | ⟨made, w₁, t₁, o, hmade, ht, hwrite, hr⟩ := h.upserts
  · exact ⟨hmade.1.acknowledged_ensureExists, hmade.documents_ensureExists hfaults⟩
  cases o with
  | ok _ => cases hr
  | error e' =>
    rw [ht, acknowledgedIn, List.flatMap_append, hwrite.store_of_error hfaults]
    exact ⟨congrArg (· ++ []) hmade.1.acknowledged_ensureExists, hmade.documents_ensureExists hfaults⟩

/-- Where no call goes wrong and a writer reaches an index behind the alias, a document is written. -/
theorem upsert_of_reached {r : Except ServiceError Unit} {i : String} {held : StoredIndex}
    (h : (upsert document key).Runs .none w t r w')
    (hname : w.memory.store.contains (w.service.aliasName key) = false)
    (hopen : w.memory.store.openForWriting (w.service.aliasName key) = .ok (i, held)) : r = .ok () := by
  have hcarries := (Store.carries_of_writeTarget hname (Store.openForWriting_eq_ok.1 hopen).1).1
  have hbound := Store.aliasExists_iff.2 ⟨i, hcarries⟩
  obtain ⟨e, hmade, -⟩ | ⟨made, w₁, t₁, o, hmade, -, hwrite, rfl⟩ := h.upserts
  · cases (hmade.ensureExists_of_bound hbound).1
  rw [← (hmade.ensureExists_of_bound hbound).2] at hopen
  obtain ⟨⟨_, rfl⟩, -⟩ := hwrite.accepted .intro (Store.indexDocument_eq_ok.2 ⟨i, held, hopen, rfl⟩)
  rfl

/-- A deletion that is acknowledged takes one document away; otherwise nothing is changed. -/
theorem delete_acknowledged {id : ElementId} {r : Except ServiceError Unit}
    (h : (delete id key).Runs faults w t r w') (hfaults : faults ≠ .any) :
    (acknowledgedIn (t.map Turn.exchange) = [] ∧ w'.memory.store = w.memory.store) ∨
    acknowledgedIn (t.map Turn.exchange) = [.delete (Text.writeWord id)] ∧ r = .ok () ∧ ∃ i held document,
      w.memory.store.openForWriting (w.service.aliasName key) = .ok (i, held) ∧
      held.documents.get? (Text.writeWord id) = some document ∧
      w'.memory.store = w.memory.store.written i held [.delete (Text.writeWord id)] := by
  obtain ⟨o, hd, rfl⟩ := h.1.deletes
  obtain ⟨s₁, t₁, -, ha, ht₁, hl⟩ := h.2.first hd
  rw [hd, (hl.none ht₁).2]
  cases o with
  | error e => exact .inl ⟨rfl, ha.store_of_error hfaults⟩
  | ok _ => exact .inr ⟨rfl, rfl, Store.deleteDocument_eq_ok.1 ha.perform_of_ok⟩

/-- A document that is not replaced is there as before, or its deletion has been acknowledged: then it
alone is gone, and it takes a call that fails or an index with the name of the alias. -/
theorem replace_error {id : ElementId} {e : ServiceError} (hfaults : faults ≠ .any)
    (h : Operation.Runs faults (do delete id key; upsert document key) w t (.error e) w') :
    let aliasName := w.service.aliasName key
    let writes := acknowledgedIn (t.map Turn.exchange)
    (writes = [] ∧ w'.memory.store.documents aliasName = w.memory.store.documents aliasName) ∨
    writes = [.delete (Text.writeWord id)] ∧
      (∃ i held document, w.memory.store.openForWriting aliasName = .ok (i, held) ∧
        held.documents.get? (Text.writeWord id) = some document ∧
        w'.memory.store.documents aliasName =
          (w.memory.store.written i held writes).documents aliasName) ∧
      (faults = .none → w.memory.store.contains aliasName = true) := by
  intro aliasName writes
  obtain ⟨e', hdeleted, -⟩ | ⟨_, w₁, t₁, t₂, rfl, hdeleted, hfailed⟩ := runs_bind.1 h
  · obtain ⟨hnone, hstore⟩ | ⟨-, heq, -⟩ := hdeleted.delete_acknowledged hfaults
    · exact .inl ⟨hnone, by rw [hstore]⟩
    · cases heq
  have halias : w₁.service.aliasName key = aliasName :=
    Service.aliasName_congr hdeleted.delete_like.indexNames
  obtain ⟨hnone, hdocuments⟩ := hfailed.upsert_error hfaults
  rw [halias] at hdocuments
  have hwrites : writes = acknowledgedIn (t₁.map Turn.exchange) := by
    show acknowledgedIn ((t₁ ++ t₂).map Turn.exchange) = _
    rw [List.map_append, acknowledgedIn, List.flatMap_append]
    exact (congrArg (_ ++ ·) hnone).trans (List.append_nil _)
  obtain ⟨hnone₁, hstore⟩ | ⟨hdeletion, -, i, held, found, hopen, hthere, hstore⟩ :=
    hdeleted.delete_acknowledged hfaults
  · exact .inl ⟨hwrites.trans hnone₁, by rw [hdocuments, hstore]⟩
  refine .inr ⟨hwrites.trans hdeletion, ⟨i, held, found, hopen, hthere, ?_⟩, ?_⟩
  · rw [hdocuments, hstore, hwrites, hdeletion]
  · rintro rfl
    by_contra hname
    -- the writer reaches the index behind the deletion as in front of it
    have hsame : w.memory.store.SameAliases w₁.memory.store :=
      hstore ▸ Store.sameAliases_insert (Store.openForWriting_eq_ok.1 hopen).2.1 rfl
    have hunnamed : w₁.memory.store.contains (w₁.service.aliasName key) = false := by
      rw [halias, hsame.contains_eq]
      exact Bool.eq_false_iff.2 hname
    obtain ⟨held', hnext⟩ :
        ∃ held', w₁.memory.store.openForWriting (w₁.service.aliasName key) = .ok (i, held') := by
      rw [halias, hstore]
      exact ⟨_, Store.openForWriting_written hopen⟩
    cases hfailed.upsert_of_reached hunnamed hnext

/-- Where the indexing of an element fails, with no call performed that is said to have failed, either
nothing has been written and readers find the documents that they have found before, or the deletion of
its document has been acknowledged and nothing else: then they find the documents of before without that
one. The latter takes a call that fails or an index with the name of the alias. -/
theorem indexElement_error {e : ServiceError} (hfaults : faults ≠ .any)
    (h : (indexElement element key).Runs faults w t (.error e) w') :
    let aliasName := w.service.aliasName key
    let writes := acknowledgedIn (t.map Turn.exchange)
    (writes = [] ∧ w'.documents key = w.documents key) ∨
    writes = [.delete (Text.writeWord element.id)] ∧
      (∃ i held document, w.memory.store.openForWriting aliasName = .ok (i, held) ∧
        held.documents.get? (Text.writeWord element.id) = some document ∧
        w'.documents key = (w.memory.store.written i held writes).documents aliasName) ∧
      (faults = .none → w.memory.store.contains aliasName = true) := by
  intro aliasName writes
  rw [World.documents, World.documents, Service.aliasName_congr h.indexElement_like.indexNames]
  obtain ⟨-, -, heq⟩ | ⟨-, ⟨e', -, rfl, -⟩ | ⟨document, locks, r, service', -, hreplaced, heq⟩⟩ := h.indexes
  · cases heq
  · exact .inl ⟨rfl, by rw [(h.2.none rfl).2]⟩
  · cases r with
    | error e' =>
      -- the service that replaces the document has other locks, but the same alias
      have hreplace := hreplaced.replace_error hfaults
      exact hreplace
    | ok _ => cases heq

end Runs

/-- An entry that cannot be indexed is there as before when the first call fails, and gone when only the
last one does. -/
theorem Runs.indexElement_error_of_entry :
    let w := (World.empty .ofEntries).indexed (.entry "Green Salad!") .english
    let again := indexElement (.entry "Fruit") .english
    let early := again.rehearse [.unperformed (.backend "out of memory")] w
    let late := again.rehearse [.heard, .heard, .unperformed (.backend "out of memory")] w
    early.2.1 = .error (.backend "out of memory") ∧ early.2.2.documents .english = w.documents .english ∧
      late.2.1 = .error (.backend "out of memory") ∧
      ∃ i held, w.memory.store.openForWriting "craftcms_en" = .ok (i, held) ∧
        late.2.2.documents .english =
          (w.memory.store.written i held [.delete "7"]).documents "craftcms_en" := by
  intro w again early late
  have hearly : early.2.1 = .error (.backend "out of memory") := by decide +kernel
  have hlate : late.2.1 = .error (.backend "out of memory") := by decide +kernel
  have hkept : acknowledgedIn (early.1.map Turn.exchange) ≠ [.delete "7"] := by decide +kernel
  have hdeleted : acknowledgedIn (late.1.map Turn.exchange) = [.delete "7"] := by decide +kernel
  have halias : w.service.aliasName .english = "craftcms_en" := by decide +kernel
  have hruns : again.Runs .unperformed w early.1 (.error (.backend "out of memory")) early.2.2 :=
    runs_rehearse (by decide) hearly
  have hruns' : again.Runs .unperformed w late.1 (.error (.backend "out of memory")) late.2.2 :=
    runs_rehearse (by decide) hlate
  clear_value early late
  obtain ⟨-, hsame⟩ | ⟨hwrites, -⟩ := hruns.indexElement_error (by decide)
  · obtain ⟨hnone, -⟩ | ⟨-, ⟨i, held, -, hopen, -, hgone⟩, -⟩ := hruns'.indexElement_error (by decide)
    · cases hnone.symm.trans hdeleted
    · rw [hdeleted, halias] at hgone
      exact ⟨hearly, hsame, hlate, i, held, halias ▸ hopen, hgone⟩
  · exact absurd hwrites hkept

/-- The indexing of an entry fails without having been performed, and its document is gone. -/
theorem entry_is_lost_behind_failed_write :
    let w := (World.empty .ofEntries).indexed (.entry "Green Salad!") .english
    let late := (indexElement (.entry "Fruit") .english).rehearse
      [.heard, .heard, .unperformed (.backend "out of memory")] w
    (indexElement (.entry "Fruit") .english).Runs .unperformed w late.1
        (.error (.backend "out of memory")) late.2.2 ∧
      w.service.locks.isHeld (elementLock 7 1) = false ∧
      w.documents .english = [("7", .ofFields
        [("craft_attribute_slug", .string ""), ("craft_attribute_title", .string "green salad")])] ∧
      late.2.2.documents .english = [] := by
  intro w late
  exact ⟨runs_rehearse (by decide) (by decide +kernel), by decide +kernel, by decide +kernel, by decide +kernel⟩

end Operation

end SiteSearch
