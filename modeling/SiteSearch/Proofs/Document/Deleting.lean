import SiteSearch.Proofs.Document.Readback

/-!
# Deleting in bulk and one by one

Documents that are deleted in one request are gone as they are when they are deleted one after another
(`Operation.bulkDelete_agrees`): where a writer reaches an index, all of them are deleted either way, and
where it is turned away, all of them are refused either way.

The two part where there is nothing to read under the alias. A single document counts as deleted then,
for it is not there, while in bulk every document counts as refused.
-/

namespace SiteSearch

/-- What is reported of a bulk request. -/
theorem Store.ofReply_bulk {operations : List BulkOperation} {store : Store} :
    BulkReport.ofReply (store.bulk operations).2 =
      ⟨0, operations.length, (store.bulk operations).2.items.countP isRefusedItem⟩ := by
  have htook : (store.bulk operations).2.took = 0 := by cases operations <;> rfl
  rw [BulkReport.ofReply, htook, length_bulk]

/-- The report of deletions of which none is refused. Where there are none, nothing is reported. -/
def BulkReport.ofDeleted : Nat → Option BulkReport
  | 0 => none
  | n + 1 => some ⟨0, n + 1, 0⟩

theorem BulkReport.ofDeleted_length {α : Type} : ∀ {items : List α}, items ≠ [] →
    ofDeleted items.length = some ⟨0, items.length, 0⟩
  | [], h => absurd rfl h
  | _ :: _, _ => rfl

namespace Operation

variable {key : CollectionKey} {id : ElementId} {ids : List ElementId}

/-- Deletes documents one after another, whatever becomes of each. -/
def deleteEach (key : CollectionKey) : List ElementId → Operation (List (Except ServiceError Unit))
  | [] => pure []
  | id :: ids => do
    let result ← outcome (delete id key)
    let rest ← deleteEach key ids
    pure (result :: rest)

/-- The operations of a bulk request for the deletion of documents. -/
def deletions (aliasName : String) (ids : List ElementId) : List BulkOperation :=
  ids.map fun id => .delete aliasName (Text.writeWord id)

theorem target_deletions {aliasName : String} :
    ∀ operation ∈ deletions aliasName ids, operation.target = aliasName := by
  intro operation hoperation
  obtain ⟨id, -, rfl⟩ := List.mem_map.1 hoperation
  rfl

theorem write_deletions {aliasName : String} : (deletions aliasName ids).map (·.write) =
    ids.map fun id => .delete (Text.writeWord id) := by
  rw [deletions, List.map_map]
  rfl

theorem length_deletions {aliasName : String} : (deletions aliasName ids).length = ids.length :=
  List.length_map _

/-- Nothing is asked where nothing is to be deleted; else there is one request. -/
theorem Says.bulkDeletes {service service' : Service} {d : List Exchange}
    {r : Except ServiceError (Option BulkReport)} (h : (bulkDelete ids key).Says service d r service') :
    (ids = [] ∧ d = [] ∧ r = .ok none) ∨
    ids ≠ [] ∧ ∃ o, d = [⟨.bulk (deletions (service.aliasName key) ids), o⟩] ∧
      r = (resultOf o).map fun reply => some (.ofReply reply) := by
  unfold Operation.bulkDelete at h
  split at h
  · rename_i hnil
    obtain ⟨rfl, rfl, -⟩ := says_pure.1 h
    exact .inl ⟨List.isEmpty_iff.1 hnil, rfl, rfl⟩
  · rename_i hids
    rw [says_aliasOf_bind] at h
    obtain ⟨o, d', rfl, hdone⟩ := says_attempt_bind.1 h
    refine .inr ⟨fun hnil => hids (List.isEmpty_iff.2 hnil), o, ?_⟩
    cases o with
    | error e =>
      obtain ⟨rfl, rfl, -⟩ := says_throw.1 (says_record_bind.1 hdone)
      exact ⟨rfl, rfl⟩
    | ok reply =>
      dsimp only at hdone
      rw [says_record_bind] at hdone
      obtain ⟨rfl, rfl, -⟩ := says_pure.1 hdone
      exact ⟨rfl, rfl⟩

namespace Runs

variable {w w' : World} {t : List (Turn Memory)} {i : String} {held : StoredIndex} {e : EngineError}

/-! ## Single deletions -/

theorem delete_like {faults : Faults} {r : Except ServiceError Unit}
    (h : (delete id key).Runs faults w t r w') : w.service.Like w'.service := by
  have hkept : Keeps w.service (fun _ => True) (delete id key) fun _ => True := keeps_delete .intro
  exact (hkept .refl h.1).1

/-- Where an index is reached, the document is gone from it. -/
theorem delete_of_open {r : Except ServiceError Unit} (h : (delete id key).Runs .none w t r w')
    (hopen : w.memory.store.openForWriting (w.service.aliasName key) = .ok (i, held)) :
    r = .ok () ∧ w'.memory.store = w.memory.store.written i held [.delete (Text.writeWord id)] := by
  obtain ⟨o, hd, rfl⟩ := h.1.deletes
  obtain ⟨s₁, t₁, rfl, ha, ht₁, hl⟩ := h.2.first hd
  rw [(hl.none ht₁).2]
  obtain ⟨rfl, rfl⟩ := ha.of_none
  simp only [Memory.answer, Memory.serve, Memory.count]
  rcases Store.deleteDocument_of_open hopen with hok | ⟨hmissing, hkept⟩
  · rw [hok]
    exact ⟨rfl, rfl⟩
  · rw [hmissing, hkept]
    exact ⟨rfl, rfl⟩

/-- Where none is reached, nothing is deleted. -/
theorem delete_of_closed {r : Except ServiceError Unit} (h : (delete id key).Runs .none w t r w')
    (hclosed : w.memory.store.openForWriting (w.service.aliasName key) = .error e) :
    r = deletedIn (.error e) ∧ w'.memory.store = w.memory.store := by
  obtain ⟨o, hd, rfl⟩ := h.1.deletes
  obtain ⟨s₁, t₁, rfl, ha, ht₁, hl⟩ := h.2.first hd
  rw [(hl.none ht₁).2]
  obtain ⟨rfl, rfl⟩ := ha.of_none
  simp only [Memory.answer, Memory.serve, Memory.count, Store.deleteDocument_of_closed hclosed]
  exact ⟨rfl, rfl⟩

/-! ## One after another -/

/-- The deletions of a list are its first one and those of the rest. -/
theorem deleteEach_cons {results : Except ServiceError (List (Except ServiceError Unit))}
    (h : (deleteEach key (id :: ids)).Runs .none w t results w') :
    ∃ r rest w₁ t₁ t₂, (delete id key).Runs .none w t₁ r w₁ ∧
      w₁.service.aliasName key = w.service.aliasName key ∧
      (deleteEach key ids).Runs .none w₁ t₂ rest w' ∧ results = rest.map (r :: ·) := by
  obtain ⟨r, w₁, t₁, t₂, -, hfirst, hsecond⟩ := runs_outcome_bind h
  obtain ⟨rest, hrest, rfl⟩ := hsecond.of_mapped
  exact ⟨r, rest, w₁, t₁, t₂, hfirst, Service.aliasName_congr hfirst.delete_like.indexNames, hrest, rfl⟩

/-- Where an index is reached, all documents are gone from it in the end. -/
theorem deleteEach_of_open {results : Except ServiceError (List (Except ServiceError Unit))}
    (h : (deleteEach key ids).Runs .none w t results w')
    (hopen : w.memory.store.openForWriting (w.service.aliasName key) = .ok (i, held)) :
    results = .ok (ids.map fun _ => .ok ()) ∧
      w'.memory.store = w.memory.store.written i held (ids.map fun id => .delete (Text.writeWord id)) := by
  induction ids generalizing w t results held with
  | nil =>
    obtain ⟨rfl, rfl⟩ := h.of_pure
    exact ⟨rfl, (Store.written_nil hopen).symm⟩
  | cons id ids ih =>
    obtain ⟨r, rest, w₁, t₁, t₂, hfirst, halias, hrest, rfl⟩ := h.deleteEach_cons
    obtain ⟨rfl, hstore⟩ := hfirst.delete_of_open hopen
    have hnext : w₁.memory.store.openForWriting (w₁.service.aliasName key) =
        .ok (i, { held with documents := replay [.delete (Text.writeWord id)] held.documents }) := by
      rw [hstore, halias]
      exact Store.openForWriting_written hopen
    obtain ⟨rfl, hlast⟩ := ih hrest hnext
    refine ⟨rfl, ?_⟩
    rw [hlast, hstore, Store.written_written]
    rfl

/-- Where none is reached, each document comes to the same. -/
theorem deleteEach_of_closed {results : Except ServiceError (List (Except ServiceError Unit))}
    (h : (deleteEach key ids).Runs .none w t results w')
    (hclosed : w.memory.store.openForWriting (w.service.aliasName key) = .error e) :
    results = .ok (ids.map fun _ => deletedIn (.error e)) ∧ w'.memory.store = w.memory.store := by
  induction ids generalizing w t results with
  | nil =>
    obtain ⟨rfl, rfl⟩ := h.of_pure
    exact ⟨rfl, rfl⟩
  | cons id ids ih =>
    obtain ⟨r, rest, w₁, t₁, t₂, hfirst, halias, hrest, rfl⟩ := h.deleteEach_cons
    obtain ⟨rfl, hstore⟩ := hfirst.delete_of_closed hclosed
    rw [← hstore, ← halias] at hclosed
    obtain ⟨rfl, hlast⟩ := ih hrest hclosed
    exact ⟨rfl, hlast.trans hstore⟩

/-! ## In bulk -/

/-- A request for some deletions is reported as the engine performs it. -/
theorem bulkDelete_report {r : Except ServiceError (Option BulkReport)} (hids : ids ≠ [])
    (h : (bulkDelete ids key).Runs .none w t r w') :
    let done := w.memory.store.bulk (deletions (w.service.aliasName key) ids)
    r = .ok (some ⟨0, ids.length, done.2.items.countP isRefusedItem⟩) ∧ w'.memory.store = done.1 := by
  obtain ⟨hnil, -⟩ | ⟨-, o, hd, rfl⟩ := h.1.bulkDeletes
  · exact absurd hnil hids
  obtain ⟨s₁, t₁, rfl, ha, ht₁, hl⟩ := h.2.first hd
  rw [(hl.none ht₁).2]
  obtain ⟨rfl, rfl⟩ := ha.of_none
  refine ⟨?_, rfl⟩
  rw [← length_deletions, ← Store.ofReply_bulk]
  rfl

/-- Where an index is reached, all documents are gone from it and none counts as refused. -/
theorem bulkDelete_of_open {r : Except ServiceError (Option BulkReport)}
    (h : (bulkDelete ids key).Runs .none w t r w')
    (hopen : w.memory.store.openForWriting (w.service.aliasName key) = .ok (i, held)) :
    r = .ok (BulkReport.ofDeleted ids.length) ∧
      w'.memory.store = w.memory.store.written i held (ids.map fun id => .delete (Text.writeWord id)) := by
  cases ids with
  | nil =>
    obtain ⟨rfl, rfl⟩ := Runs.of_pure h
    exact ⟨rfl, (Store.written_nil hopen).symm⟩
  | cons id ids =>
    obtain ⟨rfl, hstore⟩ := h.bulkDelete_report (List.cons_ne_nil id ids)
    obtain ⟨hwritten, -, hitems⟩ := Store.bulk_of_open hopen target_deletions
    rw [hstore, hwritten, write_deletions, List.countP_eq_zero.2 (by simpa using hitems)]
    exact ⟨rfl, rfl⟩

/-- Where none is reached, all documents count as refused. -/
theorem bulkDelete_of_closed {r : Except ServiceError (Option BulkReport)} (hids : ids ≠ [])
    (h : (bulkDelete ids key).Runs .none w t r w')
    (hclosed : w.memory.store.openForWriting (w.service.aliasName key) = .error e) :
    r = .ok (some ⟨0, ids.length, ids.length⟩) ∧ w'.memory.store = w.memory.store := by
  obtain ⟨rfl, hstore⟩ := h.bulkDelete_report hids
  obtain ⟨hkept, hlength, hitems⟩ := Store.bulk_of_closed hclosed target_deletions
  have hcount := List.countP_eq_length.2 hitems
  rw [hstore, hkept, hcount, hlength, length_deletions]
  exact ⟨rfl, rfl⟩

end Runs

/-! ## Both ways -/

/-- Whatever the state, with no call going wrong, documents deleted in bulk are gone as they are when
they are deleted one after another, and the report has an item for each of them. It counts as many
failures as there are single deletions that fail, unless there is nothing to read under the alias: then
it counts all documents as refused, while each single deletion is a success. -/
theorem bulkDelete_agrees (w : World) (key : CollectionKey) {ids : List ElementId} (hids : ids ≠ []) :
    let bulk := (bulkDelete ids key).rehearse [] w
    let each := (deleteEach key ids).rehearse [] w
    ∃ report results, bulk.2.1 = .ok (some report) ∧ each.2.1 = .ok results ∧
      bulk.2.2.memory.store = each.2.2.memory.store ∧
      report.items = ids.length ∧ results.length = ids.length ∧
      ((∃ i, w.memory.store.Reads (w.service.aliasName key) i) →
        report.failed = results.countP fun result => !result.isOk) ∧
      ((∀ i, ¬ w.memory.store.Reads (w.service.aliasName key) i) →
        report.failed = ids.length ∧ ∀ result ∈ results, result = .ok ()) := by
  intro bulk each
  have hbulk : (bulkDelete ids key).Runs .none w bulk.1 bulk.2.1 bulk.2.2 := runs_rehearse_nil _ w
  have heach : (deleteEach key ids).Runs .none w each.1 each.2.1 each.2.2 := runs_rehearse_nil _ w
  cases hopen : w.memory.store.openForWriting (w.service.aliasName key) with
  | ok reached =>
    obtain ⟨i, held⟩ := reached
    obtain ⟨hreport, hstore⟩ := hbulk.bulkDelete_of_open hopen
    rw [BulkReport.ofDeleted_length hids] at hreport
    obtain ⟨hresults, hstore'⟩ := heach.deleteEach_of_open hopen
    have hreads := Store.reads_of_writeTarget (Store.openForWriting_eq_ok.1 hopen).1
    refine ⟨_, _, hreport, hresults, hstore.trans hstore'.symm, rfl, List.length_map _, fun _ => ?_,
      fun hnone => absurd hreads (hnone i)⟩
    refine (List.countP_eq_zero.2 fun result hresult => ?_).symm
    obtain ⟨id, -, rfl⟩ := List.mem_map.1 hresult
    simp [Except.isOk, Except.toBool]
  | error e =>
    obtain ⟨hreport, hstore⟩ := hbulk.bulkDelete_of_closed hids hopen
    obtain ⟨hresults, hstore'⟩ := heach.deleteEach_of_closed hopen
    refine ⟨_, _, hreport, hresults, hstore.trans hstore'.symm, rfl, List.length_map _,
      fun ⟨i, hreads⟩ => ?_, fun hnone => ⟨rfl, ?_⟩⟩
    · have hfails : (deletedIn (.error e)).isOk = false := by
        cases e with
        | notFound what => exact absurd hopen (hreads.openForWriting_ne what)
        | _ => rfl
      rw [List.countP_eq_length.2, List.length_map]
      intro result hresult
      obtain ⟨id, -, rfl⟩ := List.mem_map.1 hresult
      rw [hfails]
      rfl
    · obtain ⟨what, hmissing⟩ := Store.openForWriting_notFound_iff.2 hnone
      obtain rfl := Except.error.inj (hopen.symm.trans hmissing)
      simp [deletedIn]

/-- From a collection that is there, an absent document is deleted either way. -/
theorem bulkDelete_agrees_english :
    let w := ((World.empty .plain).rehearse [(.ensureExists .english, [])]).2
    let bulk := (bulkDelete [7, 7] .english).rehearse [] w
    let each := (deleteEach .english [7, 7]).rehearse [] w
    bulk.2.1 = .ok (some ⟨0, 2, 0⟩) ∧ each.2.1 = .ok [.ok (), .ok ()] ∧
      bulk.2.2.memory.store = each.2.2.memory.store := by
  intro w bulk each
  have hreport : bulk.2.1 = .ok (some ⟨0, 2, 0⟩) := by decide +kernel
  have hresults : each.2.1 = .ok [.ok (), .ok ()] := by decide +kernel
  have hids : ([7, 7] : List ElementId) ≠ [] := by decide
  obtain ⟨report, results, -, -, hstore, -⟩ := bulkDelete_agrees w .english hids
  exact ⟨hreport, hresults, hstore⟩

/-- Where there is no collection, a document that is not there counts as deleted by itself and as refused
in bulk. -/
theorem bulkDelete_refuses_absent_collection :
    let w := World.empty .plain
    ((deleteEach .english [7]).rehearse [] w).2.1 = .ok [.ok ()] ∧
      ((bulkDelete [7] .english).rehearse [] w).2.1 = .ok (some ⟨0, 1, 1⟩) := by
  decide +kernel

end Operation

end SiteSearch
