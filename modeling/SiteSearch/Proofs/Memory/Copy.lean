import SiteSearch.Proofs.Memory.Bodies
import SiteSearch.Proofs.Memory.Carriers

/-!
# Copies from index to index

The copy that a move asks for takes every document of the old index, keeps only the fields of the
mapping, and writes what is left into the new index. Into an index without documents it writes just
these (`Store.restricted`).
-/

namespace SiteSearch

namespace NameMap

variable {α : Type}

/-- Entries that are put over those of a map, each name at most once. -/
theorem get?_foldl_insert {name : String} :
    ∀ {entries : List (String × α)} {m : NameMap α}, (entries.map (·.1)).Nodup →
      (entries.foldl (fun m e => m.insert e.1 e.2) m).get? name =
        (valueAt? name entries).or (m.get? name)
  | [], _, _ => rfl
  | (first, value) :: rest, m, h => by
    obtain ⟨hfirst, hrest⟩ := List.nodup_cons.1 h
    rw [List.foldl_cons, get?_foldl_insert hrest, get?_insert, valueAt?]
    by_cases hname : first = name
    · subst hname
      have hnone : valueAt? first rest = none :=
        valueAt?_eq_none fun p hp heq => hfirst (List.mem_map.2 ⟨p, hp, heq⟩)
      rw [hnone]
      simp
    · simp [hname]

/-- The entries of one map written into another. -/
theorem get?_written {m written : NameMap α} {name : String} :
    (written.entries.foldl (fun m e => m.insert e.1 e.2) m).get? name =
      (written.get? name).or (m.get? name) :=
  get?_foldl_insert (written.rising_names.imp fun h => String.ne_of_lt h)

theorem written_empty {written : NameMap α} :
    written.entries.foldl (fun m e => m.insert e.1 e.2) {} = written := by
  refine ext_get? fun name => ?_
  rw [get?_written]
  exact Option.or_none

end NameMap

namespace Store

variable {store store' : Store} {name old new : String} {fields : List String}

theorem readTargets_of_contains (h : store.contains name = true) :
    store.readTargets name = .ok [name] := by
  rw [readTargets, if_pos h]

theorem writeTarget_of_contains (h : store.contains name = true) :
    store.writeTarget name = .ok name := by
  rw [writeTarget, readTargets_of_contains h]
  rfl

/-- Settings that are put to one index are put over its own. -/
theorem putSettings_eq_ok {settings : Json} {held : StoredIndex} (hget : store.get? name = some held)
    (h : store.putSettings name settings = .ok store') :
    store' = store.insert name (withSettings settings held) := by
  unfold putSettings at h
  rw [readTargets_of_contains (NameMap.contains_eq_true.2 ⟨held, hget⟩)] at h
  obtain rfl := Except.ok.inj h
  refine NameMap.ext_get? fun other => ?_
  show (store.modify name (withSettings settings)).get? other = _
  rw [NameMap.get?_modify, NameMap.get?_insert]
  by_cases hname : name = other
  · subst hname
    simp [hget]
  · rw [if_neg hname, if_neg hname]

/-- Settings of an index that is there are never refused. -/
theorem putSettings_of_contains {settings : Json} (h : store.contains name = true) :
    ∃ store', store.putSettings name settings = .ok store' :=
  ⟨_, by rw [putSettings, readTargets_of_contains h]; rfl⟩

theorem getSettings_of_contains (h : store.contains name = true) :
    ∃ settings, store.getSettings name = .ok settings := by
  obtain ⟨held, hget⟩ := NameMap.contains_eq_true.1 h
  exact ⟨_, by rw [getSettings, index?_eq_ok.2 hget]; rfl⟩

/-- Documents with only some of their fields. -/
def restricted (fields : List String) (documents : NameMap Json) : NameMap Json :=
  documents.mapValues fun _ document => restrictTo fields document

/-- A copy writes the restricted documents of the old index into the new one, which has to be open for
writing, and tells how many documents the old one has. -/
theorem reindex_copyBody {held target : StoredIndex} {failures : Nat} {reply : ReindexReply}
    (hold : store.get? old = some held) (hnew : store.get? new = some target)
    (h : store.reindex (copyBody old new fields) failures = .ok (store', reply)) :
    store' = store.insert new { target with
      documents := (restricted fields held.documents).entries.foldl (fun m e => m.insert e.1 e.2)
        target.documents } ∧
    reply.total = UInt64.ofNat held.documents.size ∧ target.writeBlocked = false := by
  have hread : store.readTargets old = .ok [old] :=
    readTargets_of_contains (NameMap.contains_eq_true.2 ⟨held, hold⟩)
  have hwrite : store.writeTarget new = .ok new :=
    writeTarget_of_contains (NameMap.contains_eq_true.2 ⟨target, hnew⟩)
  have hcopied : store.copiedDocuments ⟨old, new, some fields⟩ [old] =
      (restricted fields held.documents).entries := by
    simp [copiedDocuments, indexesOf, hold, restricted, NameMap.mapValues]
  unfold reindex at h
  simp only [ofBody_copyBody, hread, hwrite, hcopied, index?_eq_ok.2 hnew, bind, Except.bind] at h
  split at h
  · cases h
  · rename_i hopen
    cases h
    refine ⟨rfl, ?_, by simpa using hopen⟩
    simp [restricted, NameMap.mapValues, NameMap.size]

/-- A copy into an index that is open for writing is never refused, and it reports the failures that it
was told to report. -/
theorem reindex_copyBody_of_open {target : StoredIndex} {failures : Nat}
    (hold : store.contains old = true) (hnew : store.get? new = some target)
    (hopen : target.writeBlocked = false) :
    ∃ store' reply, store.reindex (copyBody old new fields) failures = .ok (store', reply) ∧
      reply.failures.length = failures := by
  have hwrite : store.writeTarget new = .ok new :=
    writeTarget_of_contains (NameMap.contains_eq_true.2 ⟨target, hnew⟩)
  unfold reindex
  simp only [ofBody_copyBody, readTargets_of_contains hold, hwrite, index?_eq_ok.2 hnew, hopen, bind,
    Except.bind, Bool.false_eq_true, if_false]
  exact ⟨_, _, rfl, by simp⟩

end Store

end SiteSearch
