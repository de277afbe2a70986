import Mathlib.Data.List.Perm.Subperm
import SiteSearch.Proofs.Field.Signature
import SiteSearch.Proofs.Memory.Reading
import SiteSearch.Proofs.Service.Calls
import SiteSearch.Query.Ranking

/-!
# Ids of documents

A service writes a document under the id of its element in decimal, and it reads the ids of hits back
as numbers. A text that is no such writing, as one with leading zeros, may be read as the same number;
but no document of a service stands under one (`History.worded`). So an element that is found is one
that has a document (`Store.Worded.exists_document?_of_rank`).
-/

namespace SiteSearch

/-- Different words are written differently. -/
theorem Text.writeWord_inj {v w : UInt64} : writeWord v = writeWord w ↔ v = w := by
  refine ⟨fun h => ?_, congrArg _⟩
  have hread := readWord?_writeWord v
  rw [h, readWord?_writeWord] at hread
  exact (Option.some.inj hread).symm

/-- A word is written in digits only. -/
theorem Text.notMem_writeWord {c : Char} (hc : c.isDigit = false) (w : UInt64) :
    c ∉ (writeWord w).toList := by
  intro hmem
  rw [writeWord, String.toList_ofList] at hmem
  rw [isDigit_of_digitsWord? (digitsWord?_decimal w) c hmem] at hc
  cases hc

/-! ## Ranked hits -/

namespace Query

variable {hits : List SearchHit} {ranked entries : List RankedHit}

/-- An element has one entry, whichever of its hits is the best. -/
theorem map_id_keepBest (hit : RankedHit) : ∀ entries : List RankedHit,
    (keepBest hit entries).map (·.id) =
      if hit.id ∈ entries.map (·.id) then entries.map (·.id) else entries.map (·.id) ++ [hit.id]
  | [] => by simp [keepBest]
  | first :: rest => by
    have ih := map_id_keepBest hit rest
    rw [keepBest]
    by_cases hid : first.id = hit.id
    · by_cases hscore : first.score.lt hit.score = true <;> simp [hid, hscore]
    · have hid' : ¬ hit.id = first.id := fun heq => hid heq.symm
      by_cases hmem : hit.id ∈ rest.map (·.id) <;> simp_all

theorem nodup_keepBest {hit : RankedHit} (h : (entries.map (·.id)).Nodup) :
    ((keepBest hit entries).map (·.id)).Nodup := by
  rw [map_id_keepBest]
  split
  · exact h
  · rename_i hmem
    refine List.nodup_append.2 ⟨h, by simp, fun id hid other hother heq => hmem ?_⟩
    rwa [← List.mem_singleton.1 hother, ← heq]

theorem mem_foldl_keepBest {id : ElementId} :
    id ∈ (ranked.foldl (fun entries hit => keepBest hit entries) entries).map (·.id) ↔
      id ∈ ranked.map (·.id) ∨ id ∈ entries.map (·.id) := by
  induction ranked generalizing entries with
  | nil => simp
  | cons first ranked ih =>
    rw [List.foldl_cons, ih, map_id_keepBest, List.map_cons, List.mem_cons]
    split <;> grind

/-- Sorting does not change which elements are ranked. -/
theorem perm_rank (hits : List SearchHit) : ((rank hits).map (·.id)).Perm
    (((hits.filterMap rankedHit?).foldl (fun entries hit => keepBest hit entries) []).map (·.id)) :=
  (List.mergeSort_perm ..).map _

/-- The elements that are hit, in the order of the hits, once for each hit. -/
def elements (hits : List SearchHit) : List ElementId :=
  hits.filterMap fun hit => Text.readWord? hit.id.toList

theorem map_id_rankedHits (hits : List SearchHit) :
    (hits.filterMap rankedHit?).map (·.id) = elements hits := by
  rw [List.map_filterMap, elements]
  congr 1
  funext hit
  rw [rankedHit?, Option.map_map]
  exact Option.map_id'

/-- The ranked elements are those of the hits. -/
theorem mem_rank_iff {id : ElementId} :
    (∃ other ∈ rank hits, other.id = id) ↔ ∃ hit ∈ hits, Text.readWord? hit.id.toList = some id := by
  rw [← List.mem_map, (perm_rank hits).mem_iff, mem_foldl_keepBest, map_id_rankedHits, elements]
  simp

/-- Each of them is ranked once. -/
theorem nodup_rank (hits : List SearchHit) : ((rank hits).map (·.id)).Nodup := by
  have hfold : ∀ (ranked entries : List RankedHit), (entries.map (·.id)).Nodup →
      ((ranked.foldl (fun entries hit => keepBest hit entries) entries).map (·.id)).Nodup := by
    intro ranked
    induction ranked with
    | nil => exact fun entries h => h
    | cons first ranked ih => exact fun entries h => ih _ (nodup_keepBest h)
  exact (perm_rank hits).nodup_iff.2 (hfold _ _ (by simp))

theorem length_rank_le (hits : List SearchHit) : (rank hits).length ≤ hits.length := by
  have hsubset : (rank hits).map (·.id) ⊆ hits.filterMap fun hit => Text.readWord? hit.id.toList := by
    intro id hid
    exact List.mem_filterMap.2 (mem_rank_iff.1 (List.mem_map.1 hid))
  have hle := (List.Nodup.subperm (nodup_rank hits) hsubset).length_le
  have hfewer := List.length_filterMap_le (fun hit : SearchHit => Text.readWord? hit.id.toList) hits
  rw [List.length_map] at hle
  omega

end Query

/-! ## Documents under written words -/

/-- Every document stands under a word in decimal. -/
def WordIds (documents : NameMap Json) : Prop :=
  ∀ id, documents.contains id = true → ∃ word, id = Text.writeWord word

namespace WordIds

variable {documents : NameMap Json} {id : String} {document : Json}

theorem empty : WordIds {} := by
  intro id h
  cases h

theorem insert (h : WordIds documents) (hid : ∃ word, id = Text.writeWord word) :
    WordIds (documents.insert id document) := by
  intro other hother
  rcases NameMap.contains_insert.1 hother with rfl | hother
  · exact hid
  · exact h other hother

theorem erase (h : WordIds documents) : WordIds (documents.erase id) :=
  fun other hother => h other (NameMap.contains_erase.1 hother).2

end WordIds

namespace Store

variable {store store' : Store} {c : EngineCall} {i : String} {held : StoredIndex}

/-- In every index every document stands under a word in decimal. -/
def Worded (store : Store) : Prop :=
  ∀ i held, store.get? i = some held → WordIds held.documents

theorem worded_empty : Worded {} := by
  intro i held hget
  cases hget

namespace Worded

theorem insert (h : store.Worded) (hheld : WordIds held.documents) :
    Worded (NameMap.insert store i held) := by
  intro j other hget
  rw [NameMap.get?_insert] at hget
  split at hget
  · obtain rfl := Option.some.inj hget
    exact hheld
  · exact h j other hget

theorem erase (h : store.Worded) : Worded (NameMap.erase store i) := by
  intro j other hget
  rw [NameMap.get?_erase] at hget
  split at hget
  · cases hget
  · exact h j other hget

theorem of_sameBy (h : store.Worded) (hsame : store.SameBy (·.documents) store') : store'.Worded := by
  intro j other hget
  obtain ⟨held, hheld, hdocuments⟩ := hsame.get?_after hget
  rw [hdocuments]
  exact h j held hheld

/-- A copy writes what it reads under the ids that it reads it under. -/
theorem reindex {body : Json} {failures : Nat} {reply : ReindexReply} (h : store.Worded)
    (hok : store.reindex body failures = .ok (store', reply)) : store'.Worded := by
  obtain ⟨request, -, hok⟩ := bind_eq_ok.1 hok
  obtain ⟨sources, -, hok⟩ := bind_eq_ok.1 hok
  obtain ⟨target, -, hok⟩ := bind_eq_ok.1 hok
  obtain ⟨index, hget, hok⟩ := bind_eq_ok.1 hok
  split at hok
  · cases hok
  obtain ⟨rfl, -⟩ := Prod.mk.inj (Except.ok.inj hok)
  refine h.insert fun id hid => ?_
  rcases NameMap.contains_foldl_insert.1 hid with hid | hid
  · exact h target index (index?_eq_ok.1 hget) id hid
  · obtain ⟨copy, hcopy, rfl⟩ := List.mem_map.1 hid
    obtain ⟨source, hsource, hcopied⟩ := List.mem_flatMap.1 hcopy
    obtain ⟨j, -, hj⟩ := List.mem_filterMap.1 hsource
    obtain ⟨entry, hentry, rfl⟩ := List.mem_map.1 hcopied
    exact h j source hj entry.1 (NameMap.mem_names.1 (List.mem_map_of_mem (f := (·.1)) hentry))

theorem deletes {operations : List BulkOperation} :
    ∀ {store : Store}, store.Worded →
      (∀ operation ∈ operations, ∃ name id, operation = .delete name id) →
      Worded (store.bulk operations).1 := by
  induction operations with
  | nil => exact fun h _ => h
  | cons operation operations ih =>
    intro store h hdeletes
    obtain ⟨name, id, rfl⟩ := hdeletes operation List.mem_cons_self
    have hstep : Worded (store.bulkStep (.delete name id)).1 := by
      simp only [bulkStep]
      split
      · exact h
      · rename_i hopen
        split
        · exact h.insert (h _ _ (openForWriting_eq_ok.1 hopen).2.1).erase
        · exact h
    exact ih hstep fun other hother => hdeletes other (List.mem_cons_of_mem _ hother)

/-- Calls that write under written words only leave no document under anything else. -/
theorem after (h : store.Worded) (hc : c.Worded) : (store.after c).Worded := by
  cases c with
  | createIndex name body =>
    refine orKept_of h fun store' hok => ?_
    obtain ⟨-, -, rfl⟩ := createIndex_eq_ok.1 hok
    exact h.insert .empty
  | deleteIndex name =>
    refine orKept_of h fun store' hok => ?_
    obtain ⟨-, rfl⟩ := deleteIndex_eq_ok.1 hok
    exact h.erase
  | putAlias => exact orKept_of h fun _ hok => h.of_sameBy (sameBy_putAlias (fun _ _ => rfl) hok)
  | deleteAlias => exact orKept_of h fun _ hok => h.of_sameBy (sameBy_deleteAlias (fun _ _ => rfl) hok)
  | putSettings =>
    exact orKept_of h fun _ hok => h.of_sameBy (sameBy_putSettings (fun _ _ _ => rfl) hok)
  | putMapping => exact orKept_of h fun _ hok => h.of_sameBy (sameBy_putMapping (fun _ _ => rfl) hok)
  | cloneIndex source target body =>
    refine orKept_of h fun store' hok => ?_
    obtain ⟨held, hget, -, -, rfl⟩ := cloneIndex_eq_ok.1 hok
    exact h.insert (h source held hget)
  | reindex body =>
    refine orKept_of h fun store' hok => ?_
    obtain ⟨p, hp, rfl⟩ := map_eq_ok.1 hok
    exact h.reindex hp
  | indexDocument name id document =>
    refine orKept_of h fun store' hok => ?_
    obtain ⟨⟨target, held⟩, hopen, heq⟩ := bind_eq_ok.1 hok
    obtain rfl := Except.ok.inj heq
    exact h.insert ((h target held (openForWriting_eq_ok.1 hopen).2.1).insert hc)
  | deleteDocument name id =>
    refine orKept_of h fun store' hok => ?_
    obtain ⟨⟨target, held⟩, hopen, heq⟩ := bind_eq_ok.1 hok
    simp only at heq
    split at heq
    · obtain rfl := Except.ok.inj heq
      exact h.insert (h target held (openForWriting_eq_ok.1 hopen).2.1).erase
    · cases heq
  | bulk operations => exact h.deletes hc
  | _ => exact h

theorem document? {id : String} {document : Json} (h : store.Worded)
    (hdocument : store.document? i id = some document) : ∃ word, id = Text.writeWord word := by
  obtain ⟨held, hget, hid⟩ := Option.bind_eq_some_iff.1 hdocument
  exact h i held hget id (NameMap.contains_eq_true.2 ⟨document, hid⟩)

/-- An element that is found has a document in an index that readers reach. -/
theorem exists_document?_of_rank {a : String} {body : Json} {reply : SearchReply} {hit : RankedHit}
    (h : store.Worded) (hok : store.search a body = .ok reply) (hhit : hit ∈ Query.rank reply.hits) :
    ∃ i document, store.Reads a i ∧ store.document? i (Text.writeWord hit.id) = some document := by
  obtain ⟨raw, hraw, hread⟩ := Query.mem_rank_iff.1 ⟨hit, hhit, rfl⟩
  obtain ⟨i, document, hreads, hdocument⟩ := exists_document?_of_search hok hraw
  obtain ⟨word, hword⟩ := h.document? hdocument
  rw [hword, Text.readWord?_writeWord] at hread
  rw [hword, Option.some.inj hread] at hdocument
  exact ⟨i, document, hreads, hdocument⟩

end Worded

end Store

/-- No service ever leaves a document under anything but a word in decimal. -/
theorem History.worded {faults : Faults} {service : Service} {w : World} {requests : List Request}
    {t : List (Turn Memory)} (h : History faults (.empty service) requests t w) :
    w.memory.store.Worded :=
  (h.keeps_store (J := Store.Worded) (fun _ _ _ _ _ hfits hstore => hstore.after hfits.1) rfl
    Store.worded_empty).1

end SiteSearch
