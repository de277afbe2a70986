import SiteSearch.Proofs.Memory.Reading
import SiteSearch.Proofs.Service.Calls

/-!
# Marks

An index may have an alias marked as the one to be written to under it. Of all calls that a service
makes only the one for a clone sets such a mark. So an alias under which no clone is asked for is
marked nowhere (`History.unmarked`), and there the writer reaches an index only where readers reach no
other (`Unmarked.not_strays`).
-/

namespace SiteSearch

namespace Store

variable {store : Store} {c : EngineCall} {a b i j : String} {held : StoredIndex}

/-- The alias is marked on no index. -/
def Unmarked (store : Store) (aliasName : String) : Prop :=
  ∀ i, store.isMarked aliasName i = false

theorem unmarked_empty : Unmarked {} a := fun _ => rfl

/-- An alias that is bound nowhere is marked nowhere. -/
theorem unmarked_of_unbound (h : ∀ i, ¬ store.Carries i a) : store.Unmarked a := by
  intro i
  cases hget : NameMap.get? store i with
  | none => rw [isMarked, hget, Option.bind_none, Option.getD_none]
  | some held =>
    have hnone : held.aliases.contains a = false :=
      Bool.eq_false_iff.2 fun hc => h i ⟨held, hget, hc⟩
    rw [isMarked, hget, Option.bind_some, NameMap.contains_eq_false.1 hnone, Option.getD_none]

theorem Unmarked.get? (h : store.Unmarked a) (hget : NameMap.get? store i = some held) :
    (held.aliases.get? a).getD false = false := by
  have hi := h i
  rwa [isMarked, hget] at hi

theorem Unmarked.insert (h : store.Unmarked a) (hheld : (held.aliases.get? a).getD false = false) :
    Unmarked (NameMap.insert store i held) a := by
  intro j
  rw [isMarked, NameMap.get?_insert]
  split
  · exact hheld
  · exact h j

theorem Unmarked.erase (h : store.Unmarked a) : Unmarked (NameMap.erase store i) a := by
  intro j
  rw [isMarked, NameMap.get?_erase]
  split
  · rfl
  · exact h j

/-- A call for a collection marks an alias only where it makes a clone under this alias. -/
theorem Unmarked.after (h : store.Unmarked a) (hc : c.Tends b) (hclones : c.Clones → b ≠ a) :
    (store.after c).Unmarked a := by
  rcases store.after_cases c with heq | hok
  · rwa [heq]
  by_cases hkeep : c.KeepsAliases
  · intro i
    rw [(sameAliases_after hkeep).isMarked_eq]
    exact h i
  cases c with
  | createIndex name body =>
    obtain ⟨-, key, mapping, rfl⟩ := hc
    obtain ⟨-, -, heq⟩ := createIndex_eq_ok.1 hok
    rw [heq]
    refine h.insert ?_
    rw [indexOfBody, bodyAliases_indexBody]
    rfl
  | deleteIndex name =>
    obtain ⟨-, heq⟩ := deleteIndex_eq_ok.1 hok
    rw [heq]
    exact h.erase
  | putAlias name other =>
    obtain ⟨held, -, hget, ⟨-, heq⟩ | ⟨-, heq⟩⟩ := putAlias_eq_ok.1 hok
    · rwa [heq]
    · rw [heq]
      refine h.insert ?_
      rw [NameMap.get?_insert]
      split
      · rfl
      · exact h.get? hget
  | deleteAlias name other =>
    obtain ⟨held, hget, -, heq⟩ := deleteAlias_eq_ok.1 hok
    rw [heq]
    refine h.insert ?_
    rw [NameMap.get?_erase]
    split
    · rfl
    · exact h.get? hget
  | cloneIndex source target body =>
    obtain ⟨-, rfl⟩ := hc
    obtain ⟨held, -, -, -, heq⟩ := cloneIndex_eq_ok.1 hok
    have hunbound : (bodyAliases (cloneBody b)).contains a = false :=
      Bool.eq_false_iff.2 fun hbound => hclones .intro (contains_bodyAliases_cloneBody.1 hbound)
    rw [heq]
    refine h.insert ?_
    rw [NameMap.contains_eq_false.1 hunbound]
    rfl
  | _ => exact absurd trivial hkeep

/-- Under an alias that is marked nowhere the writer reaches the only index that readers reach, or
none. -/
theorem Unmarked.not_strays {id : String} (h : store.Unmarked a) : ¬ store.Strays a id i := by
  rintro ⟨hreads, ⟨target, hwrites, hne⟩, -⟩
  cases ha : NameMap.contains store a with
  | true =>
    rw [writeTarget_of_contains ha] at hwrites
    exact hne (((reads_of_contains ha).1 hreads).trans (Except.ok.inj hwrites))
  | false =>
    obtain ⟨-, hsingle | hmarked⟩ := carries_of_writeTarget ha hwrites
    · have hcarries := mem_carriers.2 ((reads_iff_carries ha).1 hreads)
      rw [hsingle] at hcarries
      exact hne (List.mem_singleton.1 hcarries)
    · rw [h target] at hmarked
      cases hmarked

end Store

/-- An alias under which no clone has been asked for is marked nowhere. -/
theorem History.unmarked {faults : Faults} {service : Service} {w : World} {requests : List Request}
    {t : List (Turn Memory)} {a : String} (h : History faults (.empty service) requests t w)
    (hclones : ∀ request ∈ requests, request.Clones → service.aliasName request.key ≠ a) :
    w.memory.store.Unmarked a :=
  (h.keeps_store (J := fun store => store.Unmarked a)
    (fun request hrequest _ _ htends hfits hstore =>
      hstore.after htends fun hc => hclones request hrequest (hfits.2 hc))
    rfl Store.unmarked_empty).1

end SiteSearch
