import SiteSearch.Binary64.Basic
import SiteSearch.Collection.Name
import SiteSearch.Field.Signature

/-!
# Remembered signatures

The signature that was last pushed to the index of each site, so that a look for drift does not
have to ask the engine. An entry stays until it is replaced or taken out. Lookups are counted as
hits and misses.
-/
namespace SiteSearch

/-- Signatures by site, each site at most once. -/
structure SignatureCache where
  entries : List (SiteId × Signature) := []
  hits : UInt64 := 0
  misses : UInt64 := 0
  deriving DecidableEq

namespace SignatureCache

instance : Inhabited SignatureCache := ⟨{}⟩

/-- The signature of a site, without counting the lookup. -/
def peek? (cache : SignatureCache) (key : CollectionKey) : Option Signature :=
  (cache.entries.find? (·.1 = key.siteId)).map (·.2)

/-- The cache after a lookup. -/
def counted (cache : SignatureCache) (hit : Bool) : SignatureCache :=
  if hit then { cache with hits := cache.hits + 1 } else { cache with misses := cache.misses + 1 }

/-- The cache with the signature of a site. -/
def insert (cache : SignatureCache) (key : CollectionKey) (signature : Signature) :
    SignatureCache :=
  { cache with entries := replaceOrAppend (·.1) (key.siteId, signature) cache.entries }

/-- The cache without the signature of a site. -/
def invalidate (cache : SignatureCache) (key : CollectionKey) : SignatureCache :=
  { cache with entries := cache.entries.filter (·.1 != key.siteId) }

/-- The cache without signatures; its counters go on. -/
def clear (cache : SignatureCache) : SignatureCache :=
  { cache with entries := [] }

/-- The number of remembered signatures. -/
def size (cache : SignatureCache) : Nat := cache.entries.length

/-- The part of the lookups that were hits. -/
def hitRate (cache : SignatureCache) : Binary64 :=
  let total := cache.hits + cache.misses
  if 0 < total then (Binary64.ofNat cache.hits.toNat).div (.ofNat total.toNat) else .zero

theorem peek?_insert (cache : SignatureCache) (key other : CollectionKey) (signature : Signature) :
    (cache.insert key signature).peek? other
      = if key.siteId = other.siteId then some signature else cache.peek? other := by
  obtain ⟨entries, hits, misses⟩ := cache
  simp only [insert, peek?]
  induction entries with
  | nil =>
    by_cases h : key.siteId = other.siteId <;> simp [replaceOrAppend, h]
  | cons entry entries ih =>
    by_cases hk : entry.1 = key.siteId
    · by_cases h : key.siteId = other.siteId <;> simp [replaceOrAppend, hk, h]
    · by_cases ho : entry.1 = other.siteId
      · have h : ¬ other.siteId = key.siteId := fun e => hk (ho.trans e)
        simp [replaceOrAppend, ho, h, Ne.symm h]
      · simpa [replaceOrAppend, hk, ho] using ih

theorem peek?_invalidate (cache : SignatureCache) (key other : CollectionKey) :
    (cache.invalidate key).peek? other
      = if key.siteId = other.siteId then none else cache.peek? other := by
  obtain ⟨entries, hits, misses⟩ := cache
  simp only [invalidate, peek?]
  induction entries with
  | nil => simp
  | cons entry entries ih =>
    by_cases hk : entry.1 = key.siteId
    · by_cases h : key.siteId = other.siteId
      · simp [hk, h]
      · simpa [List.filter_cons, hk, h] using ih
    · by_cases ho : entry.1 = other.siteId
      · have h : ¬ other.siteId = key.siteId := fun e => hk (ho.trans e)
        simp [ho, h, Ne.symm h]
      · simpa [List.filter_cons, hk, ho] using ih

end SignatureCache

end SiteSearch
