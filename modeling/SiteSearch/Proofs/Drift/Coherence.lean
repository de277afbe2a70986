import SiteSearch.Proofs.Alias.Upkeep
import SiteSearch.Proofs.Memory.Properties
import SiteSearch.Proofs.Service.Drifting

/-!
# What is remembered of mappings
-/

namespace SiteSearch

variable {keys : List CollectionKey} {key : CollectionKey} {w w' : World} {t : List (Turn Memory)}

/-- Collections that differ have different aliases and are of different sites, and no alias looks like
a generation of another collection. -/
structure Apart (names : IndexNames) (keys : List CollectionKey) : Prop where
  sites : ∀ key ∈ keys, ∀ other ∈ keys,
    key.siteId = other.siteId ↔ names.aliasName key = names.aliasName other
  shapes : ∀ key ∈ keys, ∀ other ∈ keys, ¬ IsGeneration (names.aliasName other) (names.aliasName key)

namespace World

/-- What is remembered for collections that are bound are the fields that their indexes have. -/
def Remembers (keys : List CollectionKey) (w : World) : Prop :=
  ∀ key ∈ keys, ∀ i signature, w.memory.store.Carries i (w.service.aliasName key) →
    w.service.cache.peek? key = some signature → w.memory.store.signature? i = some signature

/-- The content model has every field that the index of a collection has. -/
def Covers (w : World) (key : CollectionKey) : Prop :=
  ∀ i held, w.memory.store.Carries i (w.service.aliasName key) →
    w.memory.store.signature? i = some held → ∀ name ∈ held.names, name ∈ w.service.mapping.names

theorem Remembers.fades (h : w.Remembers keys) (hservice : w.service.Forgets w'.service)
    (hstore : w.memory.store.Fades w'.memory.store) : w'.Remembers keys := by
  intro key hkey i signature hcarries hpeek
  rw [Service.aliasName_congr hservice.names] at hcarries
  have hheld := h key hkey i signature (hstore.carries _ _ hcarries) (hservice.cache _ _ hpeek)
  exact (hstore.signature i hcarries.contains).trans hheld

/-- Where a collection is renewed, what is remembered for it behind has to be the fields of the new
index. -/
theorem Remembers.renews {properties : NameMap Json} (h : w.Remembers keys)
    (hkeys : Apart w.service.indexNames keys) (hkey : key ∈ keys) (hrenews : w.Renews key properties w')
    (hnames : w'.service.indexNames = w.service.indexNames)
    (hcache : ∀ other signature, w'.service.cache.peek? other = some signature →
      if key.siteId = other.siteId then signature = .ofProperties (.ofMap properties)
      else w.service.cache.peek? other = some signature) : w'.Remembers keys := by
  obtain ⟨new, time, -, -, hgrows⟩ := hrenews
  intro other hother i signature hcarries hpeek
  have hlearnt := hcache other signature hpeek
  have hsites := hkeys.sites key hkey other hother
  rw [Service.aliasName_congr hnames] at hcarries
  rcases (hgrows.carries _ _).1 hcarries with ⟨rfl, halias⟩ | ⟨hold, hne⟩
  · rw [if_pos (hsites.2 halias.symm)] at hlearnt
    rw [hlearnt, Store.signature?, hgrows.properties, if_pos rfl]
    rfl
  · rw [if_neg fun hsite => hne (hsites.1 hsite).symm] at hlearnt
    have hnew : new ≠ i := by
      rintro rfl
      have hfresh := hgrows.fresh
      rw [hold.contains] at hfresh
      cases hfresh
    rw [Store.signature?, hgrows.properties, if_neg hnew, ← Store.signature?]
    exact h other hother i signature hold hlearnt

/-- Behind a renewal under the mapping of the content model its signature is remembered. -/
theorem learns_signature (h : w'.service.cache = w.service.cache.insert key w.service.mapping.signature)
    (other : CollectionKey) (signature : Signature)
    (hpeek : w'.service.cache.peek? other = some signature) :
    if key.siteId = other.siteId then
      signature = .ofProperties
        (.ofMap (Store.indexOfBody (indexBody key w.service.mapping)).properties)
    else w.service.cache.peek? other = some signature := by
  rw [h, SignatureCache.peek?_insert] at hpeek
  split at hpeek
  · rw [if_pos ‹_›, Store.ofProperties_indexOfBody, Option.some.inj hpeek]
  · rw [if_neg ‹_›]
    exact hpeek

/-- The mapping of the content model is put to the index of a collection, which keeps the fields that it
had, and the signature of the mapping is remembered. -/
structure Pushes (w : World) (key : CollectionKey) (index : String) (held : Signature) (w' : World) :
    Prop where
  bound : w.memory.store.Carries index (w.service.aliasName key)
  holds : w.memory.store.signature? index = some held
  pushed : ∃ signature, w'.memory.store.signature? index = some signature ∧
    ∀ name, name ∈ signature.names ↔ name ∈ held.names ∨ name ∈ w.service.mapping.signature.names
  others : ∀ i, i ≠ index → w'.memory.store.signature? i = w.memory.store.signature? i
  carries : ∀ i b, w'.memory.store.Carries i b ↔ w.memory.store.Carries i b
  cache : w'.service.cache = w.service.cache.insert key w.service.mapping.signature

/-- Behind a mapping that has every field of the index, the index has the fields of the mapping. -/
theorem Pushes.pushed_of_covers {index : String} {held : Signature}
    (h : w.Pushes key index held w') (hcovers : w.Covers key) :
    w'.memory.store.signature? index = some w.service.mapping.signature := by
  obtain ⟨signature, hsignature, hnames⟩ := h.pushed
  rw [hsignature]
  refine congrArg some (Signature.eq_of_mem_iff fun name => ?_)
  rw [hnames]
  refine ⟨?_, .inr⟩
  rintro (hname | hname)
  · exact Mapping.mem_signature.2 (hcovers index held h.bound h.holds name hname)
  · exact hname

end World

theorem Apart.shapes_map {names : IndexNames} (h : Apart names keys) :
    ∀ a ∈ keys.map names.aliasName, ∀ b ∈ keys.map names.aliasName, ¬ IsGeneration b a := by
  intro a ha b hb
  obtain ⟨key, hkey, rfl⟩ := List.mem_map.1 ha
  obtain ⟨other, hother, rfl⟩ := List.mem_map.1 hb
  exact h.shapes key hkey other hother

namespace Operation.Runs

section

variable (hstore : w.memory.store.Orderly (keys.map w.service.indexNames.aliasName))
  (hkeys : Apart w.service.indexNames keys) (hkey : key ∈ keys)

include hstore hkeys hkey

/-- No index has the name of the alias of a collection. -/
theorem unnamed_alias : w.memory.store.contains (w.service.aliasName key) = false :=
  hstore.unnamed fun _ hb => hkeys.shapes_map _ (List.mem_map_of_mem hkey) _ hb

/-! ## Looks for drift -/

/-- A look for drift compares with the fields that the index has, when these are remembered or nothing
is. -/
theorem signatureDiff_eq {r : Except ServiceError SignatureDiff} {i : String} {held : Signature}
    (h : (signatureDiff key).Runs .none w t r w')
    (hi : w.memory.store.Carries i (w.service.aliasName key))
    (hheld : w.memory.store.signature? i = some held)
    (hcache : ∀ signature, w.service.cache.peek? key = some signature → signature = held) :
    r = .ok (held.diff w.service.mapping.signature) := by
  obtain ⟨r', hindexed, rfl⟩ := h.1.signatureDiff
  obtain ⟨-, -, ⟨signature, hpeek, -, rfl, -⟩ | ⟨-, o, ht, rfl, -⟩⟩ := hindexed.indexedSignature
  · rw [hcache signature hpeek]
    rfl
  · obtain ⟨s₁, t₁, -, hlook, -⟩ := h.2.first ht
    obtain ⟨live, hlive, hsignature⟩ :=
      Store.getMapping_of_bound (unnamed_alias hstore hkeys hkey) (hstore.alone hi)
    obtain rfl : o = .ok live := hlook.of_none.1.trans hlive
    obtain rfl : Signature.ofProperties live = held := Option.some.inj (hsignature.symm.trans hheld)
    rfl

theorem signatureDiff_remembers {r : Except ServiceError SignatureDiff}
    (h : (signatureDiff key).Runs .none w t r w') (hremembers : w.Remembers keys) :
    w'.Remembers keys ∧ w'.memory.store = w.memory.store ∧
      w'.service.indexNames = w.service.indexNames ∧ w'.service.mapping = w.service.mapping := by
  obtain ⟨r', hindexed, rfl⟩ := h.1.signatureDiff
  obtain ⟨hnames, hmapping, ⟨signature, -, ht, -, hsame⟩ | ⟨-, o, ht, -, hlearnt⟩⟩ :=
    hindexed.indexedSignature
  · obtain ⟨-, hmemory⟩ := h.2.none ht
    refine ⟨hremembers.fades ⟨hnames, fun other signature hpeek => ?_⟩ ?_, by rw [hmemory], hnames,
      hmapping⟩
    · rwa [← hsame]
    · rw [hmemory]
      exact .refl
  · obtain ⟨s₁, t₁, rfl, hlook, ht₁, hl₁⟩ := h.2.first ht
    obtain ⟨rfl, hs₁⟩ := hl₁.none ht₁
    have hsame : w'.memory.store = w.memory.store := by
      rw [hs₁]
      exact hlook.store_of_looks fun _ => rfl
    refine ⟨fun other hother i signature hcarries hpeek => ?_, hsame, hnames, hmapping⟩
    rw [Service.aliasName_congr hnames, hsame] at hcarries
    rw [hsame]
    rw [hlearnt] at hpeek
    cases o with
    | error e => exact hremembers other hother i signature hcarries hpeek
    | ok live =>
      dsimp only at hpeek
      split at hpeek
      · rename_i hsite
        have halias : w.service.aliasName key = w.service.aliasName other :=
          (hkeys.sites key hkey other hother).1 hsite
        rw [← halias] at hcarries
        obtain ⟨live', hlive, hsignature⟩ :=
          Store.getMapping_of_bound (unnamed_alias hstore hkeys hkey) (hstore.alone hcarries)
        obtain rfl : live = live' := Except.ok.inj (hlook.of_ok.1.symm.trans hlive)
        rw [hsignature, hpeek]
      · exact hremembers other hother i signature hcarries hpeek

/-! ## Mappings that are put -/

/-- A mapping is put in vain, or it is put to the index of the collection. -/
theorem updateMapping_pushes {r : Except ServiceError Signature}
    (h : (updateMapping key).Runs .none w t r w') :
    (w'.memory.store = w.memory.store ∧ w'.service.cache = w.service.cache ∧ ∃ e, r = .error e) ∨
      ∃ i held, w.Pushes key i held w' ∧ r = .ok w.service.mapping.signature := by
  obtain ⟨o, ht, rfl, -, hcache⟩ := h.1.updateMapping
  obtain ⟨s₁, t₁, rfl, hput, ht₁, hl₁⟩ := h.2.first ht
  obtain ⟨rfl, hs₁⟩ := hl₁.none ht₁
  cases o with
  | error e => exact .inl ⟨by rw [hs₁]; exact hput.store_of_error (by decide), hcache, _, rfl⟩
  | ok =>
    have hok : w.memory.store.putMapping (w.service.aliasName key) w.service.mapping.properties =
        .ok s₁.store := hput.perform_of_ok
    have hname := unnamed_alias hstore hkeys hkey
    obtain ⟨i, hi⟩ := Store.exists_carries_of_putMapping hname hok
    obtain ⟨held, hheld⟩ := Store.signature?_of_contains hi.contains
    obtain ⟨hpushed, hothers⟩ := Store.signature?_putMapping hname (hstore.alone hi) hheld hok
    rw [← hs₁] at hpushed hothers
    refine .inr ⟨i, held, ⟨hi, hheld, hpushed, hothers, fun j b => ?_, hcache⟩, rfl⟩
    rw [hs₁]
    exact (Store.sameAliases_putMapping hok).carries_iff

theorem updateMapping_remembers {r : Except ServiceError Signature}
    (h : (updateMapping key).Runs .none w t r w') (hremembers : w.Remembers keys)
    (hcovers : w.Covers key) : w'.Remembers keys := by
  have hnames : w'.service.indexNames = w.service.indexNames := by
    obtain ⟨-, -, -, hnames, -⟩ := h.1.updateMapping
    exact hnames
  obtain ⟨hsame, hcache, -⟩ | ⟨i, held, hpushes, -⟩ := updateMapping_pushes hstore hkeys hkey h
  · refine hremembers.fades ⟨hnames, fun _ _ => ?_⟩ ?_
    · rw [hcache]
      exact id
    · rw [hsame]
      exact .refl
  intro other hother j signature hcarries hpeek
  rw [Service.aliasName_congr hnames, hpushes.carries] at hcarries
  rw [hpushes.cache, SignatureCache.peek?_insert] at hpeek
  have hsites := hkeys.sites key hkey other hother
  split at hpeek
  · rename_i hsite
    have halias : w.service.aliasName key = w.service.aliasName other := hsites.1 hsite
    rw [← halias] at hcarries
    rw [hstore.unique hcarries hpushes.bound, hpushes.pushed_of_covers hcovers, ← hpeek]
  · rename_i hsite
    have hne : j ≠ i := by
      rintro rfl
      have halias : w.service.aliasName other = w.service.aliasName key :=
        (hstore.owned j _ hcarries).unique (hstore.owned j _ hpushes.bound)
      exact hsite (hsites.2 halias.symm)
    rw [hpushes.others j hne]
    exact hremembers other hother j signature hcarries hpeek

/-- Before a mapping is put for the sake of new fields, the look for drift has found every field of the
index in the content model. -/
theorem syncMapping_remembers {r : Except ServiceError MappingSync}
    (h : (syncMapping key).Runs .none w t r w') (hremembers : w.Remembers keys) :
    w'.Remembers keys := by
  unfold syncMapping at h
  obtain ⟨e, hlook, -⟩ | ⟨diff, w₁, t₁, t₂, rfl, hlook, hrest⟩ := runs_bind.1 h
  · exact (signatureDiff_remembers hstore hkeys hkey hlook hremembers).1
  obtain ⟨hremembers₁, hsame, hnames, hmapping⟩ :=
    signatureDiff_remembers hstore hkeys hkey hlook hremembers
  have halias : w₁.service.aliasName key = w.service.aliasName key := Service.aliasName_congr hnames
  split at hrest
  · rw [hrest.of_pure.2]
    exact hremembers₁
  rename_i hpatch
  split at hrest
  · rw [hrest.of_pure.2]
    exact hremembers₁
  obtain ⟨r', hupdate, -⟩ := hrest.of_mapped
  refine updateMapping_remembers (hnames ▸ hsame ▸ hstore) (hnames ▸ hkeys) hkey hupdate hremembers₁ ?_
  intro i held hcarries hheld name hname
  rw [halias, hsame] at hcarries
  rw [hsame] at hheld
  have hdiff := signatureDiff_eq hstore hkeys hkey hlook hcarries hheld fun signature hpeek =>
    Option.some.inj ((hremembers key hkey i signature hcarries hpeek).symm.trans hheld)
  rw [Except.ok.inj hdiff, Bool.not_eq_true, Signature.requiresReindex_eq_false] at hpatch
  rw [hmapping]
  exact Mapping.mem_signature.1 (hpatch name hname)

/-! ## Renewals -/

theorem ensureExists_remembers {r : Except ServiceError Bool}
    (h : (ensureExists key).Runs .none w t r w') (hremembers : w.Remembers keys) :
    w'.Remembers keys := by
  obtain ⟨hnames, -⟩ := asksOnly_ensureExists _ key rfl h.1
  obtain ⟨halike, hcache, -⟩ | ⟨hrenews, hcache, -⟩ :=
    ensureExists_renews hstore (List.mem_map_of_mem hkey) hkeys.shapes_map h
  · exact hremembers.fades ⟨hnames, by simp [hcache]⟩ halike.fades
  · exact hremembers.renews hkeys hkey hrenews hnames (World.learns_signature hcache)

theorem reindex_remembers {r : Except ServiceError ReindexReport}
    (h : (reindex key).Runs .none w t r w') (hcalm : ∀ u ∈ t, u.before.pendingFailures = 0)
    (hremembers : w.Remembers keys) : w'.Remembers keys := by
  obtain ⟨hnames, -⟩ := asksOnly_reindex _ key rfl h.1
  obtain ⟨halike, hcache, -⟩ | ⟨hrenews, hcache, -⟩ :=
    reindex_renews hstore (List.mem_map_of_mem hkey) hkeys.shapes_map h hcalm
  · exact hremembers.fades ⟨hnames, by simp [hcache]⟩ halike.fades
  · exact hremembers.renews hkeys hkey hrenews hnames (World.learns_signature hcache)

theorem clone_remembers {source : String} {r : Except ServiceError CloneReport}
    (h : (clone key source).Runs .none w t r w') (hremembers : w.Remembers keys) :
    w'.Remembers keys := by
  obtain ⟨hnames, -⟩ := asksOnly_clone _ key source rfl h.1
  obtain ⟨halike, hcache, -⟩ | ⟨properties, hrenews, hcache, -⟩ := clone_renews hstore h
  · exact hremembers.fades ⟨hnames, by simp [hcache]⟩ halike.fades
  · refine hremembers.renews hkeys hkey hrenews hnames fun other signature hpeek => ?_
    rw [hcache, SignatureCache.peek?_invalidate] at hpeek
    split at hpeek
    · cases hpeek
    · rename_i hsite
      rw [if_neg hsite]
      exact hpeek

end

/-! ## Taking away -/

theorem remembers_of_learnsNothing {α : Type} {op : Operation α} {r : Except ServiceError α}
    (h : op.Runs .none w t r w') (hlearns : op.LearnsNothing)
    (hcalls : op.AsksOnly w.service.indexNames EngineCall.TakesAway fun _ => True)
    (hremembers : w.Remembers keys) : w'.Remembers keys := by
  obtain ⟨-, htakes, -⟩ := hcalls rfl h.1
  refine hremembers.fades (hlearns h.1) ?_
  have hkept := h.2.keeps_store (J := fun store => w.memory.store.Fades store)
    (P := fun x => x.1.TakesAway) (fun hx hs => hs.trans (Store.fades_after hx)) htakes .refl
  exact hkept.2

end Operation.Runs

end SiteSearch
