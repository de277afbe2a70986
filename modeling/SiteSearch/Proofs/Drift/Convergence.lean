import SiteSearch.Proofs.Drift.Failure

/-!
# Looks for drift that settle

Where a collection is bound, and what is remembered for it is what the engine reports or nothing, a look
for drift goes by the fields that the engine reports (`Operation.Runs.signatureDiff_finds`). Fields that are
gone are told, and nothing is done about them. Otherwise the fields that are new are put to the index,
which then has exactly those of the content model; these are remembered, so another look has nothing to
do and asks the engine nothing (`Operation.Runs.syncMapping_settled`).
-/

namespace SiteSearch

variable {key : CollectionKey} {w w' : World} {t : List (Turn Memory)} {faults : Faults}
variable {live : Signature}

namespace World

/-- Where the engine is as it was, what is remembered for a collection that is bound has to be what it
reported. -/
theorem coherentFor_of_kept (hnames : w'.service.indexNames = w.service.indexNames)
    (hstore : w'.memory.store = w.memory.store) (hbound : w.isBound key = true)
    (hremembered : ∀ signature, w'.service.cache.peek? key = some signature →
      w.reported? key = some signature) : w'.CoherentFor key := by
  intro signature hpeek
  rw [isBound, reported?, Service.aliasName_congr hnames, hstore]
  exact ⟨hbound, hremembered signature hpeek⟩

/-- What becomes of a collection in a look for drift, where the engine reports some fields for it. -/
inductive Syncs (w : World) (key : CollectionKey) (live : Signature) :
    Except ServiceError MappingSync → World → Prop where
  /-- The engine is left as it was. -/
  | failed {w' : World} (e : ServiceError) (hstore : w'.memory.store = w.memory.store)
    (hcoherent : w'.CoherentFor key) : Syncs w key live (.error e) w'
  /-- Fields are gone from the content model, and nothing is done. -/
  | gone {w' : World} (hgone : (live.diff w.service.mapping.signature).requiresReindex = true)
    (hstore : w'.memory.store = w.memory.store) (hcoherent : w'.CoherentFor key) :
    Syncs w key live (.ok (.requiresReindex (live.diff w.service.mapping.signature).removed
      (live.diff w.service.mapping.signature).added)) w'
  /-- The fields are those of the content model already. -/
  | inSync {w' : World} (hstore : w'.memory.store = w.memory.store) (hcoherent : w'.CoherentFor key)
    (hpeek : w'.service.cache.peek? key = some w.service.mapping.signature) :
    Syncs w key live (.ok .inSync) w'
  /-- Fields are new in the content model, none is gone, and the mapping is put. -/
  | patched {w' : World} (hnew : (live.diff w.service.mapping.signature).added ≠ [])
    (hcoherent : w'.CoherentFor key)
    (hpeek : w'.service.cache.peek? key = some w.service.mapping.signature) :
    Syncs w key live (.ok (.patched (live.diff w.service.mapping.signature).added)) w'

end World

namespace Operation.Runs

/-- A look for drift that succeeds has compared with what the engine reports, and remembers it. -/
theorem signatureDiff_finds {diff : SignatureDiff} {live : Signature}
    (h : (signatureDiff key).Runs faults w t (.ok diff) w') (hw : w.CoherentFor key)
    (hlive : w.reported? key = some live) :
    diff = live.diff w.service.mapping.signature ∧ w'.service.cache.peek? key = some live := by
  obtain ⟨r', hindexed, hr⟩ := h.1.signatureDiff
  obtain ⟨-, -, ⟨signature, hpeek, -, rfl, hsame⟩ | ⟨-, o, ht, rfl, hlearnt⟩⟩ := hindexed.indexedSignature
  · obtain rfl : signature = live := Option.some.inj ((hw signature hpeek).2.symm.trans hlive)
    exact ⟨Except.ok.inj hr, by rw [hsame, hpeek]⟩
  · rcases o with e | properties
    · cases hr
    obtain ⟨s₁, t₁, -, hlook, -⟩ := h.2.first ht
    have htold : w.memory.store.getMapping (w.service.aliasName key) = .ok properties := hlook.of_ok.1
    rw [World.reported?, Store.reported?, htold] at hlive
    obtain rfl := Option.some.inj hlive
    exact ⟨Except.ok.inj hr, (hlearnt key).trans (if_pos rfl)⟩

/-- Where the fields of the content model are remembered, a look for drift has nothing to do and asks
the engine nothing. -/
theorem syncMapping_settled {r : Except ServiceError MappingSync}
    (h : (syncMapping key).Runs faults w t r w')
    (hpeek : w.service.cache.peek? key = some w.service.mapping.signature) :
    r = .ok .inSync ∧ t = [] := by
  have hlooked : ∀ {t : List (Turn Memory)} {r : Except ServiceError SignatureDiff} {w' : World},
      (signatureDiff key).Runs faults w t r w' →
        t = [] ∧ r = .ok (w.service.mapping.signature.diff w.service.mapping.signature) := by
    intro t r w' h
    obtain ⟨r', hindexed, rfl⟩ := h.1.signatureDiff
    obtain ⟨-, -, ⟨signature, hpeek', ht, rfl, -⟩ | ⟨hnone, -⟩⟩ := hindexed.indexedSignature
    · obtain rfl := Option.some.inj (hpeek.symm.trans hpeek')
      exact ⟨(h.2.none ht).1, rfl⟩
    · rw [hpeek] at hnone
      cases hnone
  unfold syncMapping at h
  obtain ⟨e, hlook, -⟩ | ⟨diff, w₁, t₁, t₂, rfl, hlook, hrest⟩ := runs_bind.1 h
  · cases (hlooked hlook).2
  obtain ⟨rfl, hdiff⟩ := hlooked hlook
  obtain rfl := Except.ok.inj hdiff
  rw [if_neg (by rw [Signature.requiresReindex_eq_false.2 fun _ => id]; exact Bool.false_ne_true),
    if_pos (Signature.isEmpty_diff.2 rfl)] at hrest
  obtain ⟨rfl, -⟩ := hrest.of_pure
  exact ⟨rfl, (hrest.2.none (says_pure.1 hrest.1).1).1⟩

/-- A mapping that has all fields that the engine reports is put in vain, or its fields are remembered
and they are what the engine reports from then on. -/
theorem updateMapping_reported {r : Except ServiceError Signature}
    (h : (updateMapping key).Runs .unperformed w t r w') (hbound : w.isBound key = true)
    (hlive : w.reported? key = some live)
    (hkept : ∀ name ∈ live.names, name ∈ w.service.mapping.signature.names) :
    (∃ e, r = .error e) ∧ w'.memory.store = w.memory.store ∧ w'.service.cache = w.service.cache ∨
      r = .ok w.service.mapping.signature ∧ w'.CoherentFor key ∧
        w'.service.cache.peek? key = some w.service.mapping.signature := by
  obtain ⟨o, ht, rfl, hnames, hcache⟩ := h.1.updateMapping
  obtain ⟨s₁, t₁, rfl, hput, ht₁, hl₁⟩ := h.2.first ht
  obtain ⟨rfl, hlast⟩ := hl₁.none ht₁
  rcases o with e | _
  · exact .inl ⟨⟨_, rfl⟩, by rw [hlast, hput.store_of_error (by decide)], hcache⟩
  have hok : w.memory.store.putMapping (w.service.aliasName key) w.service.mapping.properties =
      .ok s₁.store := hput.perform_of_ok
  obtain ⟨before, after, hbefore, hafter, hmem⟩ := Store.reported?_putMapping hbound hok
  obtain rfl : before = live := Option.some.inj (hbefore.symm.trans hlive)
  have hsignature : after = w.service.mapping.signature :=
    Signature.eq_of_mem_iff fun name => by rw [hmem, or_iff_right_of_imp (hkept name)]
  have hpeek : w'.service.cache.peek? key = some w.service.mapping.signature := by
    rw [hcache]
    exact (SignatureCache.peek?_insert _ _ _ _).trans (if_pos rfl)
  obtain ⟨i, hi⟩ := Store.aliasExists_iff.1 hbound
  have hbound' : s₁.store.aliasExists (w.service.aliasName key) = true :=
    Store.aliasExists_iff.2 ⟨i, (Store.sameAliases_putMapping hok).carries_iff.2 hi⟩
  refine .inr ⟨rfl, fun signature hpeek' => ?_, hpeek⟩
  rw [World.isBound, World.reported?, Service.aliasName_congr hnames, hlast, hafter, hsignature]
  exact ⟨hbound', hpeek.symm.trans hpeek'⟩

/-- A look for drift goes one of the ways of `World.Syncs`. -/
theorem syncMapping_syncs {r : Except ServiceError MappingSync}
    (h : (syncMapping key).Runs .unperformed w t r w') (hbound : w.isBound key = true)
    (hw : w.CoherentFor key) (hlive : w.reported? key = some live) : w.Syncs key live r w' := by
  unfold syncMapping at h
  obtain ⟨e, hlook, rfl⟩ | ⟨diff, w₁, t₁, t₂, rfl, hlook, hrest⟩ := runs_bind.1 h
  · obtain ⟨hstore, hnames, hremembered⟩ := signatureDiff_tells hw hlook
    exact .failed e hstore (World.coherentFor_of_kept hnames hstore hbound hremembered)
  obtain ⟨hstore, hnames, hremembered⟩ := signatureDiff_tells hw hlook
  have hcoherent : w₁.CoherentFor key := World.coherentFor_of_kept hnames hstore hbound hremembered
  obtain ⟨rfl, hpeek⟩ := hlook.signatureDiff_finds hw hlive
  split at hrest
  · rename_i hgone
    obtain ⟨rfl, rfl⟩ := hrest.of_pure
    exact .gone hgone hstore hcoherent
  rename_i hkept
  rw [Bool.not_eq_true, Signature.requiresReindex_eq_false] at hkept
  split at hrest
  · rename_i hempty
    obtain ⟨rfl, rfl⟩ := hrest.of_pure
    exact .inSync hstore hcoherent (Signature.isEmpty_diff.1 hempty ▸ hpeek)
  rename_i hchanged
  have hmapping : w₁.service.mapping = w.service.mapping := by
    obtain ⟨_, hindexed, -⟩ := hlook.1.signatureDiff
    exact hindexed.indexedSignature.2.1
  have hlive₁ : w₁.reported? key = some live := (hcoherent live hpeek).2
  obtain ⟨r', hupdate, rfl⟩ := hrest.of_mapped
  rw [← hmapping] at hkept
  rcases hupdate.updateMapping_reported (hcoherent live hpeek).1 hlive₁ hkept with
    ⟨⟨e, rfl⟩, hstore', hcache⟩ | ⟨rfl, hcoherent', hpeek'⟩
  · have hnames' : w'.service.indexNames = w₁.service.indexNames := by
      obtain ⟨-, -, -, hnames', -⟩ := hupdate.1.updateMapping
      exact hnames'
    refine .failed e (hstore'.trans hstore) ?_
    refine World.coherentFor_of_kept hnames' hstore' (hcoherent live hpeek).1 fun signature hpeek' => ?_
    rw [hcache] at hpeek'
    exact (hcoherent signature hpeek').2
  · rw [hmapping] at hpeek' hkept
    refine .patched (fun hnone => hchanged ?_) hcoherent' hpeek'
    rw [SignatureDiff.isEmpty, hnone]
    exact Bool.and_eq_true_iff.2 ⟨rfl, by
      simpa [SignatureDiff.requiresReindex] using Signature.requiresReindex_eq_false.2 hkept⟩

/-- Looks for drift converge, whatever fields the index and the content model have, at a collection that
is bound and for which nothing is remembered or else what the engine reports.

Where fields are gone, exactly these are told, with those that are new, and the engine is left as it was.
Where the look comes to anything else, the engine reports exactly the fields of the content model
afterwards, those that were new have been told as added, and another look finds everything in order,
whatever becomes of calls then: it makes none. In any case, and where a call has failed without effect
too, nothing is remembered afterwards or else what the engine reports. -/
theorem syncMapping_converges {r : Except ServiceError MappingSync}
    (h : (syncMapping key).Runs .unperformed w t r w') (hbound : w.isBound key = true)
    (hw : w.CoherentFor key) :
    w'.CoherentFor key ∧ ((∃ e, r = .error e) → w'.memory.store = w.memory.store) ∧
    ∃ live, w.reported? key = some live ∧
      (∀ removed added, r = .ok (.requiresReindex removed added) →
        removed ≠ [] ∧ removed = live.names.filter (· ∉ w.service.mapping.signature.names) ∧
        added = w.service.mapping.signature.names.filter (· ∉ live.names) ∧
        w'.memory.store = w.memory.store) ∧
      (r = .ok .inSync → w'.memory.store = w.memory.store) ∧
      (∀ added, r = .ok (.patched added) →
        added ≠ [] ∧ added = w.service.mapping.signature.names.filter (· ∉ live.names)) ∧
      ∀ sync, r = .ok sync → sync.needsReindex = false →
        w'.reported? key = some w.service.mapping.signature ∧
        ∀ faults t' r' w'', (syncMapping key).Runs faults w' t' r' w'' → r' = .ok .inSync ∧ t' = [] := by
  obtain ⟨live, hlive⟩ : ∃ live, w.reported? key = some live := Store.exists_reported hbound
  obtain ⟨hlike, -⟩ := keeps_syncMapping (P := fun _ => True) .intro .intro .refl h.1
  have hsettled : w'.service.cache.peek? key = some w.service.mapping.signature →
      ∀ faults t' r' w'', (syncMapping key).Runs faults w' t' r' w'' → r' = .ok .inSync ∧ t' = [] :=
    fun hpeek _ _ _ _ h' => h'.syncMapping_settled (hlike.mapping.symm ▸ hpeek)
  cases h.syncMapping_syncs hbound hw hlive with
  | failed e hstore hcoherent => exact ⟨hcoherent, fun _ => hstore, live, hlive, by simp⟩
  | gone hgone hstore hcoherent =>
    refine ⟨hcoherent, by simp, live, hlive, ?_, by simp, by simp, ?_⟩
    · rintro removed added ⟨⟩
      refine ⟨?_, Signature.removed_eq, Signature.added_eq, hstore⟩
      simpa [SignatureDiff.requiresReindex] using hgone
    · rintro sync ⟨⟩ ⟨⟩
  | inSync hstore hcoherent hpeek =>
    exact ⟨hcoherent, by simp, live, hlive, by simp, fun _ => hstore, by simp,
      fun _ _ _ => ⟨(hcoherent _ hpeek).2, hsettled hpeek⟩⟩
  | patched hnew hcoherent hpeek =>
    refine ⟨hcoherent, by simp, live, hlive, by simp, by simp, ?_,
      fun _ _ _ => ⟨(hcoherent _ hpeek).2, hsettled hpeek⟩⟩
    rintro added ⟨⟩
    exact ⟨hnew, Signature.added_eq⟩

/-- A field that is new in the content model is put to the English collection, and then there is nothing
left to do. Where the mapping cannot be put, the collection is left as it was. -/
theorem syncMapping_converges_english :
    let made := ((Request.ensureExists .english).perform.rehearse [] (.empty .withBody)).2.2
    let extended : World := { made with
      service := { made.service with model := made.service.model.registerField ⟨13, "summary", true⟩ } }
    let patched := (syncMapping .english).rehearse [] extended
    let again := (syncMapping .english).rehearse [] patched.2.2
    let refused := (syncMapping .english).rehearse [.unperformed (.backend "out of memory")] extended
    patched.2.1 = .ok (.patched ["craft_field_13"]) ∧ again.2.1 = .ok .inSync ∧
      patched.2.2.reported? .english = some extended.service.mapping.signature ∧
      patched.2.2.CoherentFor .english ∧ refused.2.1 = .error (.backend "out of memory") ∧
      refused.2.2.memory.store = extended.memory.store ∧ refused.2.2.CoherentFor .english := by
  intro made extended patched again refused
  have hbound : extended.isBound .english = true := by decide +kernel
  have hcoherent : extended.CoherentFor .english := by decide +kernel
  have hpatched : patched.2.1 = .ok (.patched ["craft_field_13"]) := by decide +kernel
  have hrefused : refused.2.1 = .error (.backend "out of memory") := by decide +kernel
  have hsync : (syncMapping .english).Runs .unperformed extended patched.1 patched.2.1 patched.2.2 :=
    Operation.runs_rehearse (by simp) rfl
  have hagain : (syncMapping .english).Runs .none patched.2.2 again.1 again.2.1 again.2.2 :=
    Operation.runs_rehearse_nil _ patched.2.2
  have hfailed : (syncMapping .english).Runs .unperformed extended refused.1 refused.2.1 refused.2.2 :=
    Operation.runs_rehearse (by simp [Cue.AllowedBy]) rfl
  clear_value refused again patched extended
  obtain ⟨hcoherent₁, -, _, -, -, -, -, hsettled⟩ := syncMapping_converges hsync hbound hcoherent
  obtain ⟨hreported, hnext⟩ := hsettled _ hpatched rfl
  obtain ⟨hcoherent₂, hkept, -⟩ := syncMapping_converges hfailed hbound hcoherent
  exact ⟨hpatched, (hnext _ _ _ _ hagain).1, hreported, hcoherent₁, hrefused, hkept ⟨_, hrefused⟩,
    hcoherent₂⟩

end Operation.Runs

end SiteSearch
