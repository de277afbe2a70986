import SiteSearch.Proofs.Drift.Coherence

/-!
# Whether looks for drift agree

A look for drift goes by what is remembered; once that is forgotten, by the mapping that the index has.
The two agree as long as every mapping that was put had all fields of the index it was put to. Where
one had not, they disagree: the fields stay in the index, for none is ever taken out, but they are not
among those that are remembered (`Course.drift_agrees_iff`).
-/

namespace SiteSearch

/-! ## Courses of chores -/

/-- The request is about the documents of a collection. -/
def Request.OnDocuments : Request → Prop
  | upsert _ _ | delete _ _ | bulkDelete _ _ | indexElement _ _ => True
  | _ => False

/-- What a service is asked about indexes and their mappings. -/
inductive Chore where
  | request (request : Request) (h : ¬ request.OnDocuments)
  | signatureDiff (key : CollectionKey)

namespace Chore

/-- The collection that a chore is about. -/
def key : Chore → CollectionKey
  | request r _ => r.key
  | signatureDiff key => key

/-- The operation that performs a chore. -/
def perform : Chore → Operation Unit
  | request r _ => r.perform
  | signatureDiff key => do let _ ← Operation.signatureDiff key

/-- A mapping is put only where the content model has every field of the index. -/
def Careful (w : World) : Chore → Prop
  | request (.updateMapping key) _ => w.Covers key
  | _ => True

end Chore

/-- Chores performed one after another, none of them with a call that goes wrong. Before each of them the
content model may be changed, and the chore has to be admitted as things are then. -/
inductive Course (admits : World → Chore → Prop) : World → List Chore → World → Prop where
  | nil (w : World) : Course admits w [] w
  | cons {w w₁ w₂ w₃ : World} {chore : Chore} {chores : List Chore} {t : List (Turn Memory)}
    {r : Except ServiceError Unit} (hpass : w.Passes w₁) (hadmits : admits w₁ chore)
    (hrun : chore.perform.Runs .none w₁ t r w₂) (hcalm : ∀ u ∈ t, u.before.pendingFailures = 0)
    (hrest : Course admits w₂ chores w₃) : Course admits w (chore :: chores) w₃

variable {names : IndexNames} {keys : List CollectionKey} {key : CollectionKey} {w w' : World}

namespace World

/-- What a look for drift comes to. -/
def drift (w : World) (key : CollectionKey) : Except ServiceError SignatureDiff :=
  ((Operation.signatureDiff key).rehearse [] w).2.1

/-- What it comes to once all signatures have been forgotten. -/
def liveDrift (w : World) (key : CollectionKey) : Except ServiceError SignatureDiff :=
  (Operation.rehearse (do Operation.forgetSignatures; Operation.signatureDiff key) [] w).2.1

/-- Collections are in order, and what is remembered for them is what their indexes have. -/
structure Coherent (names : IndexNames) (keys : List CollectionKey) (w : World) : Prop where
  orderly : w.Orderly names (keys.map names.aliasName)
  remembers : w.Remembers keys

theorem Coherent.passes (h : w.Coherent names keys) (hpass : w.Passes w') :
    w'.Coherent names keys where
  orderly := ⟨hpass.indexNames.trans h.orderly.1, hpass.1 ▸ h.orderly.2⟩
  remembers := by
    refine h.remembers.fades ⟨hpass.indexNames, ?_⟩ ?_
    · obtain ⟨-, now, model, locks, memo, heq⟩ := hpass
      rw [heq]
      exact fun _ _ => id
    · rw [hpass.1]
      exact .refl

end World

/-- A chore keeps what is remembered in step with the indexes. -/
theorem Chore.coherent (chore : Chore) {t : List (Turn Memory)} {r : Except ServiceError Unit}
    (hkeys : Apart names keys) (hkey : chore.key ∈ keys) (hcareful : chore.Careful w)
    (hrun : chore.perform.Runs .none w t r w') (hcalm : ∀ u ∈ t, u.before.pendingFailures = 0)
    (hw : w.Coherent names keys) : w'.Coherent names keys := by
  obtain ⟨⟨rfl, hstore⟩, hremembers⟩ := hw
  open Operation Operation.Runs in
  cases chore with
  | signatureDiff key =>
    obtain ⟨r', hrun⟩ := hrun.of_discarded
    obtain ⟨hremembers', hsame, hnames, -⟩ :=
      signatureDiff_remembers hstore hkeys hkey hrun hremembers
    exact ⟨⟨hnames, hsame ▸ hstore⟩, hremembers'⟩
  | request request hdocuments =>
    refine ⟨request.keepsOrder (List.mem_map_of_mem hkey) hkeys.shapes_map hrun hcalm ⟨rfl, hstore⟩, ?_⟩
    cases request with
    | upsert | delete | bulkDelete | indexElement => exact absurd .intro hdocuments
    | ensureExists =>
      obtain ⟨r', hrun⟩ := hrun.of_discarded
      exact ensureExists_remembers hstore hkeys hkey hrun hremembers
    | reindex =>
      obtain ⟨r', hrun⟩ := hrun.of_discarded
      exact reindex_remembers hstore hkeys hkey hrun hcalm hremembers
    | clone =>
      obtain ⟨r', hrun⟩ := hrun.of_discarded
      exact clone_remembers hstore hkeys hkey hrun hremembers
    | updateMapping =>
      obtain ⟨r', hrun⟩ := hrun.of_discarded
      exact updateMapping_remembers hstore hkeys hkey hrun hremembers hcareful
    | syncMapping =>
      obtain ⟨r', hrun⟩ := hrun.of_discarded
      exact syncMapping_remembers hstore hkeys hkey hrun hremembers
    | deleteOrphaned =>
      obtain ⟨r', hrun⟩ := hrun.of_discarded
      exact remembers_of_learnsNothing hrun learnsNothing_deleteOrphaned
        (asksOnly_deleteOrphaned (fun _ => .intro) (fun _ => .intro) fun _ _ => .intro) hremembers
    | deleteCollection =>
      obtain ⟨r', hrun⟩ := hrun.of_discarded
      exact remembers_of_learnsNothing hrun learnsNothing_deleteCollection
        (asksOnly_deleteCollection (fun _ => .intro) (fun _ _ _ => .intro) fun _ _ => .intro) hremembers

theorem Course.coherent {chores : List Chore} (h : Course (fun w chore => chore.Careful w) w chores w')
    (hkeys : Apart names keys) (hchores : ∀ chore ∈ chores, chore.key ∈ keys)
    (hw : w.Coherent names keys) : w'.Coherent names keys := by
  induction h with
  | nil => exact hw
  | @cons w w₁ w₂ w₃ chore chores t r hpass hcareful hrun hcalm hrest ih =>
    have hw₂ := chore.coherent hkeys (hchores _ List.mem_cons_self) hcareful hrun hcalm (hw.passes hpass)
    exact ih (fun chore hchore => hchores chore (List.mem_cons_of_mem _ hchore)) hw₂

/-! ## What looks for drift come to -/

namespace World

/-- A look for drift goes by the fields of the index, where these are remembered or nothing is. -/
theorem drift_eq {i : String} {held : Signature} (hw : w.Orderly names (keys.map names.aliasName))
    (hkeys : Apart names keys) (hkey : key ∈ keys)
    (hi : w.memory.store.Carries i (w.service.aliasName key))
    (hheld : w.memory.store.signature? i = some held)
    (hcache : ∀ signature, w.service.cache.peek? key = some signature → signature = held) :
    w.drift key = .ok (held.diff w.service.mapping.signature) := by
  obtain ⟨rfl, hstore⟩ := hw
  exact Operation.Runs.signatureDiff_eq hstore hkeys hkey
    (Operation.runs_rehearse_nil _ w) hi hheld hcache

/-- Otherwise it goes by what is remembered. -/
theorem drift_of_remembered {signature : Signature}
    (h : w.service.cache.peek? key = some signature) :
    w.drift key = .ok (signature.diff w.service.mapping.signature) := by
  have hrun : (Operation.signatureDiff key).Runs .none w _ (w.drift key) _ :=
    Operation.runs_rehearse_nil _ w
  obtain ⟨r', hindexed, hr⟩ := hrun.1.signatureDiff
  obtain ⟨-, -, ⟨other, hpeek, -, rfl, -⟩ | ⟨hnone, -⟩⟩ := hindexed.indexedSignature
  · rw [hr, Option.some.inj (h.symm.trans hpeek)]
    rfl
  · rw [h] at hnone
    cases hnone

/-- Once all signatures have been forgotten, a look for drift goes by the fields of the index. -/
theorem liveDrift_eq {i : String} {held : Signature}
    (hw : w.Orderly names (keys.map names.aliasName)) (hkeys : Apart names keys) (hkey : key ∈ keys)
    (hi : w.memory.store.Carries i (w.service.aliasName key))
    (hheld : w.memory.store.signature? i = some held) :
    w.liveDrift key = .ok (held.diff w.service.mapping.signature) := by
  obtain ⟨rfl, hstore⟩ := hw
  obtain ⟨hsaid, hl⟩ : (do Operation.forgetSignatures; Operation.signatureDiff key).Runs .none w _
      (w.liveDrift key) _ :=
    Operation.runs_rehearse_nil _ w
  unfold Operation.forgetSignatures at hsaid
  rw [Operation.says_changeCache_bind] at hsaid
  let cleared : World := ⟨{ w.service with
    cache := w.service.cache.clear
    metrics := w.service.metrics ++ [.signatureEntries w.service.cache.clear.size] }, w.memory⟩
  have hlook : (Operation.signatureDiff key).Runs .none cleared _ _ _ := ⟨hsaid, hl⟩
  refine Operation.Runs.signatureDiff_eq (w := cleared) hstore hkeys hkey hlook hi hheld ?_
  intro signature hpeek
  cases SignatureCache.peek?_clear.symm.trans hpeek

/-- What is remembered does not change what a look for drift comes to. -/
theorem Coherent.drift_agrees (h : w.Coherent names keys) (hkeys : Apart names keys) (hkey : key ∈ keys)
    (hexists : w.memory.store.aliasExists (names.aliasName key) = true) :
    ∃ diff, w.drift key = .ok diff ∧ w.liveDrift key = .ok diff := by
  obtain ⟨i, hi⟩ := Store.aliasExists_iff.1 hexists
  rw [← h.orderly.1, ← Service.aliasName] at hi
  obtain ⟨held, hheld⟩ := Store.signature?_of_contains hi.contains
  refine ⟨_, drift_eq h.orderly hkeys hkey hi hheld fun signature hpeek => ?_,
    liveDrift_eq h.orderly hkeys hkey hi hheld⟩
  exact Option.some.inj ((h.remembers key hkey i signature hi hpeek).symm.trans hheld)

/-- Behind a mapping that was put it does, unless the mapping had every field of the index. -/
theorem Coherent.drift_agrees_behind_push {w₁ w₂ : World} {t : List (Turn Memory)} {signature : Signature}
    (h : w.Coherent names keys) (hkeys : Apart names keys) (hkey : key ∈ keys)
    (hupdate : (Operation.updateMapping key).Runs .none w t (.ok signature) w₁)
    (hpass : w₁.Passes w₂) : w₂.drift key = w₂.liveDrift key ↔ w.Covers key := by
  have horderly₁ := hupdate.orderly_of_asksOnly
    (Operation.asksOnly_updateMapping fun _ => .intro) h.orderly
  have horderly₂ : w₂.Orderly names (keys.map names.aliasName) :=
    ⟨hpass.indexNames.trans horderly₁.1, hpass.1 ▸ horderly₁.2⟩
  obtain ⟨⟨rfl, hstore⟩, -⟩ := h
  obtain ⟨-, -, e, heq⟩ | ⟨i, held, hpushes, -⟩ :=
    Operation.Runs.updateMapping_pushes hstore hkeys hkey hupdate
  · cases heq
  obtain ⟨pushed, hpushed, hmem⟩ := hpushes.pushed
  have hremembered : w₂.service.cache.peek? key = some w.service.mapping.signature := by
    obtain ⟨-, now, model, locks, memo, heq⟩ := hpass
    rw [heq]
    show w₁.service.cache.peek? key = _
    rw [hpushes.cache, SignatureCache.peek?_insert, if_pos rfl]
  have hbound₂ : w₂.memory.store.Carries i (w₂.service.aliasName key) := by
    rw [hpass.1, Service.aliasName_congr horderly₂.1, hpushes.carries]
    exact hpushes.bound
  have hpushed₂ : w₂.memory.store.signature? i = some pushed := by
    rw [hpass.1]
    exact hpushed
  rw [drift_of_remembered hremembered, liveDrift_eq horderly₂ hkeys hkey hbound₂ hpushed₂]
  constructor
  · intro hsame j other hcarries hother name hname
    obtain rfl : j = i := hstore.unique hcarries hpushes.bound
    obtain rfl : other = held := Option.some.inj (hother.symm.trans hpushes.holds)
    have hsignature := Signature.diff_inj (Except.ok.inj hsame)
    rw [← Mapping.mem_signature, hsignature, hmem]
    exact .inl hname
  · intro hcovers
    have hsignature := hpushes.pushed_of_covers hcovers
    rw [Option.some.inj (hpushed.symm.trans hsignature)]

end World

/-- As long as mappings are put with care, looks for drift at a collection that is bound come to the
same whether they go by what is remembered or by the mapping of the index. Behind the next mapping that
is put they do so, however the content model changes, if and only if that one too had every field of the
index. -/
theorem Course.drift_agrees_iff {service : Service} {chores : List Chore}
    (h : Course (fun w chore => chore.Careful w) (.empty service) chores w)
    (hkeys : Apart service.indexNames (chores.map Chore.key)) :
    ∀ key ∈ chores.map Chore.key, w.memory.store.aliasExists (service.aliasName key) = true →
      ∀ w₁, w.Passes w₁ →
        (∃ diff, w₁.drift key = .ok diff ∧ w₁.liveDrift key = .ok diff) ∧
        ∀ t signature w₂ w₃, (Operation.updateMapping key).Runs .none w₁ t (.ok signature) w₂ →
          w₂.Passes w₃ → (w₃.drift key = w₃.liveDrift key ↔ w₁.Covers key) := by
  intro key hkey hexists w₁ hpass
  have hempty : (World.empty service).Coherent service.indexNames (chores.map Chore.key) :=
    ⟨⟨rfl, .empty⟩, fun _ _ _ _ ⟨_, hget, _⟩ => by cases hget⟩
  have hcoherent :=
    (h.coherent hkeys (fun chore hchore => List.mem_map_of_mem hchore) hempty).passes hpass
  refine ⟨hcoherent.drift_agrees hkeys hkey (hpass.1 ▸ hexists), fun t signature w₂ w₃ hupdate hpass' => ?_⟩
  exact hcoherent.drift_agrees_behind_push hkeys hkey hupdate hpass'

/-- A service whose content model has one custom field. -/
def Service.withBody : Service :=
  { Service.plain with model := ContentModel.empty.registerField ⟨12, "body", true⟩ }

/-- A field that is removed from the content model is found, whichever way the look goes, until a mapping
without it is put. -/
theorem drift_agrees_until_field_is_left_out :
    let run := (Chore.request (.ensureExists .english) id).perform.rehearse [] (.empty .withBody)
    let removed : World := { run.2.2 with service := { run.2.2.service with model := .empty } }
    let update := (Operation.updateMapping .english).rehearse [] removed
    removed.drift .english = .ok ⟨[], ["craft_field_12"]⟩ ∧
      (∃ diff, removed.drift .english = .ok diff ∧ removed.liveDrift .english = .ok diff) ∧
      (update.2.2.drift .english = update.2.2.liveDrift .english ↔ removed.Covers .english) := by
  intro run removed update
  have hmake : (Chore.request (.ensureExists .english) id).perform.Runs .none (.empty .withBody) run.1
      run.2.1 run.2.2 :=
    Operation.runs_rehearse_nil _ _
  have hcourse : Course (fun w chore => chore.Careful w) (.empty .withBody)
      [.request (.ensureExists .english) id] run.2.2 :=
    .cons (.refl _) .intro hmake (hmake.2.calm rfl).1 (.nil _)
  have hapart : Apart Service.withBody.indexNames [.english] := ⟨by decide +kernel, by decide +kernel⟩
  have hupdate : (Operation.updateMapping .english).Runs .none removed update.1
      (.ok Service.plain.mapping.signature) update.2.2 :=
    Operation.runs_rehearse (by simp) (by decide +kernel)
  obtain ⟨hagrees, hiff⟩ := hcourse.drift_agrees_iff hapart .english (by simp [Chore.key, Request.key])
    (by decide +kernel) removed ⟨rfl, run.2.2.service.now, .empty, _, _, rfl⟩
  exact ⟨by decide +kernel, hagrees, hiff _ _ _ _ hupdate (.refl _)⟩

/-- Behind a mapping without a field that the index has, a look for drift that goes by what is remembered
does not find the field, and one that goes by the mapping of the index does. -/
theorem drift_disagrees_behind_left_out_field :
    let made := (Request.ensureExists .english).perform.rehearse [] (.empty .withBody)
    let removed : World := { made.2.2 with service := { made.2.2.service with model := .empty } }
    let updated := ((Request.updateMapping .english).perform.rehearse [] removed).2.2
    Course (fun _ _ => True) (.empty .withBody)
        [.request (.ensureExists .english) id, .request (.updateMapping .english) id] updated ∧
      updated.drift .english = .ok ⟨[], []⟩ ∧
      updated.liveDrift .english = .ok ⟨[], ["craft_field_12"]⟩ := by
  intro made removed updated
  have hpass : made.2.2.Passes removed := ⟨rfl, made.2.2.service.now, .empty, _, _, rfl⟩
  have hmake : (Request.ensureExists .english).perform.Runs .none (.empty .withBody) made.1 made.2.1
      made.2.2 :=
    Operation.runs_rehearse_nil _ _
  obtain ⟨hmade, hcalm⟩ := hmake.2.calm rfl
  have hupdate : (Request.updateMapping .english).perform.Runs .none removed
      ((Request.updateMapping .english).perform.rehearse [] removed).1
      ((Request.updateMapping .english).perform.rehearse [] removed).2.1 updated :=
    Operation.runs_rehearse_nil _ _
  have hcourse : Course (fun _ _ => True) made.2.2 [.request (.updateMapping .english) id] updated :=
    .cons hpass .intro hupdate (hupdate.2.calm hcalm).1 (.nil _)
  exact ⟨.cons (.refl _) .intro hmake hmade hcourse, by decide +kernel, by decide +kernel⟩

end SiteSearch
