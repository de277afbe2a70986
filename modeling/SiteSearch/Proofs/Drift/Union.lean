import SiteSearch.Proofs.Drift.Agreement
import SiteSearch.Proofs.Memory.Types
import SiteSearch.Proofs.Service.Keeping

/-!
# Mappings that only grow

A look for drift compares the names of fields and never their types. That is enough: the mappings that a
service makes in the course of its life all have one prefix, so each of them has a field under the type
that the field has had from the beginning. Every request on a collection keeps it so
(`Request.declares`), and a mapping that is put behind an alias that is bound is taken whatever the
content model has become (`History.updateMapping_unites`).
-/

namespace SiteSearch

variable {w w' w₁ w₂ : World} {requests : List Request} {key : CollectionKey}
variable {t t' : List (Turn Memory)}

/-- The fields that a request on a collection declares are those of a mapping under the prefix of the
service. -/
theorem Request.declares {request : Request} {base : Service} (h : ¬ request.OnDocuments) :
    Operation.Keeps base (EngineCall.Declares base.config.fieldStart) request.perform
      fun _ => True := by
  open Operation in
  cases request with
  | upsert | delete | bulkDelete | indexElement => exact absurd .intro h
  | ensureExists key =>
    have hmake : Keeps base (EngineCall.Declares base.config.fieldStart)
        (Operation.ensureExists key) fun _ => True :=
      keeps_ensureExists .intro .intro (fun _ _ => ⟨key, base.model, rfl⟩) fun _ _ => .intro
    exact keeps_bind hmake fun _ _ => keeps_pure .intro
  | reindex key =>
    have hmove : Keeps base (EngineCall.Declares base.config.fieldStart)
        (Operation.reindex key) fun _ => True := by
      refine keeps_reindex.mono (fun c hc => ?_) fun _ => id
      cases hc with
      | createIndex => exact ⟨key, base.model, rfl⟩
      | _ => trivial
    exact keeps_bind hmove fun _ _ => keeps_pure .intro
  | clone key source =>
    have hcopy : Keeps base (EngineCall.Declares base.config.fieldStart)
        (Operation.clone key source) fun _ => True :=
      keeps_clone.mono (fun c hc => by cases hc <;> trivial) fun _ => id
    exact keeps_bind hcopy fun _ _ => keeps_pure .intro
  | updateMapping key =>
    exact keeps_bind (keeps_updateMapping ⟨base.model, rfl⟩) fun _ _ => keeps_pure .intro
  | syncMapping key =>
    have hsync : Keeps base (EngineCall.Declares base.config.fieldStart)
        (Operation.syncMapping key) fun _ => True :=
      keeps_syncMapping .intro ⟨base.model, rfl⟩
    exact keeps_bind hsync fun _ _ => keeps_pure .intro
  | deleteOrphaned key =>
    have hsweep : Keeps base (EngineCall.Declares base.config.fieldStart)
        (Operation.deleteOrphaned key) fun _ => True :=
      keeps_deleteOrphaned .intro .intro fun _ _ => .intro
    exact keeps_bind hsweep fun _ _ => keeps_pure .intro
  | deleteCollection key =>
    have hdelete : Keeps base (EngineCall.Declares base.config.fieldStart)
        (Operation.deleteCollection key) fun _ => True :=
      keeps_deleteCollection .intro (fun _ _ _ => .intro) fun _ _ => .intro
    exact keeps_bind hdelete fun _ _ => keeps_pure .intro

theorem World.Passes.config (h : w.Passes w') : w'.service.config = w.service.config := by
  obtain ⟨-, now, model, locks, memo, heq⟩ := h
  rw [heq]

/-- Whatever goes wrong on the way, and however the content model changes, no field ever has another
type than the one that goes with its name. -/
theorem History.typed {faults : Faults} (h : History faults w requests t w')
    (hrequests : ∀ request ∈ requests, ¬ request.OnDocuments)
    (hw : w.memory.store.Typed w.service.config.fieldStart) :
    w'.memory.store.Typed w'.service.config.fieldStart := by
  induction h with
  | nil => exact hw
  | @cons w w₁ w₂ w₃ request requests t t' r hpass hrun _ ih =>
    have hw₁ : w₁.memory.store.Typed w₁.service.config.fieldStart := by
      rw [hpass.config, hpass.1]
      exact hw
    obtain ⟨hlike, hcalls, -⟩ :=
      request.declares (hrequests _ List.mem_cons_self) .refl hrun.1
    obtain ⟨-, hw₂⟩ := hrun.2.keeps_store (J := Store.Typed w₁.service.config.fieldStart)
      (P := fun x => x.1.Declares w₁.service.config.fieldStart) (fun hx hs => hs.after hx) hcalls hw₁
    rw [← hlike.config] at hw₂
    exact ih (fun other hother => hrequests other (List.mem_cons_of_mem _ hother)) hw₂

/-- A mapping is put to a collection that is bound: it is taken, and united with what is there. -/
theorem Operation.Runs.unites_of_updateMapping {r : Except ServiceError Signature}
    (h : (updateMapping key).Runs .none w t r w')
    (hw : w.memory.store.Typed w.service.config.fieldStart)
    (hbound : w.memory.store.aliasExists (w.service.aliasName key) = true) :
    r = .ok w.service.mapping.signature ∧
      w.memory.store.Unites (w.service.aliasName key) w.service.mapping w'.memory.store := by
  obtain ⟨o, ht, rfl, -, -⟩ := h.1.updateMapping
  obtain ⟨s₁, t₁, rfl, hput, ht₁, hl₁⟩ := h.2.first ht
  obtain ⟨rfl, hs₁⟩ := hl₁.none ht₁
  obtain ⟨store', hok, hunites⟩ := hw.unites hbound w.service.model
  obtain ⟨⟨_, rfl⟩, hstore⟩ := hput.accepted .intro hok
  refine ⟨rfl, ?_⟩
  rw [hs₁, hstore]
  exact hunites

/-- Two content models never disagree about the type of a field. So after any requests on collections,
and any changes of the content model in between, a mapping is taken by every collection that is bound;
what is told of its mapping, and every index behind the alias, then has exactly the fields that were
there before and those of the mapping. -/
theorem History.updateMapping_unites {service : Service} {r : Except ServiceError Signature}
    (h : History .none (.empty service) requests t w)
    (hrequests : ∀ request ∈ requests, ¬ request.OnDocuments) (hpass : w.Passes w₁)
    (hbound : w₁.memory.store.aliasExists (w₁.service.aliasName key) = true)
    (hrun : (Operation.updateMapping key).Runs .none w₁ t' r w₂) :
    (∀ start model other name type type', (Mapping.ofModel ⟨start, model⟩).get? name = some type →
      (Mapping.ofModel ⟨start, other⟩).get? name = some type' → type = type') ∧
    r = .ok w₁.service.mapping.signature ∧
    w₁.memory.store.Unites (w₁.service.aliasName key) w₁.service.mapping w₂.memory.store := by
  refine ⟨fun start model other name type type' htype htype' => ?_, hrun.unites_of_updateMapping ?_ hbound⟩
  · rw [Mapping.get?_ofModel] at htype htype'
    split at htype
    · split at htype'
      · rw [← Option.some.inj htype, ← Option.some.inj htype']
      · cases htype'
    · cases htype
  · rw [hpass.1, hpass.config]
    exact h.typed hrequests Store.typed_empty

/-- A field that is new in the content model is put to the English collection. -/
theorem english_mapping_unites :
    let made := (World.empty .plain).rehearse [(.ensureExists .english, [])]
    let registered : World :=
      { made.2 with service := { made.2.service with model := Service.withBody.model } }
    let update := (Operation.updateMapping .english).rehearse [] registered
    (update.2.1 = .ok registered.service.mapping.signature ∧
      registered.memory.store.Unites (registered.service.aliasName .english)
        registered.service.mapping update.2.2.memory.store) ∧
    (registered.memory.store.properties? "craftcms_en_1700000000").map (·.names) =
      some ["craft_attribute_postDate", "craft_attribute_slug", "craft_attribute_title"] ∧
    (update.2.2.memory.store.properties? "craftcms_en_1700000000").map (·.names) =
      some ["craft_attribute_postDate", "craft_attribute_slug", "craft_attribute_title",
        "craft_field_12"] := by
  intro made registered update
  have hcues : ∀ line ∈ [(Request.ensureExists .english, ([] : List Cue))],
      ∀ cue ∈ line.2, cue.AllowedBy .none := by simp
  have hmade : History .none (.empty .plain) [.ensureExists .english] made.1 made.2 :=
    World.history_rehearse hcues
  have hpass : made.2.Passes registered :=
    ⟨rfl, made.2.service.now, Service.withBody.model, made.2.service.locks, made.2.service.memo, rfl⟩
  have hbound : registered.memory.store.aliasExists (registered.service.aliasName .english) = true := by
    decide +kernel
  have hunites := hmade.updateMapping_unites (by simp [Request.OnDocuments]) hpass hbound
    (Operation.runs_rehearse_nil _ registered)
  exact ⟨hunites.2, by decide +kernel, by decide +kernel⟩

end SiteSearch
