import Mathlib.Data.List.Induction
import Mathlib.Data.List.Nodup
import SiteSearch.Content.Model

/-!
# Reached content models

A content model comes about by registering types and custom fields, some of them again, and by removing
custom fields (`ContentModel.reached`). What it holds in the end can be read off these steps: a type is as
its handle was registered last, and stands where its handle was registered first
(`ContentModel.types_reached`); for custom fields the same holds of the registrations that no removal follows
(`ContentModel.fields_reached`).

Where every step is about a type or a custom field of its own, the order of the steps decides on the places
in the model, but not on what is in it (`ContentModel.holds_iff_of_perm`).
-/

namespace SiteSearch

/-! ## First occurrences -/

section EraseDups

variable {κ : Type} [DecidableEq κ] {first : κ} {keys : List κ}

theorem eraseDups_concat :
    (keys ++ [first]).eraseDups = if first ∈ keys then keys.eraseDups else keys.eraseDups ++ [first] := by
  rw [List.eraseDups_append, List.removeAll]
  split
  · rename_i h
    simp [h]
  · rename_i h
    simp [h, List.eraseDups_cons]

theorem nodup_eraseDups : keys.eraseDups.Nodup := by
  induction keys using List.reverseRecOn with
  | nil => exact List.nodup_nil
  | append_singleton keys last ih =>
    rw [eraseDups_concat]
    split
    · exact ih
    · rename_i h
      rw [← List.concat_eq_append, List.nodup_concat]
      exact ⟨by rwa [List.mem_eraseDups], ih⟩

theorem eraseDups_filter {p : κ → Bool} : (keys.filter p).eraseDups = keys.eraseDups.filter p := by
  induction keys using List.reverseRecOn with
  | nil => rfl
  | append_singleton keys last ih =>
    rw [List.filter_append, eraseDups_concat]
    by_cases hlast : p last = true
    · rw [List.filter_cons_of_pos hlast, List.filter_nil, eraseDups_concat, ih]
      by_cases hmem : last ∈ keys
      · simp [hmem, hlast]
      · simp [hmem, hlast]
    · rw [List.filter_cons_of_neg hlast, List.filter_nil, List.append_nil, ih]
      by_cases hmem : last ∈ keys
      · simp [hmem]
      · simp [hmem, hlast]

end EraseDups

/-! ## The last item of every key -/

/-- The last item of every key, in the order in which the keys first come up. -/
def latest {α κ : Type} [DecidableEq κ] (key : α → κ) (items : List α) : List α :=
  (items.map key).eraseDups.filterMap fun k => items.reverse.find? (key · = k)

section Latest

variable {α κ : Type} [DecidableEq κ] {key : α → κ} {item other : α} {items : List α}

/-- An item takes the place of the one with its key, and of no other. -/
theorem mem_replaceOrAppend (h : (items.map key).Nodup) :
    other ∈ replaceOrAppend key item items ↔ other = item ∨ other ∈ items ∧ key other ≠ key item := by
  induction items with
  | nil => simp [replaceOrAppend]
  | cons first items ih =>
    obtain ⟨hfirst, hitems⟩ := List.nodup_cons.1 h
    rw [replaceOrAppend]
    split
    · rename_i hkey
      have hrest : other ∈ items → key other ≠ key item :=
        fun hother heq => hfirst (hkey ▸ heq ▸ List.mem_map_of_mem hother)
      simp only [List.mem_cons]
      constructor
      · rintro (rfl | hother)
        · exact .inl rfl
        · exact .inr ⟨.inr hother, hrest hother⟩
      · rintro (rfl | ⟨rfl | hother, hne⟩)
        · exact .inl rfl
        · exact absurd hkey hne
        · exact .inr hother
    · rename_i hkey
      rw [List.mem_cons, ih hitems, List.mem_cons]
      constructor
      · rintro (rfl | rfl | ⟨hother, hne⟩)
        · exact .inr ⟨.inl rfl, hkey⟩
        · exact .inl rfl
        · exact .inr ⟨.inr hother, hne⟩
      · rintro (rfl | ⟨rfl | hother, hne⟩)
        · exact .inr (.inl rfl)
        · exact .inl rfl
        · exact .inr (.inr ⟨hother, hne⟩)

theorem find?_of_mem_latest (h : item ∈ latest key items) :
    items.reverse.find? (key · = key item) = some item := by
  obtain ⟨k, -, hfound⟩ := List.mem_filterMap.1 h
  have hkey : key item = k := by simpa using List.find?_some hfound
  rw [hkey]
  exact hfound

/-- The items with the right keys that are the last ones of their keys are all of them. -/
theorem eq_latest {found : List α} (hkeys : found.map key = (items.map key).eraseDups)
    (hlast : ∀ item ∈ found, items.reverse.find? (key · = key item) = some item) :
    found = latest key items := by
  rw [latest, ← hkeys, List.filterMap_map]
  refine Eq.trans List.filterMap_some.symm (List.filterMap_congr fun item hitem => ?_)
  exact (hlast item hitem).symm

theorem map_latest : (latest key items).map key = (items.map key).eraseDups := by
  rw [latest, List.map_filterMap]
  refine Eq.trans (List.filterMap_congr fun k hk => ?_) List.filterMap_some
  obtain ⟨item, hitem, rfl⟩ := List.mem_map.1 (List.mem_eraseDups.1 hk)
  cases hfound : items.reverse.find? (key · = key item) with
  | none => simpa using List.find?_eq_none.1 hfound item (List.mem_reverse.2 hitem)
  | some last => simpa using List.find?_some hfound

theorem latest_concat : latest key (items ++ [item]) = replaceOrAppend key item (latest key items) := by
  have hdistinct : ((latest key items).map key).Nodup := by
    rw [map_latest]
    exact nodup_eraseDups
  refine (eq_latest ?_ fun other hother => ?_).symm
  · rw [map_replaceOrAppend, map_latest, List.map_append, List.map_singleton, eraseDups_concat]
    simp only [List.mem_eraseDups]
  · rw [List.reverse_concat]
    rcases (mem_replaceOrAppend hdistinct).1 hother with rfl | ⟨hother, hne⟩
    · exact List.find?_cons_of_pos (by simp)
    · rw [List.find?_cons_of_neg (by simpa using hne.symm)]
      exact find?_of_mem_latest hother

theorem latest_filter {p : κ → Bool} :
    latest key (items.filter fun item => p (key item)) =
      (latest key items).filter fun item => p (key item) := by
  refine (eq_latest ?_ fun item hitem => ?_).symm
  · have hmap : ∀ items : List α,
        (items.filter fun item => p (key item)).map key = (items.map key).filter p :=
      fun items => List.filter_map.symm
    rw [hmap, hmap, map_latest, eraseDups_filter]
  · obtain ⟨hmem, hp⟩ := List.mem_filter.1 hitem
    rw [← List.filter_reverse, List.find?_filter, ← find?_of_mem_latest hmem]
    congr 1
    funext other
    by_cases hkey : key other = key item
    · simp [hkey, hp]
    · simp [hkey]

end Latest

/-! ## Steps -/

/-- What is done to a content model. -/
inductive ModelStep where
  | setType (type : ElementType)
  | setField (field : CustomField)
  | dropField (id : FieldId)
  deriving DecidableEq

namespace ModelStep

/-- What a step is about: the type with a handle or the custom field with an id. -/
def subject : ModelStep → String ⊕ FieldId
  | setType type => .inl type.handle
  | setField field => .inr field.id
  | dropField id => .inr id

/-- The type that a step registers. -/
def type? : ModelStep → Option ElementType
  | setType type => some type
  | _ => none

end ModelStep

namespace ContentModel

open ModelStep

variable {model : ContentModel} {step done : ModelStep} {steps more : List ModelStep}

/-- The model behind a step. -/
def after (model : ContentModel) : ModelStep → ContentModel
  | setType type => model.registerType type
  | setField field => model.registerField field
  | dropField id => model.removeField id

/-- The model that steps lead to from nothing. -/
def reached (steps : List ModelStep) : ContentModel :=
  steps.foldl after empty

theorem reached_concat : reached (steps ++ [step]) = (reached steps).after step :=
  List.foldl_concat ..

/-- A reached model has the last type of every registered handle, in the order of the first ones. -/
theorem types_reached (steps : List ModelStep) :
    (reached steps).types = latest (·.handle) (steps.filterMap type?) := by
  induction steps using List.reverseRecOn with
  | nil => rfl
  | append_singleton steps step ih =>
    rw [reached_concat, List.filterMap_append]
    cases step with
    | setType type =>
      show replaceOrAppend _ type (reached steps).types = latest _ (_ ++ [type])
      rw [ih, latest_concat]
    | setField =>
      show (reached steps).types = latest _ (_ ++ [])
      rw [ih, List.append_nil]
    | dropField =>
      show (reached steps).types = latest _ (_ ++ [])
      rw [ih, List.append_nil]

/-- The custom fields that steps register, one after the other, without those whose id is removed later. -/
def standingFields : List ModelStep → List CustomField
  | [] => []
  | setField field :: steps =>
    if dropField field.id ∈ steps then standingFields steps else field :: standingFields steps
  | _ :: steps => standingFields steps

theorem standingFields_append : standingFields (steps ++ more) =
    (standingFields steps).filter (fun field => dropField field.id ∉ more) ++ standingFields more := by
  induction steps with
  | nil => rfl
  | cons step steps ih =>
    cases step with
    | setType => exact ih
    | setField field =>
      simp only [List.cons_append, standingFields, List.mem_append, ih]
      by_cases hsteps : dropField field.id ∈ steps
      · simp [hsteps]
      · by_cases hmore : dropField field.id ∈ more
        · simp [hsteps, hmore]
        · simp [hsteps, hmore]
    | dropField => exact ih

/-- A reached model has the last custom field of every id that still stands, in the order of the first
ones. -/
theorem fields_reached (steps : List ModelStep) :
    (reached steps).fields = latest (·.id) (standingFields steps) := by
  induction steps using List.reverseRecOn with
  | nil => rfl
  | append_singleton steps step ih =>
    rw [reached_concat, standingFields_append]
    cases step with
    | setType => simpa [after, registerType, standingFields] using ih
    | setField field =>
      have hkept : (standingFields steps).filter
          (fun other => dropField other.id ∉ [setField field]) = standingFields steps := by
        simp
      show replaceOrAppend _ field (reached steps).fields = latest _ (_ ++ [field])
      rw [hkept, latest_concat, ih]
    | dropField id =>
      have hkept : (standingFields steps).filter (fun other => dropField other.id ∉ [dropField id]) =
          (standingFields steps).filter fun other => other.id != id :=
        List.filter_congr fun other _ => by rw [Bool.eq_iff_iff]; simp
      show (reached steps).fields.filter (·.id != id) = latest _ (_ ++ [])
      rw [hkept, List.append_nil, latest_filter (p := (· != id)), ih]

/-! ## Steps in any order -/

/-- Whether a model has what a step registers. -/
def Holds (model : ContentModel) : ModelStep → Prop
  | setType type => type ∈ model.types
  | setField field => field ∈ model.fields
  | dropField _ => False

/-- A step touches nothing but its subject. -/
theorem holds_after : (model.after done).Holds step ↔
    step = done ∧ (∀ id, step ≠ dropField id) ∨ model.Holds step ∧ step.subject ≠ done.subject := by
  cases done with
  | setType first =>
    cases step with
    | setType type =>
      refine (mem_replaceOrAppend model.distinctTypes).trans ?_
      simp [Holds, subject]
    | setField field => simp [Holds, after, registerType, subject]
    | dropField id => simp [Holds]
  | setField first =>
    cases step with
    | setType type => simp [Holds, after, registerField, subject]
    | setField field =>
      refine (mem_replaceOrAppend model.distinctFields).trans ?_
      simp [Holds, subject]
    | dropField id => simp [Holds]
  | dropField first =>
    cases step with
    | setType type => simp [Holds, after, removeField, subject]
    | setField field => simp [Holds, after, removeField, subject]
    | dropField id => simp [Holds]

/-- Steps that are about different things touch nothing but their subjects. -/
theorem holds_foldl (h : (steps.map subject).Nodup) : (steps.foldl after model).Holds step ↔
    step ∈ steps ∧ (∀ id, step ≠ dropField id) ∨ model.Holds step ∧ step.subject ∉ steps.map subject := by
  induction steps generalizing model with
  | nil => simp
  | cons first steps ih =>
    obtain ⟨hfirst, hsteps⟩ := List.nodup_cons.1 h
    rw [List.foldl_cons, ih hsteps, holds_after, List.mem_cons, List.map_cons, List.mem_cons]
    constructor
    · rintro (⟨hmem, hregisters⟩ | ⟨⟨rfl, hregisters⟩ | ⟨hholds, hne⟩, hlater⟩)
      · exact .inl ⟨.inr hmem, hregisters⟩
      · exact .inl ⟨.inl rfl, hregisters⟩
      · exact .inr ⟨hholds, not_or.2 ⟨hne, hlater⟩⟩
    · rintro (⟨rfl | hmem, hregisters⟩ | ⟨hholds, hother⟩)
      · exact .inr ⟨.inl ⟨rfl, hregisters⟩, hfirst⟩
      · exact .inl ⟨hmem, hregisters⟩
      · obtain ⟨hne, hlater⟩ := not_or.1 hother
        exact .inr ⟨.inr ⟨hholds, hne⟩, hlater⟩

/-- Steps that are about different things lead to the same content in any order. -/
theorem holds_iff_of_perm (h : (steps.map subject).Nodup) (hperm : steps.Perm more) :
    (steps.foldl after model).Holds step ↔ (more.foldl after model).Holds step := by
  have hmore : (more.map subject).Nodup := (hperm.map subject).nodup_iff.1 h
  rw [holds_foldl h, holds_foldl hmore, hperm.mem_iff, (hperm.map subject).mem_iff]

end ContentModel

end SiteSearch
