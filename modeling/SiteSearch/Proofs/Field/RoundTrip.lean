import SiteSearch.Field.Name
import SiteSearch.Proofs.Collection.Generation
import SiteSearch.Proofs.Text.Digits

/-!
# There and back through field names

A handle becomes the field name of a custom field or of an attribute, and the way back has to tell which of
the two it is. It can, whatever the prefix, since the two kinds of names part right behind it; and the id in
the name of a custom field is that of one field only, so its handle comes back
(`FieldNames.handleOf_ofHandle`).

The memo in front of the way back is right as long as every answer in it is what would be found now
(`HandleMemo.Agrees`). Looking up keeps this, and clearing makes it so; a change of the model may break it.
`Naming.handles_come_back` puts both together for everything that can happen to names and memo.
-/

namespace SiteSearch

/-! ## Fields -/

namespace ContentModel

variable {model : ContentModel} {field : CustomField} {handle : String}

/-- A custom field is found by its id. -/
theorem fieldById?_of_mem (h : field ∈ model.fields) : model.fieldById? field.id = some field := by
  have hdistinct := model.distinctFields
  rw [fieldById?]
  generalize model.fields = fields at h hdistinct
  induction fields with
  | nil => cases h
  | cons first fields ih =>
    obtain ⟨hfirst, hfields⟩ := List.nodup_cons.1 hdistinct
    rcases List.mem_cons.1 h with rfl | hmem
    · exact List.find?_cons_of_pos (by simp)
    · have hne : first.id ≠ field.id := fun heq => hfirst (List.mem_map.2 ⟨field, hmem, heq.symm⟩)
      rw [List.find?_cons_of_neg (by simpa using hne), ih hmem hfields]

/-- Of the custom fields with a handle the first one is found, and no other than those. -/
theorem of_fieldByHandle? (h : model.fieldByHandle? handle = some field) :
    field ∈ model.fields ∧ field.handle = handle :=
  ⟨List.mem_of_find?_eq_some h, by simpa using List.find?_some h⟩

end ContentModel

/-! ## Names -/

namespace FieldNames

variable {names : FieldNames}

theorem afterPart?_append (part rest : String) : afterPart? part (part ++ rest) = some rest := by
  rw [afterPart?, Text.stripPrefix?_eq_some.2 String.toList_append, Option.map_some, String.ofList_toList]

/-- The name of a custom field does not begin like that of an attribute. -/
theorem afterPart?_ofCustom (start : String) (id : FieldId) :
    afterPart? (attributeStart start) (ofCustom start id) = none := by
  rw [afterPart?, Option.map_eq_none_iff, Option.eq_none_iff_forall_ne_some]
  intro rest hrest
  have hlist := Text.stripPrefix?_eq_some.1 hrest
  simp [ofCustom, customStart, attributeStart, String.toList_append] at hlist

theorem handleOf_ofAttribute (names : FieldNames) (handle : String) :
    names.handleOf (ofAttribute names.start handle) = handle := by
  rw [handleOf, ofAttribute, afterPart?_append]

theorem handleOf_ofCustom {field : CustomField} (h : names.model.fieldById? field.id = some field) :
    names.handleOf (ofCustom names.start field.id) = field.handle := by
  rw [handleOf, afterPart?_ofCustom, ofCustom, afterPart?_append]
  simp only [Text.readWord?_writeWord, Option.getD_some, h]

/-- Every handle comes back from its field name, also one that several custom fields share. -/
theorem handleOf_ofHandle (names : FieldNames) (handle : String) :
    names.handleOf (names.ofHandle handle) = handle := by
  unfold ofHandle
  split
  · rename_i field hfield
    obtain ⟨hmem, rfl⟩ := ContentModel.of_fieldByHandle? hfield
    exact handleOf_ofCustom (ContentModel.fieldById?_of_mem hmem)
  · exact handleOf_ofAttribute names handle

end FieldNames

/-! ## The memo -/

namespace HandleMemo

variable {memo : HandleMemo} {names : FieldNames}

/-- Every remembered answer is the one that would be found now. -/
def Agrees (memo : HandleMemo) (names : FieldNames) : Prop :=
  ∀ name answer, memo.answers.get? name = some answer → answer = names.handleOf name

theorem agrees_empty (names : FieldNames) : empty.Agrees names := by
  intro name answer h
  rw [empty, NameMap.get?_empty] at h
  cases h

/-- A memo that agrees answers what would be found without it. -/
theorem Agrees.lookup (h : memo.Agrees names) (name : String) :
    (memo.lookup names name).1 = names.handleOf name := by
  unfold HandleMemo.lookup
  split
  · rename_i answer hanswer
    exact h name answer hanswer
  · rfl

/-- A look at a memo that agrees leaves one that agrees. -/
theorem Agrees.after_lookup (h : memo.Agrees names) (name : String) :
    (memo.lookup names name).2.Agrees names := by
  unfold HandleMemo.lookup
  split
  · exact h
  · intro other answer hanswer
    rw [NameMap.get?_insert] at hanswer
    split at hanswer
    · rename_i heq
      rw [← Option.some.inj hanswer, heq]
    · exact h other answer hanswer

end HandleMemo

/-! ## Everything that can happen -/

/-- Field names with the memo of their handles. -/
structure Naming where
  names : FieldNames
  memo : HandleMemo

/-- What is done with field names or to their model. -/
inductive NamingStep where
  | register (field : CustomField)
  | remove (id : FieldId)
  | clear
  | lookup (name : String)

namespace Naming

/-- The names and the memo behind a step. -/
def after (naming : Naming) : NamingStep → Naming
  | .register field =>
    { naming with names := { naming.names with model := naming.names.model.registerField field } }
  | .remove id =>
    { naming with names := { naming.names with model := naming.names.model.removeField id } }
  | .clear => { naming with memo := .empty }
  | .lookup name => { naming with memo := (naming.memo.lookup naming.names name).2 }

theorem agrees_lookups {naming : Naming} (h : naming.memo.Agrees naming.names) :
    ∀ asked : List String,
      ((asked.map NamingStep.lookup).foldl after naming).memo.Agrees
        ((asked.map NamingStep.lookup).foldl after naming).names := by
  intro asked
  induction asked generalizing naming with
  | nil => exact h
  | cons name asked ih => exact ih (h.after_lookup name)

/-- Whatever has been registered, removed, asked and cleared before: where only questions follow on a
clearing of the memo, every handle comes back from its field name, and what is remembered or answered is
what would be found without the memo. -/
theorem handles_come_back (naming : Naming) (before : List NamingStep) (asked : List String) :
    let now := (before ++ NamingStep.clear :: asked.map NamingStep.lookup).foldl after naming
    (∀ handle, (now.memo.lookup now.names (now.names.ofHandle handle)).1 = handle) ∧
      (∀ name answer, now.memo.answers.get? name = some answer → answer = now.names.handleOf name) ∧
      ∀ name, (now.memo.lookup now.names name).1 = now.names.handleOf name := by
  intro now
  have hagrees : now.memo.Agrees now.names := by
    have hnow : now = (asked.map NamingStep.lookup).foldl after ((before.foldl after naming).after .clear) :=
      List.foldl_append
    rw [hnow]
    exact agrees_lookups (HandleMemo.agrees_empty (before.foldl after naming).names) asked
  refine ⟨fun handle => ?_, hagrees, hagrees.lookup⟩
  rw [hagrees.lookup, FieldNames.handleOf_ofHandle]

/-- Without a clearing an answer outlives the model that it was found in. -/
example :
    let names : FieldNames := ⟨"craft_", .empty⟩
    let now := [NamingStep.lookup "craft_field_13", .register ⟨13, "intro", true⟩].foldl after ⟨names, .empty⟩
    (now.memo.lookup now.names "craft_field_13").1 = "field not found for ID 13" ∧
      now.names.handleOf "craft_field_13" = "intro" := by decide +kernel

end Naming

end SiteSearch
