import SiteSearch.Collection.Name
import SiteSearch.Proofs.Text.Digits

/-!
# Names of generations

The name of a generation says of which alias it is a generation: what stands before its last
underscore. So no index is a generation under two aliases (`IsGeneration.unique`), however many
underscores and digits the aliases themselves have.
-/

namespace SiteSearch

namespace Text

theorem stripPrefix?_eq_some :
    ∀ {start text rest : List Char}, stripPrefix? start text = some rest ↔ text = start ++ rest
  | [], _, _ => by simp [stripPrefix?]
  | s :: start, [], _ => by simp [stripPrefix?]
  | s :: start, c :: text, rest => by
    by_cases h : s = c
    · simp [stripPrefix?, h, stripPrefix?_eq_some]
    · simp [stripPrefix?, h, Ne.symm h]

end Text

/-- The time in the name of a generation under an alias; nothing for any other index. -/
def generationTimeUnder? (aliasName index : String) : Option Timestamp :=
  (Text.stripPrefix? (aliasName ++ "_").toList index.toList).bind Text.digitsWord?

/-- A generation is named after its alias, an underscore and the digits of its time. -/
theorem generationTimeUnder?_eq_some {aliasName index : String} {time : Timestamp} :
    generationTimeUnder? aliasName index = some time ↔
      ∃ digits, index.toList = aliasName.toList ++ '_' :: digits ∧
        Text.digitsWord? digits = some time := by
  simp [generationTimeUnder?, Option.bind_eq_some_iff, Text.stripPrefix?_eq_some]

/-- The index is, by its name, a generation under the alias. -/
def IsGeneration (aliasName index : String) : Prop :=
  (generationTimeUnder? aliasName index).isSome

instance (aliasName index : String) : Decidable (IsGeneration aliasName index) :=
  inferInstanceAs (Decidable (_ = true))

/-- The time of a generation is read back from its name. -/
theorem generationTimeUnder?_append {aliasName : String} {time : Timestamp} :
    generationTimeUnder? aliasName (aliasName ++ "_" ++ Text.writeWord time) = some time := by
  have hname : (aliasName ++ "_" ++ Text.writeWord time).toList
      = (aliasName ++ "_").toList ++ Text.decimal time.toNat := by
    simp [Text.writeWord]
  rw [generationTimeUnder?, Text.stripPrefix?_eq_some.2 hname]
  exact Text.digitsWord?_decimal time

theorem isGeneration_append {aliasName : String} {time : Timestamp} :
    IsGeneration aliasName (aliasName ++ "_" ++ Text.writeWord time) := by
  rw [IsGeneration, generationTimeUnder?_append]
  rfl

namespace IndexNames

variable {names : IndexNames} {key : CollectionKey}

theorem generationTime?_eq (index : String) :
    names.generationTime? key index = generationTimeUnder? (names.aliasName key) index := rfl

theorem generationTime?_generationName (time : Timestamp) :
    names.generationTime? key (names.generationName key time) = some time :=
  (generationTime?_eq _).trans generationTimeUnder?_append

theorem isGeneration_generationName (time : Timestamp) :
    IsGeneration (names.aliasName key) (names.generationName key time) :=
  isGeneration_append

end IndexNames

/-! ## One alias for each generation -/

/-- What follows the last of some separators determines what stands before it. -/
theorem eq_of_append_cons_eq {α : Type} {c : α} {x y p q : List α} (hp : c ∉ p) (hq : c ∉ q)
    (h : x ++ c :: p = y ++ c :: q) : x = y := by
  rcases List.append_eq_append_iff.1 h with ⟨z, rfl, hz⟩ | ⟨z, rfl, hz⟩
  · cases z with
    | nil => rw [List.append_nil]
    | cons b z =>
      obtain ⟨rfl, rfl⟩ := List.cons.inj hz
      exact absurd (by simp) hp
  · cases z with
    | nil => rw [List.append_nil]
    | cons b z =>
      obtain ⟨rfl, rfl⟩ := List.cons.inj hz
      exact absurd (by simp) hq

theorem IsGeneration.digits {aliasName index : String} (h : IsGeneration aliasName index) :
    ∃ digits : List Char, index.toList = aliasName.toList ++ '_' :: digits ∧ '_' ∉ digits := by
  obtain ⟨time, htime⟩ := Option.isSome_iff_exists.1 h
  obtain ⟨digits, htext, hword⟩ := generationTimeUnder?_eq_some.1 htime
  exact ⟨digits, htext, Text.separator_notMem_of_digitsWord? hword⟩

/-- An index is a generation under one alias at most. -/
theorem IsGeneration.unique {a b index : String} (ha : IsGeneration a index)
    (hb : IsGeneration b index) : a = b := by
  obtain ⟨p, hp, hp'⟩ := ha.digits
  obtain ⟨q, hq, hq'⟩ := hb.digits
  exact String.toList_inj.1 (eq_of_append_cons_eq hp' hq' (hp.symm.trans hq))

/-- No index is a generation under its own name. -/
theorem not_isGeneration_self {a : String} : ¬ IsGeneration a a := by
  intro h
  obtain ⟨digits, heq, -⟩ := h.digits
  have hlength := congrArg List.length heq
  simp at hlength

end SiteSearch
