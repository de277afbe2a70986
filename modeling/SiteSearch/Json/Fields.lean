import SiteSearch.Json.Basic

/-!
# Records in JSON

A record of known fields is an object, where each field stands under its name and unknown fields are
ignored, or an array, where each field stands at its place and there are no others. A field may have
a default for when it is missing.
-/
namespace SiteSearch.Json

/-- The value of a field at a place: by name in an object, by position in an array. -/
def fieldAt? (name : String) (place : Nat) : Json → Option Json
  | object fields => valueAt? name fields
  | array items => items[place]?
  | _ => none

/-- Whether a value can hold so many fields: any object can, an array no longer than that. -/
def holdsFields (count : Nat) : Json → Bool
  | object _ => true
  | array items => items.length ≤ count
  | _ => false

/-- Reads a field that has to be there. -/
def need? {α : Type} (j : Json) (name : String) (place : Nat) (read : Json → Option α) : Option α :=
  (j.fieldAt? name place).bind read

/-- Reads a field, or takes its default where it is missing. -/
def fieldOr? {α : Type} (j : Json) (name : String) (place : Nat) (read : Json → Option α)
    (default : α) : Option α :=
  match j.fieldAt? name place with
  | none => some default
  | some value => read value

/-- Reads a value that may be null. -/
def nullable? {α : Type} (read : Json → Option α) : Json → Option (Option α)
  | null => some none
  | j => (read j).map some

/-- Reads an array of values. -/
def listOf? {α : Type} (read : Json → Option α) (j : Json) : Option (List α) :=
  j.array?.bind fun items => items.mapM read

end SiteSearch.Json
