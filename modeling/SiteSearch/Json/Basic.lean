import SiteSearch.Binary64.Basic
import SiteSearch.NameMap

/-!
# JSON values

Documents, settings, mappings and request bodies are JSON values. A number keeps whether it was
written as a whole number, and an object keeps its fields in rising order of their names:
`WellFormed` says so for every object inside a value, and every value that is read or built here
has that shape.
-/
namespace SiteSearch

/-- A JSON number: a whole one of at most 64 bits, or a finite floating-point number. -/
inductive JsonNumber where
  | whole (n : Int)
  | real (x : Binary64)
  deriving DecidableEq, Repr

/-- Whether two numbers have one value. A whole number and a floating-point one never do, and the
two floating-point zeros do. -/
def JsonNumber.equals : JsonNumber → JsonNumber → Bool
  | .whole a, .whole b => decide (a = b)
  | .real a, .real b => decide (a.key = b.key)
  | _, _ => false

/-- A JSON value. -/
inductive Json where
  | null
  | bool (b : Bool)
  | number (n : JsonNumber)
  | string (s : String)
  | array (items : List Json)
  | object (fields : List (String × Json))
  deriving Repr

namespace Json

instance : Inhabited Json := ⟨null⟩

/-! ## Equality -/

mutual

/-- Whether two values are built alike, their numbers being held against each other by a test. -/
def alike (numbers : JsonNumber → JsonNumber → Bool) : Json → Json → Bool
  | null, null => true
  | bool a, bool b => a == b
  | number a, number b => numbers a b
  | string a, string b => decide (a = b)
  | array a, array b => itemsAlike numbers a b
  | object a, object b => fieldsAlike numbers a b
  | _, _ => false

/-- Whether two lists of values are alike. -/
def itemsAlike (numbers : JsonNumber → JsonNumber → Bool) : List Json → List Json → Bool
  | [], [] => true
  | a :: as, b :: bs => alike numbers a b && itemsAlike numbers as bs
  | _, _ => false

/-- Whether two lists of fields are alike. -/
def fieldsAlike (numbers : JsonNumber → JsonNumber → Bool) :
    List (String × Json) → List (String × Json) → Bool
  | [], [] => true
  | (n, a) :: as, (m, b) :: bs => decide (n = m) && alike numbers a b && fieldsAlike numbers as bs
  | _, _ => false

end

section

variable {numbers : JsonNumber → JsonNumber → Bool}

mutual

/-- Under a test that tells all numbers apart, only a value itself is like it. -/
theorem alike_iff_eq (h : ∀ {m n}, numbers m n = true ↔ m = n) :
    ∀ {a b : Json}, alike numbers a b = true ↔ a = b
  | null, b => by cases b <;> simp [alike]
  | bool a, b => by cases b <;> simp [alike]
  | number a, b => by cases b <;> simp [alike, h]
  | string a, b => by cases b <;> simp [alike]
  | array a, b => by cases b <;> simp [alike, itemsAlike_iff_eq h]
  | object a, b => by cases b <;> simp [alike, fieldsAlike_iff_eq h]

theorem itemsAlike_iff_eq (h : ∀ {m n}, numbers m n = true ↔ m = n) :
    ∀ {a b : List Json}, itemsAlike numbers a b = true ↔ a = b
  | [], b => by cases b <;> simp [itemsAlike]
  | a :: as, b => by cases b <;> simp [itemsAlike, alike_iff_eq h, itemsAlike_iff_eq h]

theorem fieldsAlike_iff_eq (h : ∀ {m n}, numbers m n = true ↔ m = n) :
    ∀ {a b : List (String × Json)}, fieldsAlike numbers a b = true ↔ a = b
  | [], b => by cases b <;> simp [fieldsAlike]
  | (n, a) :: as, b => by
    cases b with
    | nil => simp [fieldsAlike]
    | cons p bs =>
      obtain ⟨m, b⟩ := p
      simp [fieldsAlike, alike_iff_eq h, fieldsAlike_iff_eq h, and_assoc]

end

end

instance : DecidableEq Json := fun a b =>
  decidable_of_iff (alike (fun m n => decide (m = n)) a b = true) (alike_iff_eq (by simp))

/-- Whether two values are equal; of numbers, the value counts and not the sign of a zero. -/
def equals : Json → Json → Bool :=
  alike JsonNumber.equals

/-! ## Building -/

/-- A whole number. -/
def nat (n : Nat) : Json := number (.whole n)

/-- A word as a number. -/
def word (w : UInt64) : Json := nat w.toNat

/-- A floating-point number; one that is not finite has no JSON form and becomes null. -/
def real (x : Binary64) : Json :=
  if x.isFinite then number (.real x) else null

/-- The object of a list of fields; of two with one name, the later one is kept. -/
def ofFields (fields : List (String × Json)) : Json :=
  object (NameMap.ofList fields).entries

/-- The object of a map. -/
def ofMap (m : NameMap Json) : Json :=
  object m.entries

/-- What a function makes of a value, or null where there is none. -/
def ofOption {α : Type} (f : α → Json) : Option α → Json
  | some a => f a
  | none => null

/-- An array of strings. -/
def strings (items : List String) : Json :=
  array (items.map string)

/-! ## Looking in -/

/-- The value of a field of an object. -/
def field? (name : String) : Json → Option Json
  | object fields => valueAt? name fields
  | _ => none

/-- The value of a field; null where there is none. -/
def fieldD (name : String) (j : Json) : Json :=
  (j.field? name).getD null

/-- The text of a string. -/
def string? : Json → Option String
  | string s => some s
  | _ => none

/-- The truth value of a boolean. -/
def bool? : Json → Option Bool
  | bool b => some b
  | _ => none

/-- The items of an array. -/
def array? : Json → Option (List Json)
  | array items => some items
  | _ => none

/-- The fields of an object. -/
def object? : Json → Option (List (String × Json))
  | object fields => some fields
  | _ => none

/-- A whole number that is not negative, as a word. -/
def word? : Json → Option UInt64
  | number (.whole (.ofNat n)) => some (UInt64.ofNat n)
  | _ => none

/-- Any number as a floating-point number. -/
def real? : Json → Option Binary64
  | number (.whole n) => some (Binary64.ofRatio (n < 0) n.natAbs 1)
  | number (.real x) => some x
  | _ => none

/-- Whether a value is null. -/
def isNull : Json → Bool
  | null => true
  | _ => false

/-- The value at the end of a path of field names. -/
def path? : List String → Json → Option Json
  | [], j => some j
  | name :: rest, j => (j.field? name).bind (path? rest)

/-- The fields of an object as a map. -/
def map? (j : Json) : Option (NameMap Json) :=
  j.object?.map NameMap.ofList

/-- An object with one field put into it; a value that is no object becomes one. -/
def setField (j : Json) (name : String) (value : Json) : Json :=
  match j with
  | object fields => object (putEntry name value fields)
  | _ => object [(name, value)]

/-! ## Shape -/

mutual

/-- Every object inside the value lists its fields in strictly rising order. -/
def WellFormed : Json → Prop
  | array items => ItemsWellFormed items
  | object fields => RisingNames fields ∧ FieldsWellFormed fields
  | _ => True

/-- Every value of a list is well formed. -/
def ItemsWellFormed : List Json → Prop
  | [] => True
  | item :: items => WellFormed item ∧ ItemsWellFormed items

/-- Every value of a list of fields is well formed. -/
def FieldsWellFormed : List (String × Json) → Prop
  | [] => True
  | (_, value) :: fields => WellFormed value ∧ FieldsWellFormed fields

end

end Json

end SiteSearch
