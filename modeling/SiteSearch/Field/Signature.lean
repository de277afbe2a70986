import SiteSearch.Json.Basic

/-!
# Mapping signatures

The signature of a mapping is the set of its field names, as a list in strictly rising order.
Comparing the signature of what is indexed with the signature of what should be indexed tells
whether an index can be brought up to date: new names can be added in place, names that are gone
need a new index.
-/
namespace SiteSearch

/-- A set of field names. -/
structure Signature where
  names : List String
  rising : names.Pairwise (· < ·) := by decide

namespace Signature

instance : DecidableEq Signature := fun a b =>
  decidable_of_iff (a.names = b.names) ⟨fun h => by cases a; cases b; simp_all, fun h => h ▸ rfl⟩

/-- A name put into a rising list, unless it is there. -/
def putName (name : String) : List String → List String
  | [] => [name]
  | other :: rest =>
    if name < other then name :: other :: rest
    else if other < name then other :: putName name rest
    else other :: rest

theorem mem_putName {name x : String} :
    ∀ {names : List String}, x ∈ putName name names ↔ x = name ∨ x ∈ names
  | [] => by simp [putName]
  | other :: rest => by
    have ih : x ∈ putName name rest ↔ x = name ∨ x ∈ rest := mem_putName
    simp only [putName]
    split
    · simp
    · split
      · simp only [List.mem_cons, ih]
        exact or_left_comm
      · rename_i h₁ h₂
        have : name = other := eq_of_not_lt h₁ h₂
        subst this
        simp

theorem rising_putName {name : String} :
    ∀ {names : List String}, names.Pairwise (· < ·) → (putName name names).Pairwise (· < ·)
  | [], _ => by simp [putName]
  | other :: rest, h => by
    have hfirst : ∀ x ∈ rest, other < x := (List.pairwise_cons.1 h).1
    simp only [putName]
    split
    · rename_i hlt
      refine List.pairwise_cons.2 ⟨fun x hx => ?_, h⟩
      rcases List.mem_cons.1 hx with rfl | hx
      · exact hlt
      · exact String.lt_trans hlt (hfirst x hx)
    · split
      · rename_i hgt
        refine List.pairwise_cons.2 ⟨fun x hx => ?_, rising_putName (List.Pairwise.of_cons h)⟩
        rcases mem_putName.1 hx with rfl | hx
        · exact hgt
        · exact hfirst x hx
      · exact h

/-- The signature without names. -/
def empty : Signature := ⟨[], List.Pairwise.nil⟩

instance : Inhabited Signature := ⟨empty⟩

/-- The signature with one more name. -/
def insert (s : Signature) (name : String) : Signature :=
  ⟨putName name s.names, rising_putName s.rising⟩

/-- The set of a list of names. -/
def ofNames (names : List String) : Signature :=
  names.foldl insert empty

/-- The signature of the properties of an index: the names of their fields. -/
def ofProperties (properties : Json) : Signature :=
  match properties.object? with
  | some fields => ofNames (fields.map (·.1))
  | none => empty

/-- Looks for a name in a rising list by halves. -/
def searchHalves (name : String) (names : List String) : Bool :=
  match h : names[names.length / 2]? with
  | none => false
  | some found =>
    have middle : names.length / 2 < names.length := (List.getElem?_eq_some_iff.1 h).1
    if name < found then searchHalves name (names.take (names.length / 2))
    else if found < name then searchHalves name (names.drop (names.length / 2 + 1))
    else true
termination_by names.length
decreasing_by
  · exact Nat.lt_of_le_of_lt (List.length_take_le _ _) middle
  · rw [List.length_drop]; omega

/-- Whether a name belongs to the signature. -/
def contains (s : Signature) (name : String) : Bool :=
  searchHalves name s.names

/-- The number of names. -/
def size (s : Signature) : Nat := s.names.length

/-- Whether there is no name. -/
def isEmpty (s : Signature) : Bool := s.names.isEmpty

end Signature

/-- What changes from one signature to another. -/
structure SignatureDiff where
  /-- Names that are only in the second. -/
  added : List String
  /-- Names that are only in the first. -/
  removed : List String
  deriving DecidableEq, Repr

/-- What changes from the signature of an index to the desired one. -/
def Signature.diff (current desired : Signature) : SignatureDiff where
  added := desired.names.filter fun name => !current.contains name
  removed := current.names.filter fun name => !desired.contains name

/-- Whether nothing changes. -/
def SignatureDiff.isEmpty (d : SignatureDiff) : Bool :=
  d.added.isEmpty && d.removed.isEmpty

/-- A field cannot be taken out of an index, so a removed name needs a new one. -/
def SignatureDiff.requiresReindex (d : SignatureDiff) : Bool :=
  !d.removed.isEmpty

end SiteSearch
