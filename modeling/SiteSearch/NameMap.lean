/-!
# Maps keyed by names

A finite map from names to values, held as its entries in rising order of the names. The order is
part of the type, so two maps with the same entries are equal (`ext_get?`), and listing a map always
goes through it in the order of its names.

`get?_insert` and `get?_erase` say what each operation does to the value under every name.
-/
namespace SiteSearch

/-- Entries in strictly rising order of their names. -/
def RisingNames {α : Type} (entries : List (String × α)) : Prop :=
  entries.Pairwise fun a b => a.1 < b.1

instance {α : Type} (entries : List (String × α)) : Decidable (RisingNames entries) :=
  inferInstanceAs (Decidable (entries.Pairwise _))

/-- Puts a value under a name: in place of the one that is there, or where the order asks. -/
def putEntry {α : Type} (name : String) (value : α) : List (String × α) → List (String × α)
  | [] => [(name, value)]
  | (other, held) :: rest =>
    if name < other then (name, value) :: (other, held) :: rest
    else if other < name then (other, held) :: putEntry name value rest
    else (name, value) :: rest

/-- The value under a name. -/
def valueAt? {α : Type} (name : String) : List (String × α) → Option α
  | [] => none
  | (other, held) :: rest => if other = name then some held else valueAt? name rest

section Entries

variable {α : Type}

theorem mem_putEntry {name : String} {value : α} {p : String × α} :
    ∀ {entries : List (String × α)}, p ∈ putEntry name value entries →
      p = (name, value) ∨ p ∈ entries
  | [], h => by simpa [putEntry] using h
  | (other, held) :: rest, h => by
    simp only [putEntry] at h
    split at h
    · simpa using h
    · split at h
      · rcases List.mem_cons.1 h with h | h
        · exact .inr (by simp [h])
        · exact (mem_putEntry h).imp_right (List.mem_cons_of_mem _)
      · rcases List.mem_cons.1 h with h | h
        · exact .inl h
        · exact .inr (List.mem_cons_of_mem _ h)

theorem eq_of_not_lt {a b : String} (h₁ : ¬ a < b) (h₂ : ¬ b < a) : a = b :=
  String.le_antisymm (String.not_lt.1 h₂) (String.not_lt.1 h₁)

/-- A rising list of names is known by its members. -/
theorem eq_of_rising {names others : List String} (h₁ : names.Pairwise (· < ·))
    (h₂ : others.Pairwise (· < ·)) (h : ∀ name, name ∈ names ↔ name ∈ others) : names = others := by
  have hnodup : ∀ l : List String, l.Pairwise (· < ·) → l.Nodup := by
    intro l hl
    refine hl.imp ?_
    rintro x _ hlt rfl
    exact String.lt_irrefl _ hlt
  have hperm : names.Perm others :=
    (List.perm_ext_iff_of_nodup (hnodup _ h₁) (hnodup _ h₂)).2 h
  refine hperm.eq_of_pairwise (fun x y _ _ hxy hyx => ?_) h₁ h₂
  exact absurd (String.lt_trans hxy hyx) (String.lt_irrefl _)

theorem RisingNames.putEntry {name : String} {value : α} :
    ∀ {entries : List (String × α)}, RisingNames entries →
      RisingNames (putEntry name value entries)
  | [], _ => by simp [SiteSearch.putEntry, RisingNames]
  | (other, held) :: rest, h => by
    have hrest : RisingNames rest := List.Pairwise.of_cons h
    have hfirst : ∀ p ∈ rest, other < p.1 := (List.pairwise_cons.1 h).1
    simp only [SiteSearch.putEntry]
    split
    · rename_i hlt
      refine List.pairwise_cons.2 ⟨?_, h⟩
      intro p hp
      rcases List.mem_cons.1 hp with rfl | hp
      · exact hlt
      · exact String.lt_trans hlt (hfirst p hp)
    · split
      · rename_i hgt
        refine List.pairwise_cons.2 ⟨?_, RisingNames.putEntry hrest⟩
        intro p hp
        rcases mem_putEntry hp with rfl | hp
        · exact hgt
        · exact hfirst p hp
      · rename_i hlt hgt
        have heq : name = other := eq_of_not_lt hlt hgt
        exact List.pairwise_cons.2 ⟨by simpa [heq] using hfirst, hrest⟩

theorem RisingNames.filter (p : String × α → Bool) {entries : List (String × α)}
    (h : RisingNames entries) : RisingNames (entries.filter p) :=
  List.Pairwise.filter p h

theorem RisingNames.mapValues {β : Type} (f : String → α → β) {entries : List (String × α)}
    (h : RisingNames entries) : RisingNames (entries.map fun e => (e.1, f e.1 e.2)) :=
  List.pairwise_map.2 h

end Entries

/-- A finite map from names to values. -/
structure NameMap (α : Type) where
  entries : List (String × α)
  rising : RisingNames entries := by decide

namespace NameMap

variable {α β : Type}

/-- The map without entries. -/
def empty : NameMap α := ⟨[], List.Pairwise.nil⟩

instance : EmptyCollection (NameMap α) := ⟨empty⟩
instance : Inhabited (NameMap α) := ⟨empty⟩

/-- The value under a name. -/
def get? (m : NameMap α) (name : String) : Option α :=
  valueAt? name m.entries

/-- Whether there is a value under a name. -/
def contains (m : NameMap α) (name : String) : Bool :=
  (m.get? name).isSome

/-- The map with a value put under a name. -/
def insert (m : NameMap α) (name : String) (value : α) : NameMap α :=
  ⟨putEntry name value m.entries, m.rising.putEntry⟩

/-- The entries for which a test holds. -/
def filter (p : String → α → Bool) (m : NameMap α) : NameMap α :=
  ⟨m.entries.filter fun e => p e.1 e.2, m.rising.filter _⟩

/-- The map without a name. -/
def erase (m : NameMap α) (name : String) : NameMap α :=
  m.filter fun other _ => other != name

/-- Every value replaced by one computed from its name and itself. -/
def mapValues (f : String → α → β) (m : NameMap α) : NameMap β :=
  ⟨m.entries.map fun e => (e.1, f e.1 e.2), m.rising.mapValues f⟩

/-- The value under a name replaced, if there is one. -/
def modify (m : NameMap α) (name : String) (f : α → α) : NameMap α :=
  m.mapValues fun other value => if other = name then f value else value

/-- The names, in rising order. -/
def names (m : NameMap α) : List String :=
  m.entries.map (·.1)

/-- The values, in the order of their names. -/
def values (m : NameMap α) : List α :=
  m.entries.map (·.2)

/-- The number of entries. -/
def size (m : NameMap α) : Nat :=
  m.entries.length

/-- Whether there is no entry. -/
def isEmpty (m : NameMap α) : Bool :=
  m.entries.isEmpty

/-- The map of a list of entries; of two with one name, the later one is kept. -/
def ofList (entries : List (String × α)) : NameMap α :=
  entries.foldl (fun m e => m.insert e.1 e.2) empty

instance [DecidableEq α] : DecidableEq (NameMap α) := fun a b =>
  decidable_of_iff (a.entries = b.entries) ⟨fun h => by cases a; cases b; simp_all, fun h => h ▸ rfl⟩

/-! ## What each operation does to the value under a name -/

theorem valueAt?_eq_none {name : String} :
    ∀ {entries : List (String × α)}, (∀ p ∈ entries, p.1 ≠ name) → valueAt? name entries = none
  | [], _ => rfl
  | (other, held) :: rest, h => by
    have : other ≠ name := h (other, held) (by simp)
    simpa [valueAt?, this] using valueAt?_eq_none fun p hp => h p (List.mem_cons_of_mem _ hp)

theorem valueAt?_putEntry (name other : String) (value : α) :
    ∀ (entries : List (String × α)),
      valueAt? other (putEntry name value entries)
        = if name = other then some value else valueAt? other entries
  | [] => rfl
  | (first, held) :: rest => by
    have ih := valueAt?_putEntry name other value rest
    simp only [putEntry]
    split
    · simp [valueAt?]
    · split
      · rename_i hgt
        by_cases h : first = other
        · have hne : ¬ name = other := fun hn => by
            subst hn; subst h; exact String.lt_irrefl _ hgt
          simp [valueAt?, h, hne]
        · simp [valueAt?, h, ih]
      · rename_i hlt hgt
        have heq : name = first := eq_of_not_lt hlt hgt
        subst heq
        by_cases h : name = other <;> simp [valueAt?, h]

@[simp]
theorem get?_empty (name : String) : (empty : NameMap α).get? name = none := rfl

/-- An inserted value is found under its name; every other name keeps its value. -/
theorem get?_insert (m : NameMap α) (name other : String) (value : α) :
    (m.insert name value).get? other = if name = other then some value else m.get? other :=
  valueAt?_putEntry name other value m.entries

theorem get?_insert_self {m : NameMap α} {name : String} {value : α} :
    (m.insert name value).get? name = some value := by
  rw [get?_insert, if_pos rfl]

theorem get?_insert_ne {m : NameMap α} {name other : String} {value : α} (h : other ≠ name) :
    (m.insert name value).get? other = m.get? other := by
  rw [get?_insert, if_neg (Ne.symm h)]

theorem valueAt?_filter (p : String → α → Bool) (name : String) :
    ∀ {entries : List (String × α)}, RisingNames entries →
      valueAt? name (entries.filter fun e => p e.1 e.2)
        = (valueAt? name entries).filter (p name)
  | [], _ => rfl
  | (other, held) :: rest, h => by
    have ih := valueAt?_filter p name (List.Pairwise.of_cons h)
    have hfirst : ∀ q ∈ rest, other < q.1 := (List.pairwise_cons.1 h).1
    by_cases hname : other = name
    · subst hname
      have hnone : valueAt? other rest = none :=
        valueAt?_eq_none fun q hq heq => String.lt_irrefl _ (heq ▸ hfirst q hq)
      rw [hnone] at ih
      by_cases hp : p other held <;> simp [valueAt?, hp, ih, Option.filter]
    · by_cases hp : p other held <;> simp [valueAt?, hname, hp, ih]

theorem get?_filter (p : String → α → Bool) (m : NameMap α) (name : String) :
    (m.filter p).get? name = (m.get? name).filter (p name) :=
  valueAt?_filter p name m.rising

/-- An erased name has no value; every other name keeps its own. -/
theorem get?_erase (m : NameMap α) (name other : String) :
    (m.erase name).get? other = if name = other then none else m.get? other := by
  rw [erase, get?_filter]
  by_cases h : name = other
  · subst h; cases m.get? name <;> simp [Option.filter]
  · have h' : (other != name) = true := by simpa using fun e => h e.symm
    cases m.get? other <;> simp [Option.filter, h, h']

theorem valueAt?_mapValues (f : String → α → β) (name : String) :
    ∀ (entries : List (String × α)),
      valueAt? name (entries.map fun e => (e.1, f e.1 e.2))
        = (valueAt? name entries).map (f name)
  | [] => rfl
  | (other, held) :: rest => by
    by_cases h : other = name
    · subst h; simp [valueAt?]
    · simp [valueAt?, h, valueAt?_mapValues f name rest]

theorem get?_mapValues (f : String → α → β) (m : NameMap α) (name : String) :
    (m.mapValues f).get? name = (m.get? name).map (f name) :=
  valueAt?_mapValues f name m.entries

theorem get?_modify (m : NameMap α) (name other : String) (f : α → α) :
    (m.modify name f).get? other = if name = other then (m.get? other).map f else m.get? other := by
  rw [modify, get?_mapValues]
  by_cases h : name = other
  · simp [h]
  · have h' : ¬ other = name := fun e => h e.symm
    cases m.get? other <;> simp [h, h']

/-! ## Names that have a value -/

theorem contains_eq_true {m : NameMap α} {name : String} :
    m.contains name = true ↔ ∃ value, m.get? name = some value :=
  Option.isSome_iff_exists

theorem contains_eq_false {m : NameMap α} {name : String} :
    m.contains name = false ↔ m.get? name = none := by
  rw [contains, Option.isSome_eq_false_iff, Option.isNone_iff_eq_none]

theorem contains_insert {m : NameMap α} {name other : String} {value : α} :
    (m.insert name value).contains other = true ↔ name = other ∨ m.contains other = true := by
  rw [contains, get?_insert]
  by_cases h : name = other
  · simp [h]
  · simp [h, contains]

theorem contains_erase {m : NameMap α} {name other : String} :
    (m.erase name).contains other = true ↔ name ≠ other ∧ m.contains other = true := by
  rw [contains, get?_erase]
  by_cases h : name = other
  · simp [h]
  · simp [h, contains]

theorem mem_map_fst_iff {name : String} :
    ∀ {entries : List (String × α)}, name ∈ entries.map (·.1) ↔ (valueAt? name entries).isSome
  | [] => by simp [valueAt?]
  | (other, held) :: rest => by
    have ih : name ∈ rest.map (·.1) ↔ (valueAt? name rest).isSome := mem_map_fst_iff
    by_cases h : other = name
    · simp [valueAt?, h]
    · rw [List.map_cons, List.mem_cons, ih, valueAt?, if_neg h]
      simp [Ne.symm h]

theorem mem_names {m : NameMap α} {name : String} :
    name ∈ m.names ↔ m.contains name = true :=
  mem_map_fst_iff

theorem valueAt?_eq_some {name : String} {value : α} :
    ∀ {entries : List (String × α)}, RisingNames entries →
      (valueAt? name entries = some value ↔ (name, value) ∈ entries)
  | [], _ => by simp [valueAt?]
  | (other, held) :: rest, h => by
    have ih : valueAt? name rest = some value ↔ (name, value) ∈ rest :=
      valueAt?_eq_some (List.Pairwise.of_cons h)
    have hfirst : ∀ q ∈ rest, other < q.1 := (List.pairwise_cons.1 h).1
    by_cases hname : other = name
    · subst hname
      have hnot : (other, value) ∉ rest := fun hmem => String.lt_irrefl _ (hfirst _ hmem)
      simp [valueAt?, hnot, eq_comm]
    · simp [valueAt?, hname, ih, Ne.symm hname]

/-- The entries of a map are what is under its names. -/
theorem mem_entries {m : NameMap α} {name : String} {value : α} :
    (name, value) ∈ m.entries ↔ m.get? name = some value :=
  (valueAt?_eq_some m.rising).symm

/-- The names of a map are listed in rising order. -/
theorem rising_names (m : NameMap α) : m.names.Pairwise (· < ·) :=
  List.pairwise_map.2 m.rising

/-! ## Equality -/

theorem valueAt?_of_lt {name : String} {entries : List (String × α)}
    (h : ∀ p ∈ entries, name < p.1) : valueAt? name entries = none :=
  valueAt?_eq_none fun p hp heq => String.lt_irrefl _ (heq ▸ h p hp)

theorem entries_eq_of_valueAt? :
    ∀ {a b : List (String × α)}, RisingNames a → RisingNames b →
      (∀ name, valueAt? name a = valueAt? name b) → a = b
  | [], [], _, _, _ => rfl
  | [], (name, value) :: _, _, _, h => by simpa [valueAt?] using h name
  | (name, value) :: _, [], _, _, h => by simpa [valueAt?] using h name
  | (n, v) :: a, (n', v') :: b, ha, hb, h => by
    have hna : ∀ p ∈ a, n < p.1 := (List.pairwise_cons.1 ha).1
    have hnb : ∀ p ∈ b, n' < p.1 := (List.pairwise_cons.1 hb).1
    have hnn : n = n' := by
      refine eq_of_not_lt (fun hlt => ?_) (fun hlt => ?_)
      · have hnone : valueAt? n ((n', v') :: b) = none :=
          valueAt?_of_lt fun p hp => by
            rcases List.mem_cons.1 hp with rfl | hp
            · exact hlt
            · exact String.lt_trans hlt (hnb p hp)
        have := h n
        rw [hnone] at this
        simp [valueAt?] at this
      · have hnone : valueAt? n' ((n, v) :: a) = none :=
          valueAt?_of_lt fun p hp => by
            rcases List.mem_cons.1 hp with rfl | hp
            · exact hlt
            · exact String.lt_trans hlt (hna p hp)
        have := h n'
        rw [hnone] at this
        simp [valueAt?] at this
    subst hnn
    have hv : v = v' := by simpa [valueAt?] using h n
    have hrest : a = b := by
      refine entries_eq_of_valueAt? (List.Pairwise.of_cons ha) (List.Pairwise.of_cons hb) fun name => ?_
      by_cases hname : n = name
      · subst hname
        rw [valueAt?_of_lt hna, valueAt?_of_lt hnb]
      · simpa [valueAt?, hname] using h name
    rw [hv, hrest]

/-- Two maps with the same value under every name are the same map. -/
theorem ext_get? {a b : NameMap α} (h : ∀ name, a.get? name = b.get? name) : a = b := by
  have := entries_eq_of_valueAt? a.rising b.rising h
  cases a; cases b; simp_all

/-! ## Writing twice, or what is there -/

theorem insert_insert {m : NameMap α} {name : String} {value value' : α} :
    (m.insert name value).insert name value' = m.insert name value' := by
  refine ext_get? fun other => ?_
  rw [get?_insert, get?_insert, get?_insert]
  split <;> rfl

theorem insert_eq_self {m : NameMap α} {name : String} {value : α} (h : m.get? name = some value) :
    m.insert name value = m := by
  refine ext_get? fun other => ?_
  rw [get?_insert]
  by_cases hname : name = other
  · rw [if_pos hname, ← hname, h]
  · rw [if_neg hname]

theorem erase_eq_self {m : NameMap α} {name : String} (h : m.contains name = false) :
    m.erase name = m := by
  refine ext_get? fun other => ?_
  rw [get?_erase]
  by_cases hname : name = other
  · rw [if_pos hname, ← hname, contains_eq_false.1 h]
  · rw [if_neg hname]

/-- What is put under a name takes the place of what has been there. -/
theorem insert_erase {m : NameMap α} {name : String} {value : α} :
    (m.erase name).insert name value = m.insert name value := by
  refine ext_get? fun other => ?_
  rw [get?_insert, get?_insert, get?_erase]
  split <;> rfl

/-- Values are put under different names in any order. -/
theorem insert_comm {m : NameMap α} {name name' : String} {value value' : α} (h : name ≠ name') :
    (m.insert name value).insert name' value' = (m.insert name' value').insert name value := by
  refine ext_get? fun other => ?_
  rw [get?_insert, get?_insert, get?_insert, get?_insert]
  by_cases hname : name = other
  · rw [if_neg (hname ▸ h.symm), if_pos hname, if_pos hname]
  · rw [if_neg hname, if_neg hname]

end NameMap

end SiteSearch
