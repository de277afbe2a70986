import SiteSearch.Field.Mapping

/-!
# Signatures as sets

A signature is known by its names, and a search by halves finds exactly these
(`Signature.contains_iff`). What changes from one signature to a second one are the differences of the two
sets (`Signature.differences_exact`), and it tells the first where the second is known
(`Signature.diff_inj`). The signature of properties has the names of their fields, and the properties that
a mapping is written as have the signature of the mapping.
-/

namespace SiteSearch

namespace Signature

variable {s other desired : Signature} {name : String} {names : List String}

theorem eq_of_mem_iff (h : ∀ name, name ∈ s.names ↔ name ∈ other.names) : s = other := by
  have hnames := eq_of_rising s.rising other.rising h
  cases s
  cases other
  simp_all

theorem mem_ofNames : name ∈ (ofNames names).names ↔ name ∈ names := by
  have hfold : ∀ {s : Signature},
      name ∈ (names.foldl insert s).names ↔ name ∈ s.names ∨ name ∈ names := by
    induction names with
    | nil => simp
    | cons first rest ih =>
      intro s
      rw [List.foldl_cons, ih, insert, mem_putName, List.mem_cons, or_assoc]
      exact or_left_comm
  rw [ofNames, hfold]
  simp [empty]

/-! ## Searching by halves -/

/-- In a rising list a name stands on its own side of another one. -/
theorem mem_halves {left right : List String} {found : String}
    (h : (left ++ found :: right).Pairwise (· < ·)) :
    (name < found → (name ∈ left ++ found :: right ↔ name ∈ left)) ∧
      (found < name → (name ∈ left ++ found :: right ↔ name ∈ right)) := by
  obtain ⟨-, hright, hleft⟩ := List.pairwise_append.1 h
  have hafter : ∀ x ∈ right, found < x := (List.pairwise_cons.1 hright).1
  have hirrefl : ∀ {x : String}, ¬ x < x := fun {x} => String.lt_irrefl x
  simp only [List.mem_append, List.mem_cons]
  constructor
  · intro hlt
    refine ⟨?_, .inl⟩
    rintro (hmem | rfl | hmem)
    · exact hmem
    · exact absurd hlt hirrefl
    · exact absurd (String.lt_trans hlt (hafter name hmem)) hirrefl
  · intro hlt
    refine ⟨?_, fun hmem => .inr (.inr hmem)⟩
    rintro (hmem | rfl | hmem)
    · exact absurd (String.lt_trans hlt (hleft name hmem found List.mem_cons_self)) hirrefl
    · exact absurd hlt hirrefl
    · exact hmem

theorem searchHalves_iff (h : names.Pairwise (· < ·)) :
    searchHalves name names = true ↔ name ∈ names := by
  have hsplit : ∀ {names : List String} {i : Nat} {found : String}, names[i]? = some found →
      names.take i ++ found :: names.drop (i + 1) = names := by
    intro names i found hfound
    obtain ⟨hi, rfl⟩ := List.getElem?_eq_some_iff.1 hfound
    rw [← List.drop_eq_getElem_cons hi, List.take_append_drop]
  fun_induction searchHalves name names with
  | case1 names hnone =>
    have hempty : names.length ≤ names.length / 2 := List.getElem?_eq_none_iff.1 hnone
    have hnil : names = [] := List.length_eq_zero_iff.1 (by omega)
    simp [hnil]
  | case2 names found hfound _ hlt ih =>
    refine (ih (h.sublist (List.take_sublist _ _))).trans ?_
    rw [← hsplit hfound] at h
    have hside := (mem_halves h).1 hlt
    rw [hsplit hfound] at hside
    exact hside.symm
  | case3 names found hfound _ _ hlt ih =>
    refine (ih (h.sublist (List.drop_sublist _ _))).trans ?_
    rw [← hsplit hfound] at h
    have hside := (mem_halves h).2 hlt
    rw [hsplit hfound] at hside
    exact hside.symm
  | case4 names found hfound _ h₁ h₂ =>
    rw [eq_of_not_lt h₁ h₂]
    exact iff_of_true rfl (List.mem_of_getElem? hfound)

theorem contains_iff : s.contains name = true ↔ name ∈ s.names :=
  searchHalves_iff s.rising

/-! ## Differences -/

theorem removed_eq : (s.diff desired).removed = s.names.filter (· ∉ desired.names) :=
  List.filter_congr fun name _ => by
    rw [Bool.eq_iff_iff, Bool.not_eq_true', Bool.eq_false_iff, ne_eq, contains_iff, decide_eq_true_iff]

theorem added_eq : (s.diff desired).added = desired.names.filter (· ∉ s.names) := by
  show (desired.diff s).removed = _
  exact removed_eq

theorem mem_removed : name ∈ (s.diff desired).removed ↔ name ∈ s.names ∧ name ∉ desired.names := by
  rw [removed_eq, List.mem_filter, decide_eq_true_iff]

theorem mem_added : name ∈ (s.diff desired).added ↔ name ∈ desired.names ∧ name ∉ s.names := by
  rw [added_eq, List.mem_filter, decide_eq_true_iff]

/-- What changes to a signature tells what it changes from. -/
theorem diff_inj (h : s.diff desired = other.diff desired) : s = other := by
  refine eq_of_mem_iff fun name => ?_
  have hremoved : name ∈ (s.diff desired).removed ↔ name ∈ s.names ∧ name ∉ desired.names :=
    mem_removed
  have hadded : name ∈ (s.diff desired).added ↔ name ∈ desired.names ∧ name ∉ s.names := mem_added
  rw [h, mem_removed] at hremoved
  rw [h, mem_added] at hadded
  by_cases hname : name ∈ desired.names
  · simp only [hname, true_and] at hadded
    exact Decidable.not_iff_not.1 hadded.symm
  · simp only [hname, not_false_eq_true, and_true] at hremoved
    exact hremoved.symm

theorem requiresReindex_eq_false :
    (s.diff desired).requiresReindex = false ↔ ∀ name ∈ s.names, name ∈ desired.names := by
  rw [SignatureDiff.requiresReindex, Bool.not_eq_false', List.isEmpty_iff, List.eq_nil_iff_forall_not_mem]
  simp only [mem_removed, not_and, Decidable.not_not]

/-- Nothing changes between signatures that are the same, and only between these. -/
theorem isEmpty_diff : (s.diff desired).isEmpty = true ↔ s = desired := by
  rw [SignatureDiff.isEmpty, Bool.and_eq_true, List.isEmpty_iff, List.isEmpty_iff,
    List.eq_nil_iff_forall_not_mem, List.eq_nil_iff_forall_not_mem]
  simp only [mem_added, mem_removed, not_and, Decidable.not_not]
  constructor
  · rintro ⟨hadded, hremoved⟩
    exact eq_of_mem_iff fun name => ⟨hremoved name, hadded name⟩
  · rintro rfl
    exact ⟨fun _ => id, fun _ => id⟩

theorem rising_removed : (s.diff desired).removed.Pairwise (· < ·) :=
  s.rising.filter _

theorem rising_added : (s.diff desired).added.Pairwise (· < ·) :=
  desired.rising.filter _

theorem ofNames_eq_iff {others : List String} :
    ofNames names = ofNames others ↔ ∀ name, name ∈ names ↔ name ∈ others := by
  constructor
  · intro h name
    rw [← mem_ofNames, h, mem_ofNames]
  · intro h
    refine eq_of_mem_iff fun name => ?_
    rw [mem_ofNames, mem_ofNames]
    exact h name

/-- A signature with the removed names of a difference taken out and the added ones put in. -/
def apply (s : Signature) (diff : SignatureDiff) : Signature :=
  ofNames (s.names.filter (· ∉ diff.removed) ++ diff.added)

theorem apply_diff : s.apply (s.diff desired) = desired := by
  refine eq_of_mem_iff fun name => ?_
  rw [apply, mem_ofNames, List.mem_append, List.mem_filter, decide_eq_true_iff, mem_removed, mem_added]
  by_cases hname : name ∈ s.names
  · simp [hname]
  · simp [hname]

/-- **Differences of signatures are differences of sets.** For the signatures of any two lists of names,
whatever their order and their repetitions: a search finds exactly the names of the list; what is added and
what is removed are the differences of the two lists as sets, each in strictly rising order; to take out
what is removed and to put in what is added leads from the one signature to the other; and there is no
difference exactly where the signatures are the same, which they are exactly where the lists have the same
members. -/
theorem differences_exact (names others : List String) :
    let current := ofNames names
    let desired := ofNames others
    let diff := current.diff desired
    (∀ name, current.contains name = true ↔ name ∈ names) ∧
      (diff.added.Pairwise (· < ·) ∧ ∀ name, name ∈ diff.added ↔ name ∈ others ∧ name ∉ names) ∧
      (diff.removed.Pairwise (· < ·) ∧ ∀ name, name ∈ diff.removed ↔ name ∈ names ∧ name ∉ others) ∧
      current.apply diff = desired ∧
      (diff.isEmpty = true ↔ current = desired) ∧
      (current = desired ↔ ∀ name, name ∈ names ↔ name ∈ others) := by
  intro current desired diff
  refine ⟨fun name => contains_iff.trans mem_ofNames, ⟨rising_added, fun name => ?_⟩,
    ⟨rising_removed, fun name => ?_⟩, apply_diff, isEmpty_diff, ofNames_eq_iff⟩
  · rw [mem_added, mem_ofNames, mem_ofNames]
  · rw [mem_removed, mem_ofNames, mem_ofNames]

/-- Repetitions and order do not count, capitals come before small letters. -/
example : (ofNames ["b", "a", "b", "Z"]).diff (ofNames ["c", "a", "C"]) = ⟨["C", "c"], ["Z", "b"]⟩ := by
  decide +kernel

/-! ## Properties -/

theorem mem_ofProperties_ofMap {properties : NameMap Json} :
    name ∈ (ofProperties (.ofMap properties)).names ↔ properties.contains name = true := by
  rw [ofProperties, Json.ofMap, Json.object?, mem_ofNames]
  exact NameMap.mem_names

end Signature

namespace NameMap

variable {α : Type} {name : String}

/-- Entries that are put over those of a map add their names to it. -/
theorem contains_foldl_insert {entries : List (String × α)} {m : NameMap α} :
    (entries.foldl (fun m e => m.insert e.1 e.2) m).contains name = true ↔
      m.contains name = true ∨ name ∈ entries.map (·.1) := by
  induction entries generalizing m with
  | nil => simp
  | cons first rest ih =>
    rw [List.foldl_cons, ih, contains_insert, List.map_cons, List.mem_cons, or_assoc,
      eq_comm (a := first.1)]
    exact or_left_comm

theorem contains_ofList {entries : List (String × α)} :
    (ofList entries).contains name = true ↔ name ∈ entries.map (·.1) := by
  rw [ofList, contains_foldl_insert]
  simp [contains, get?_empty]

end NameMap

namespace Mapping

variable {mapping : Mapping} {name : String}

theorem mem_signature : name ∈ mapping.signature.names ↔ name ∈ mapping.names :=
  Signature.mem_ofNames

end Mapping

end SiteSearch
