import SiteSearch.Proofs.Memory.Look

/-!
# The time of a new generation

A new generation is named after the clock, or after a later time where a generation is as late as
that. So its name is either that of a generation that is there already, which only happens at the end
of time, or it is later than every generation there is (`Store.earlier_of_newName`).
-/

namespace SiteSearch

namespace Timestamp

variable {time other : Timestamp}

theorem toNat_next (h : time.toNat ≠ UInt64.size - 1) : time.next.toNat = time.toNat + 1 := by
  have hne : time ≠ UInt64.ofNat (UInt64.size - 1) := by
    rintro rfl
    exact h rfl
  have hbound : time.toNat < UInt64.size := time.toNat_lt_size
  rw [next, if_neg hne, UInt64.toNat_add]
  refine Nat.mod_eq_of_lt ?_
  show time.toNat + 1 < UInt64.size
  omega

/-- The time after a timestamp is later, but for the last one. -/
theorem lt_next (h : time.next ≠ time) : time < time.next := by
  have hlast : time.toNat ≠ UInt64.size - 1 := by
    intro heq
    have hlast : time = UInt64.ofNat (UInt64.size - 1) := UInt64.toNat_inj.1 (by rw [heq]; rfl)
    exact h (if_pos hlast)
  rw [UInt64.lt_iff_toNat_lt, toNat_next hlast]
  omega

/-- No time is after the one that has none after it. -/
theorem le_of_next_eq (h : time.next = time) : other ≤ time := by
  have hlast : time.toNat = UInt64.size - 1 := Decidable.byContradiction fun hne => by
    have := toNat_next hne
    rw [h] at this
    omega
  have hbound : other.toNat < UInt64.size := other.toNat_lt_size
  rw [UInt64.le_iff_toNat_le, hlast]
  omega

end Timestamp

theorem Timestamp.le_max_left (a b : Timestamp) : a ≤ max a b := by
  show a ≤ if a ≤ b then b else a
  split
  · assumption
  · exact UInt64.le_refl _

theorem Timestamp.le_max_right (a b : Timestamp) : b ≤ max a b := by
  show b ≤ if a ≤ b then b else a
  split
  · exact UInt64.le_refl _
  · rename_i h
    exact UInt64.le_of_lt (UInt64.not_le.1 h)

theorem le_foldl_next {generations : List Generation} {start : Timestamp} :
    start ≤ generations.foldl (fun time generation => max time generation.time.next) start := by
  induction generations generalizing start with
  | nil => exact UInt64.le_refl _
  | cons other rest ih => exact UInt64.le_trans (Timestamp.le_max_left _ _) ih

/-- A new generation is not earlier than the clock. -/
theorem ofClock_le_nextTime {now : Int} {generations : List Generation} :
    Timestamp.ofClock now ≤ nextTime now generations :=
  le_foldl_next

/-- A new generation is later than those there are. -/
theorem next_le_nextTime {now : Int} {generations : List Generation} {g : Generation}
    (hg : g ∈ generations) : g.time.next ≤ nextTime now generations := by
  have hall : ∀ {generations : List Generation} {start : Timestamp}, g ∈ generations →
      g.time.next ≤ generations.foldl (fun time generation => max time generation.time.next) start := by
    intro generations
    induction generations with
    | nil => simp
    | cons other rest ih =>
      intro start hg
      rcases List.mem_cons.1 hg with rfl | hg
      · exact UInt64.le_trans (Timestamp.le_max_right _ _) le_foldl_next
      · exact ih hg
  exact hall hg

/-- An index is an earlier generation under an alias than another one. -/
def EarlierUnder (aliasName index other : String) : Prop :=
  ∀ time time', generationTimeUnder? aliasName index = some time →
    generationTimeUnder? aliasName other = some time' → time < time'

/-- An index has not been made at the end of time, as a generation under an alias. -/
def HasLater (aliasName index : String) : Prop :=
  ∀ time, generationTimeUnder? aliasName index = some time → time.next ≠ time

namespace Store

variable {store : Store} {service : Service} {key : CollectionKey} {found : List IndexDescription}
  {i : String} {time : Timestamp}

/-- The time of a new generation is behind that of each generation that is described. -/
theorem next_le_of_described
    (hfound : store.describe (service.indexNames.generationPattern key) = .ok found)
    (hi : store.contains i = true)
    (htime : generationTimeUnder? (service.aliasName key) i = some time) :
    time.next ≤ nextTime service.now (generationsAmong service.indexNames key found) := by
  obtain ⟨held, hget⟩ := NameMap.contains_eq_true.1 hi
  have hindex := describes_generation hfound hget (Option.isSome_iff_exists.2 ⟨time, htime⟩)
  have hmem : (⟨i, time, _⟩ : Generation) ∈ generationsAmong service.indexNames key found :=
    mem_generationsAmong.2 ⟨_, hindex, time, htime, rfl⟩
  exact next_le_nextTime hmem

/-- The generations there are were made before a new one, or else one of them has its name. -/
theorem earlier_of_newName
    (hfound : store.describe (service.indexNames.generationPattern key) = .ok found)
    (hi : store.contains i = true)
    (hname : ∀ time, generationTimeUnder? (service.aliasName key) i = some time →
      i = service.indexNames.generationName key time)
    (hnew : store.contains (service.newName key found) = false) :
    EarlierUnder (service.aliasName key) i (service.newName key found) := by
  intro time time' htime htime'
  have hle := next_le_of_described hfound hi htime
  have hlast : some time' = some (nextTime service.now (generationsAmong service.indexNames key found)) :=
    htime'.symm.trans (IndexNames.generationTime?_generationName _)
  rw [← Option.some.inj hlast] at hle
  by_cases hnext : time.next = time
  · have heq : time = time' := UInt64.le_antisymm (hnext ▸ hle) (Timestamp.le_of_next_eq hnext)
    have hsame : i = service.newName key found := by
      rw [hname time htime, heq, Option.some.inj hlast]
      rfl
    rw [← hsame, hi] at hnew
    cases hnew
  · exact UInt64.lt_of_lt_of_le (Timestamp.lt_next hnext) hle

/-- A new generation has a name of its own, unless one has been made at the end of time. -/
theorem contains_newName
    (hfound : store.describe (service.indexNames.generationPattern key) = .ok found)
    (htimely : ∀ i, store.contains i = true → HasLater (service.aliasName key) i) :
    store.contains (service.newName key found) = false := by
  refine Bool.eq_false_iff.2 fun hi => ?_
  have htime : generationTimeUnder? (service.aliasName key) (service.newName key found) =
      some (nextTime service.now (generationsAmong service.indexNames key found)) :=
    IndexNames.generationTime?_generationName _
  have hlt := Timestamp.lt_next (htimely _ hi _ htime)
  exact absurd (UInt64.lt_of_lt_of_le hlt (next_le_of_described hfound hi htime))
    (UInt64.lt_irrefl _)

end Store

end SiteSearch
