import SiteSearch.Proofs.Memory.Look

/-!
# The order of generations

The name of a generation says of which alias it is and when it was made, whatever underscores and
digits the alias has (`IndexNames.generationName_decodes`).

Two readers put generations into an order. A list of them is sorted by the time that is read from the
name under the alias; behind an alias the newest index is found by the number behind the last underscore
of a name, of whatever index it is. On generations of one alias they agree, since no digit is an
underscore (`isOlderIndex_iff`): both put the older one first, and the one whose name comes first where
they are equally old, as generations written with leading zeros can be (`PrecedesUnder`). So of some
generations in that order the last one is the newest (`newestIndex?_eq_getLast`).
-/

namespace SiteSearch

/-! ## What a name says -/

/-- The name of a generation tells its time under its own alias and nothing under any other one, and
the pattern of its collection covers it. -/
theorem IndexNames.generationName_decodes (names : IndexNames) (key other : CollectionKey)
    (time : Timestamp) :
    names.generationTime? key (names.generationName key time) = some time ∧
    names.generationTime? key (names.generationName other time) =
      (if names.aliasName key = names.aliasName other then some time else none) ∧
    (names.generationPattern key).toList.getLast? = some '*' ∧
    Store.patternCovers (names.generationPattern key) (names.generationName key time) = true := by
  refine ⟨generationTime?_generationName time, ?_, getLast?_generationPattern,
    covers_of_isGeneration (isGeneration_generationName time)⟩
  rw [generationTime?_eq]
  split
  · rename_i halias
    rw [halias, ← generationTime?_eq, generationTime?_generationName]
  · rename_i halias
    rw [← Option.not_isSome_iff_eq_none]
    intro hgeneration
    have hother : IsGeneration (names.aliasName other) (names.generationName other time) :=
      isGeneration_generationName time
    exact halias (IsGeneration.unique hgeneration hother)

/-! ## Precedence -/

/-- Of two generations under an alias the first one is older, or it is as old and its name comes
first. -/
def PrecedesUnder (aliasName index other : String) : Prop :=
  ∃ time time', generationTimeUnder? aliasName index = some time ∧
    generationTimeUnder? aliasName other = some time' ∧
    (time < time' ∨ time = time' ∧ index < other)

namespace PrecedesUnder

variable {a i j k : String}

theorem trans (hij : PrecedesUnder a i j) (hjk : PrecedesUnder a j k) : PrecedesUnder a i k := by
  obtain ⟨time, time', hi, hj, hlt⟩ := hij
  obtain ⟨time₁, time'', hj', hk, hlt'⟩ := hjk
  obtain rfl := Option.some.inj (hj.symm.trans hj')
  refine ⟨time, time'', hi, hk, ?_⟩
  rcases hlt with hlt | ⟨rfl, hlt⟩ <;> rcases hlt' with hlt' | ⟨rfl, hlt'⟩
  · exact .inl (UInt64.lt_trans hlt hlt')
  · exact .inl hlt
  · exact .inl hlt'
  · exact .inr ⟨rfl, String.lt_trans hlt hlt'⟩

theorem irrefl : ¬ PrecedesUnder a i i := by
  rintro ⟨time, time', h, h', hlt⟩
  obtain rfl := Option.some.inj (h.symm.trans h')
  rcases hlt with hlt | ⟨-, hlt⟩
  · exact UInt64.lt_irrefl _ hlt
  · exact String.lt_irrefl _ hlt

theorem asymm (hij : PrecedesUnder a i j) (hji : PrecedesUnder a j i) : False :=
  irrefl (hij.trans hji)

/-- Of two generations one precedes the other. -/
theorem total (hi : IsGeneration a i) (hj : IsGeneration a j) :
    i = j ∨ PrecedesUnder a i j ∨ PrecedesUnder a j i := by
  obtain ⟨time, htime⟩ := Option.isSome_iff_exists.1 hi
  obtain ⟨time', htime'⟩ := Option.isSome_iff_exists.1 hj
  by_cases hlt : time < time'
  · exact .inr (.inl ⟨_, _, htime, htime', .inl hlt⟩)
  by_cases hgt : time' < time
  · exact .inr (.inr ⟨_, _, htime', htime, .inl hgt⟩)
  obtain rfl := UInt64.le_antisymm (UInt64.not_lt.1 hgt) (UInt64.not_lt.1 hlt)
  by_cases hname : i < j
  · exact .inr (.inl ⟨_, _, htime, htime', .inr ⟨rfl, hname⟩⟩)
  by_cases hname' : j < i
  · exact .inr (.inr ⟨_, _, htime', htime, .inr ⟨rfl, hname'⟩⟩)
  exact .inl (eq_of_not_lt hname hname')

end PrecedesUnder

/-- Of the generations of one time the one that is named without leading zeros comes last, unless it is
the time zero. -/
theorem precedes_of_leadingZeros {aliasName index : String} {time : Timestamp}
    (h : generationTimeUnder? aliasName index = some time) (htime : time ≠ 0)
    (hne : index ≠ aliasName ++ "_" ++ Text.writeWord time) :
    PrecedesUnder aliasName index (aliasName ++ "_" ++ Text.writeWord time) := by
  obtain ⟨digits, htext, hword⟩ := generationTimeUnder?_eq_some.1 h
  have hname : (aliasName ++ "_" ++ Text.writeWord time).toList =
      aliasName.toList ++ '_' :: Text.decimal time.toNat := by
    simp [Text.writeWord]
  refine ⟨time, time, h, generationTimeUnder?_append, .inr ⟨rfl, ?_⟩⟩
  rw [String.lt_iff, htext, hname]
  refine List.append_left_lt (List.cons_lt_cons_iff.2 (.inr ⟨rfl, ?_⟩))
  refine Text.lt_decimal_of_digitsWord? hword htime fun heq => hne (String.toList_inj.1 ?_)
  rw [htext, hname, heq]

/-! ## By the number behind the last underscore -/

/-- The number behind the last underscore of a generation is its time. -/
theorem trailingNumber_of_generation {aliasName index : String} {time : Timestamp}
    (h : generationTimeUnder? aliasName index = some time) : trailingNumber index = time := by
  obtain ⟨digits, htext, hword⟩ := generationTimeUnder?_eq_some.1 h
  have hseparator : ∀ c ∈ digits.reverse, (c != '_') = true := by
    intro c hc
    rw [bne_iff_ne]
    rintro rfl
    exact Text.separator_notMem_of_digitsWord? hword (List.mem_reverse.1 hc)
  have hbackwards : index.toList.reverse = digits.reverse ++ '_' :: aliasName.toList.reverse := by
    simp [htext]
  have hlast : (index.toList.reverse.takeWhile (· != '_')).reverse = digits := by
    rw [hbackwards, List.takeWhile_append_of_pos hseparator]
    simp
  rw [trailingNumber, hlast, Text.readWord?_of_digits hword, if_pos (by simp [hbackwards])]
  rfl

/-- Of two generations under one alias, the one that comes before the other by its trailing number does
so by its time. -/
theorem isOlderIndex_iff {aliasName index other : String} (hindex : IsGeneration aliasName index)
    (hother : IsGeneration aliasName other) :
    isOlderIndex index other = true ↔ PrecedesUnder aliasName index other := by
  obtain ⟨time, htime⟩ := Option.isSome_iff_exists.1 hindex
  obtain ⟨time', htime'⟩ := Option.isSome_iff_exists.1 hother
  rw [isOlderIndex, trailingNumber_of_generation htime, trailingNumber_of_generation htime']
  simp only [Bool.or_eq_true, Bool.and_eq_true, decide_eq_true_eq]
  refine ⟨fun hlt => ⟨_, _, htime, htime', hlt⟩, ?_⟩
  rintro ⟨_, _, h, h', hlt⟩
  rwa [Option.some.inj (htime.symm.trans h), Option.some.inj (htime'.symm.trans h')]

/-- Where all indexes behind an alias are generations of it, each of them is the newest one or precedes
it. -/
theorem precedes_newestIndex? {aliasName newest index : String} :
    ∀ {indexes : List String}, (∀ i ∈ indexes, IsGeneration aliasName i) →
      newestIndex? indexes = some newest → index ∈ indexes →
      index = newest ∨ PrecedesUnder aliasName index newest
  | first :: rest, hall, h, hindex => by
    obtain ⟨hfirst, hall⟩ := List.forall_mem_cons.1 hall
    unfold newestIndex? at h
    cases hrest : newestIndex? rest with
    | none =>
      have hnil : rest = [] := Decidable.byContradiction fun hne => by
        obtain ⟨other, hother⟩ := exists_newestIndex? hne
        cases hrest.symm.trans hother
      rw [hrest] at h
      rw [hnil] at hindex
      exact .inl ((List.mem_singleton.1 hindex).trans (Option.some.inj h))
    | some other =>
      rw [hrest] at h
      have hother := hall other (mem_of_newestIndex? hrest)
      obtain rfl := Option.some.inj h
      rcases List.mem_cons.1 hindex with rfl | hindex
      · split
        · exact .inl rfl
        · rename_i holder
          rw [isOlderIndex_iff hother hfirst] at holder
          rcases PrecedesUnder.total hfirst hother with heq | hlt | hgt
          · exact .inl heq
          · exact .inr hlt
          · exact absurd hgt holder
      · have hle := precedes_newestIndex? hall hrest hindex
        split
        · rename_i holder
          have hlt := (isOlderIndex_iff hother hfirst).1 holder
          rcases hle with rfl | hle
          · exact .inr hlt
          · exact .inr (hle.trans hlt)
        · exact hle

/-- Of all generations behind an alias in their order, the last one is the newest. -/
theorem newestIndex?_eq_getLast? {aliasName : String} {indexes ordered : List String}
    (hall : ∀ i ∈ indexes, IsGeneration aliasName i) (hordered : ordered.Pairwise (PrecedesUnder aliasName))
    (hmem : ∀ i, i ∈ ordered ↔ i ∈ indexes) : newestIndex? indexes = ordered.getLast? := by
  rcases List.eq_nil_or_concat ordered with rfl | ⟨first, last, rfl⟩
  · have hnil : indexes = [] := List.eq_nil_iff_forall_not_mem.2 fun i hi => by
      simpa using (hmem i).2 hi
    rw [hnil]
    rfl
  rw [List.concat_eq_append] at hordered hmem ⊢
  have hlast : last ∈ indexes := (hmem last).1 (by simp)
  obtain ⟨newest, hnewest⟩ := exists_newestIndex? (List.ne_nil_of_mem hlast)
  rw [hnewest, List.getLast?_concat]
  have hnewest' := (hmem newest).2 (mem_of_newestIndex? hnewest)
  rcases List.mem_append.1 hnewest' with hfirst | heq
  · have hbefore := (List.pairwise_append.1 hordered).2.2 newest hfirst last List.mem_cons_self
    rcases precedes_newestIndex? hall hnewest hlast with heq | hbehind
    · rw [heq]
    · exact (hbefore.asymm hbehind).elim
  · rw [List.mem_singleton.1 heq]

/-! ## Lists of generations -/

namespace Generation

variable {g other third : Generation}

theorem notAfter_iff :
    g.notAfter other = true ↔ g.time < other.time ∨ g.time = other.time ∧ g.name ≤ other.name := by
  simp [notAfter]

theorem notAfter_total (h : ¬ g.notAfter other = true) : other.notAfter g = true := by
  rw [notAfter_iff, not_or] at h
  obtain ⟨hle, hname⟩ := h
  rw [notAfter_iff]
  rcases UInt64.lt_or_eq_of_le (UInt64.not_lt.1 hle) with hlt | heq
  · exact .inl hlt
  · exact .inr ⟨heq, (String.le_total g.name other.name).resolve_left fun h => hname ⟨heq.symm, h⟩⟩

theorem notAfter_trans (h : g.notAfter other = true) (h' : other.notAfter third = true) :
    g.notAfter third = true := by
  rw [notAfter_iff] at *
  rcases h with hlt | ⟨heq, hle⟩ <;> rcases h' with hlt' | ⟨heq', hle'⟩
  · exact .inl (UInt64.lt_trans hlt hlt')
  · exact .inl (heq' ▸ hlt)
  · exact .inl (heq ▸ hlt')
  · exact .inr ⟨heq.trans heq', String.le_trans hle hle'⟩

/-- Generations stay in their order where another one is put among them. -/
theorem pairwise_putAmong : ∀ {others : List Generation},
    others.Pairwise (fun g h => g.notAfter h = true) →
      (g.putAmong others).Pairwise fun g h => g.notAfter h = true
  | [], _ => List.pairwise_singleton _ _
  | other :: rest, h => by
    obtain ⟨hfirst, hrest⟩ := List.pairwise_cons.1 h
    unfold putAmong
    split
    · rename_i hbefore
      refine .cons (fun h hh => ?_) h
      rcases List.mem_cons.1 hh with rfl | hh
      · exact hbefore
      · exact notAfter_trans hbefore (hfirst h hh)
    · rename_i hbehind
      refine .cons (fun h hh => ?_) (pairwise_putAmong hrest)
      rcases List.mem_cons.1 ((putAmong_perm g rest).mem_iff.1 hh) with rfl | hh
      · exact notAfter_total hbehind
      · exact hfirst h hh

theorem pairwise_foldr_putAmong : ∀ {generations : List Generation},
    (generations.foldr putAmong []).Pairwise fun g h => g.notAfter h = true
  | [] => .nil
  | _ :: _ => pairwise_putAmong pairwise_foldr_putAmong

end Generation

section

variable {names : IndexNames} {key : CollectionKey} {found : List IndexDescription} {store : Store}

/-- A look at the generations of a collection lists those that there are, and as bound the ones that
carry its alias. -/
theorem mem_generationsAmong_described {g : Generation}
    (h : store.describe (names.generationPattern key) = .ok found) :
    g ∈ generationsAmong names key found ↔
      store.contains g.name = true ∧ names.generationTime? key g.name = some g.time ∧
        (g.bound = true ↔ store.Carries g.name (names.aliasName key)) := by
  have hbound : ∀ {i : String} {held : StoredIndex}, store.get? i = some held →
      (held.aliases.names.contains (names.aliasName key) = true ↔
        store.Carries i (names.aliasName key)) := by
    intro i held hget
    rw [List.contains_iff_mem, NameMap.mem_names, Store.carries_iff hget]
  rw [mem_generationsAmong]
  constructor
  · rintro ⟨⟨i, aliases⟩, hindex, time, htime, rfl⟩
    obtain ⟨indexes, rfl, -⟩ := Store.describe_eq_ok.1 h
    obtain ⟨-, held, hget, rfl⟩ := Store.mem_described.1 hindex
    exact ⟨NameMap.contains_eq_true.2 ⟨held, hget⟩, htime, hbound hget⟩
  · rintro ⟨hcontains, htime, hcarries⟩
    obtain ⟨held, hget⟩ := NameMap.contains_eq_true.1 hcontains
    refine ⟨_, Store.describes_generation h hget (Option.isSome_iff_exists.2 ⟨_, htime⟩), _, htime, ?_⟩
    rw [show held.aliases.names.contains (names.aliasName key) = g.bound from
      Bool.eq_iff_iff.2 ((hbound hget).trans hcarries.symm)]

/-- A look at the generations of a collection lists none of them twice. -/
theorem nodup_generationsAmong (h : store.describe (names.generationPattern key) = .ok found) :
    ((generationsAmong names key found).map (·.name)).Nodup := by
  obtain ⟨indexes, rfl, hindexes⟩ := Store.describe_eq_ok.1 h
  rw [if_pos getLast?_generationPattern] at hindexes
  have hnames : indexes.Nodup := by
    rw [hindexes]
    refine List.Pairwise.filter _ ((NameMap.rising_names store).imp ?_)
    rintro i _ hlt rfl
    exact String.lt_irrefl i hlt
  have hfound : (store.described indexes).Pairwise fun x y => x.name ≠ y.name := by
    refine List.pairwise_filterMap.2 (hnames.imp ?_)
    intro i j hne x hx y hy
    obtain ⟨_, -, rfl⟩ := Option.map_eq_some_iff.1 hx
    obtain ⟨_, -, rfl⟩ := Option.map_eq_some_iff.1 hy
    exact hne
  refine ((Generation.foldr_putAmong_perm _).map _).nodup_iff.2 ?_
  rw [List.Nodup, List.pairwise_map]
  refine List.pairwise_filterMap.2 (hfound.imp ?_)
  intro x y hne g hg g' hg'
  obtain ⟨_, -, rfl⟩ := Option.map_eq_some_iff.1 hg
  obtain ⟨_, -, rfl⟩ := Option.map_eq_some_iff.1 hg'
  exact hne

/-- The generations of a collection are listed in their order. -/
theorem pairwise_generationsAmong (h : store.describe (names.generationPattern key) = .ok found) :
    (generationsAmong names key found).Pairwise fun g g' =>
      PrecedesUnder (names.aliasName key) g.name g'.name := by
  have hsorted : (generationsAmong names key found).Pairwise fun g g' => g.notAfter g' = true :=
    Generation.pairwise_foldr_putAmong
  have hnames := List.pairwise_map.1 (nodup_generationsAmong h)
  have htime : ∀ g ∈ generationsAmong names key found,
      generationTimeUnder? (names.aliasName key) g.name = some g.time :=
    fun g hg => ((mem_generationsAmong_described h).1 hg).2.1
  refine (hsorted.and hnames).imp_of_mem ?_
  rintro g g' hg hg' ⟨hle, hne⟩
  refine ⟨g.time, g'.time, htime g hg, htime g' hg', ?_⟩
  refine (Generation.notAfter_iff.1 hle).imp_right fun ⟨heq, hname⟩ => ?_
  exact ⟨heq, Std.lt_of_le_of_ne hname hne⟩

end

end SiteSearch
