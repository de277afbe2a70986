import SiteSearch.Proofs.Alias.NextTime
import SiteSearch.Proofs.Collection.Precedence
import SiteSearch.Proofs.Migration.Binding
import SiteSearch.Proofs.Migration.Succession

/-!
# The newest generation

A generation that is made is named after a look at those that there are, and no other index is made in
that run (`Succession.Goes.leads`). So it comes behind all of them: its time is later, or else both are
made at the end of time, and then its name, which has no leading zeros, is the last one
(`Store.precedes_newName`). Where even that name has been given away the engine refuses to make it again.

Both readers go by this order: of the generations that are listed as bound the last one is the newest
index behind the alias (`Store.newestIndex?_carriers`), and behind a move it is the one that the move has
made (`Operation.Runs.newest_moved`).
-/

namespace SiteSearch

/-- The last second that can be written in a name. -/
def Timestamp.last : Timestamp := 18446744073709551615

namespace Timestamp

theorem next_eq_iff {time : Timestamp} : time.next = time ↔ time = last := by
  constructor
  · intro h
    refine UInt64.le_antisymm ?_ (le_of_next_eq h)
    rw [UInt64.le_iff_toNat_le]
    exact Nat.le_of_lt_succ time.toNat_lt
  · rintro rfl
    rfl

theorem le_last {time : Timestamp} : time ≤ last :=
  le_of_next_eq (next_eq_iff.2 rfl)

/-- The clock is not later than its timestamp, as far as timestamps go. -/
theorem min_le_ofClock {now : Int} : min now last.toNat ≤ ((ofClock now).toNat : Int) := by
  have hlast : last.toNat = 18446744073709551615 := rfl
  have hsize : UInt64.size = 18446744073709551616 := rfl
  have hclock : (ofClock now).toNat = min now.toNat 18446744073709551615 :=
    UInt64.toNat_ofNat_of_lt' (by omega)
  omega

end Timestamp

/-! ## What a new generation comes behind -/

namespace Store

variable {store store' : Store} {service : Service} {key : CollectionKey}
  {found : List IndexDescription} {i : String} {c : EngineCall}

/-- A generation that there is precedes a new one. -/
theorem precedes_newName
    (hfound : store.describe (service.indexNames.generationPattern key) = .ok found)
    (hi : store.contains i = true) (hgeneration : IsGeneration (service.aliasName key) i)
    (hnew : store.contains (service.newName key found) = false) :
    PrecedesUnder (service.aliasName key) i (service.newName key found) := by
  obtain ⟨time, htime⟩ := Option.isSome_iff_exists.1 hgeneration
  have hle := next_le_of_described hfound hi htime
  have hnewTime : generationTimeUnder? (service.aliasName key) (service.newName key found) =
      some (nextTime service.now (generationsAmong service.indexNames key found)) :=
    IndexNames.generationTime?_generationName _
  by_cases hlast : time.next = time
  · -- both are made at the end of time, and the new one is named without leading zeros
    have heq : nextTime service.now (generationsAmong service.indexNames key found) = time :=
      UInt64.le_antisymm (Timestamp.le_of_next_eq hlast) (hlast ▸ hle)
    have hname : service.newName key found = service.aliasName key ++ "_" ++ Text.writeWord time := by
      rw [Service.newName, heq]
      rfl
    have hpos : time ≠ 0 := by
      rw [Timestamp.next_eq_iff.1 hlast]
      decide
    rw [hname] at hnew ⊢
    refine precedes_of_leadingZeros htime hpos ?_
    rintro rfl
    rw [hi] at hnew
    cases hnew
  · exact ⟨time, _, htime, hnewTime, .inl (UInt64.lt_of_lt_of_le (Timestamp.lt_next hlast) hle)⟩

/-- Where a generation is named after the last second, so is a new one. -/
theorem newName_of_last
    (hfound : store.describe (service.indexNames.generationPattern key) = .ok found)
    (hlast : store.contains (service.indexNames.generationName key .last) = true) :
    service.newName key found = service.indexNames.generationName key .last := by
  have hle := next_le_of_described hfound hlast (IndexNames.generationTime?_generationName _)
  rw [Service.newName, UInt64.le_antisymm Timestamp.le_last hle]

/-- An index is there behind a call only where it was there before or the call makes it. -/
theorem contains_after (h : (store.after c).contains i = true) :
    c.made? = some i ∨ store.contains i = true := by
  by_cases hkeep : c.KeepsAliases
  · exact .inr ((sameAliases_after hkeep).contains_eq ▸ h)
  rcases store.after_cases c with heq | hok
  · exact .inr (heq ▸ h)
  generalize store.after c = store' at h hok
  cases c with
  | createIndex name body =>
    obtain ⟨-, -, rfl⟩ := createIndex_eq_ok.1 hok
    exact (NameMap.contains_insert.1 h).imp_left (congrArg some)
  | cloneIndex source target body =>
    obtain ⟨held, -, -, -, rfl⟩ := cloneIndex_eq_ok.1 hok
    exact (NameMap.contains_insert.1 h).imp_left (congrArg some)
  | deleteIndex name =>
    obtain ⟨-, rfl⟩ := deleteIndex_eq_ok.1 hok
    exact .inr (NameMap.contains_erase.1 h).2
  | putAlias name a =>
    have hsame := sameBy_putAlias (f := fun _ => ()) (fun _ _ => rfl) hok
    exact .inr (hsame.contains ▸ h)
  | deleteAlias name a =>
    have hsame := sameBy_deleteAlias (f := fun _ => ()) (fun _ _ => rfl) hok
    exact .inr (hsame.contains ▸ h)
  | _ => exact absurd trivial hkeep

/-- An index is made only where there is none with its name. -/
theorem absent_of_made (hok : store.perform c = .ok store') (hc : c.made? = some i) :
    store.contains i = false := by
  cases c with
  | createIndex name body =>
    obtain rfl := Option.some.inj hc
    exact (createIndex_eq_ok.1 hok).1
  | cloneIndex source target body =>
    obtain rfl := Option.some.inj hc
    obtain ⟨held, -, -, hnew, -⟩ := cloneIndex_eq_ok.1 hok
    exact hnew
  | _ => cases hc

/-! ## The newest index behind an alias -/

/-- Where an alias is bound to nothing but generations, the newest index behind it is the last one of
those that are listed as bound. -/
theorem newestIndex?_carriers {names : IndexNames}
    (hfound : store.describe (names.generationPattern key) = .ok found)
    (hown : ∀ i, store.Carries i (names.aliasName key) → IsGeneration (names.aliasName key) i) :
    newestIndex? (store.carriers (names.aliasName key)) =
      ((generationsAmong names key found).filter (·.bound)).getLast?.map (·.name) := by
  rw [← List.getLast?_map]
  refine newestIndex?_eq_getLast? (fun i hi => hown i (mem_carriers.1 hi)) ?_ fun i => ?_
  · exact List.pairwise_map.2 ((pairwise_generationsAmong hfound).filter _)
  rw [mem_carriers, List.mem_map]
  constructor
  · rintro ⟨g, hg, rfl⟩
    obtain ⟨hmem, hbound⟩ := List.mem_filter.1 hg
    exact ((mem_generationsAmong_described hfound).1 hmem).2.2.1 hbound
  · intro hcarries
    obtain ⟨time, htime⟩ := Option.isSome_iff_exists.1 (hown i hcarries)
    have hmem : (⟨i, time, true⟩ : Generation) ∈ generationsAmong names key found :=
      (mem_generationsAmong_described hfound).2 ⟨hcarries.contains, htime, by simpa using hcarries⟩
    exact ⟨_, List.mem_filter.2 ⟨hmem, rfl⟩, rfl⟩

end Store

/-! ## Runs that make a new generation -/

section

variable {service : Service} {key : CollectionKey} {d : List Exchange} {s s' : Memory}
  {t : List (Turn Memory)}

/-- What comes in front of a new generation changes no index but for its settings. -/
theorem Succession.Prepares.sameBy {x : Exchange} (h : Succession.Prepares x)
    (ha : Answers Memory.answer .none x.1 s x.2 s') :
    s.store.SameBy StoredIndex.contents s'.store := by
  cases h with
  | idle h =>
    cases h with
    | looks hlooks => rw [ha.store_of_looks hlooks]; exact .refl
    | failed => rw [ha.store_of_error (by decide)]; exact .refl
  | setBlock index blocked o =>
    rcases o with e | _
    · rw [ha.store_of_error (by decide)]
      exact .refl
    · exact Store.sameBy_putSettings (fun _ _ _ => rfl) ha.perform_of_ok

/-- Where no call but some preparations makes another index than one, there is no other index than before
in each state that they come to. -/
theorem Leads.made_within {name : String} {m : Memory} (hl : Leads Memory.answer .none s t s')
    (ht : ∀ x ∈ t.map Turn.exchange, Succession.Prepares x ∨ ∀ i, x.1.made? = some i → i = name)
    (hm : m = s' ∨ ∃ u ∈ t, m = u.after) :
    ∀ i, m.store.contains i = true → i = name ∨ s.store.contains i = true := by
  refine hl.keeps_in
    (J := fun m => ∀ i, m.store.contains i = true → i = name ∨ s.store.contains i = true) ?_ ht
    (fun _ => .inr) hm
  intro c o m m' hx hm ha i hi
  rcases hx with hx | hx
  · exact hm i ((hx.sameBy ha).contains ▸ hi)
  rcases ha.store with heq | heq
  · exact hm i (heq ▸ hi)
  rcases Store.contains_after (heq ▸ hi) with hmade | hi
  · exact .inl (hx i hmade)
  · exact hm i hi

/-- Where no call goes wrong, the indexes hold what they held while a new generation is made, or else
its name was free and no other index is made. -/
theorem Succession.Goes.leads (h : Succession.Goes service key d)
    (hl : Leads Memory.answer .none s t s') (ht : t.map Turn.exchange = d) :
    (∀ m, m = s' ∨ (∃ u ∈ t, m = u.after) → s.store.SameBy StoredIndex.contents m.store) ∨
      ∃ found, s.store.describe (service.indexNames.generationPattern key) = .ok found ∧
        s.store.contains (service.newName key found) = false ∧
        ∀ m, m = s' ∨ (∃ u ∈ t, m = u.after) → ∀ i, m.store.contains i = true →
          i = service.newName key found ∨ s.store.contains i = true := by
  have hprepares : ∀ {s s' m : Memory} {t : List (Turn Memory)}, Leads Memory.answer .none s t s' →
      (∀ x ∈ t.map Turn.exchange, Succession.Prepares x) → m = s' ∨ (∃ u ∈ t, m = u.after) →
      s.store.SameBy StoredIndex.contents m.store := fun {s} _ _ _ hl ht hm =>
    hl.keeps_in (J := fun m => s.store.SameBy StoredIndex.contents m.store)
      (fun hx hm ha => hm.trans (hx.sameBy ha)) ht .refl hm
  cases h with
  | halted hd => exact .inl fun m hm => hprepares hl (ht ▸ hd) hm
  | @made d₁ d₂ d₃ listed found c answer h₁ hfound h₂ hc h₃ =>
    obtain ⟨s₁, t₁, t₂, rfl, ht₁, ht₂, hl₁, hl₂⟩ := hl.split ht
    obtain ⟨s₂, t₃, rfl, hlist, ht₃, hl₃⟩ := hl₂.first ht₂
    obtain ⟨s₃, t₄, t₅, rfl, ht₄, ht₅, hl₄, hl₅⟩ := hl₃.split ht₃
    obtain ⟨s₄, t₆, rfl, hmake, -, -⟩ := hl₅.first ht₅
    have hs₁ : s₁.store = s.store := (hl₁.idle (by decide) (ht₁ ▸ h₁)).2
    have hs₂ : s₂.store = s.store := (hlist.store_of_looks fun _ => rfl).trans hs₁
    refine .inr ⟨found, hs₁ ▸ hlist.listed hfound, ?_, fun m hm => hl.made_within ?_ hm⟩
    · rw [← hs₂, ← (hprepares hl₄ (ht₄ ▸ h₂) (.inl rfl)).contains]
      exact Store.absent_of_made hmake.perform_of_ok hc
    rw [ht]
    intro x hx
    simp only [List.mem_append, List.mem_cons] at hx
    rcases hx with hx | rfl | hx | rfl | hx
    · exact .inl (.idle (h₁ x hx))
    · exact .inl (.idle (.looks (fun _ => rfl) _))
    · exact .inl (h₂ x hx)
    · exact .inr fun i hi => Option.some.inj (hi.symm.trans hc)
    · exact .inr fun i hi => nomatch (h₃ x hx).symm.trans hi

/-- Where no call goes wrong, an index that is made is named after the generations that there are. -/
theorem Succession.Goes.named {m : Memory} {i : String} (h : Succession.Goes service key d)
    (hl : Leads Memory.answer .none s t s') (ht : t.map Turn.exchange = d)
    (hm : m = s' ∨ ∃ u ∈ t, m = u.after) (hi : m.store.contains i = true)
    (hnew : s.store.contains i = false) :
    ∃ found, s.store.describe (service.indexNames.generationPattern key) = .ok found ∧
      i = service.newName key found := by
  obtain hkept | ⟨found, hfound, -, hmade⟩ := h.leads hl ht
  · rw [(hkept m hm).contains, hnew] at hi
    cases hi
  · exact ⟨found, hfound, (hmade m hm i hi).resolve_right (by rw [hnew]; exact Bool.false_ne_true)⟩

end

/-! ## Readers of the newest generation -/

namespace Operation

variable {key : CollectionKey} {w w' : World} {t : List (Turn Memory)}

/-- Where no call goes wrong, the generations of a collection are listed. -/
theorem Runs.generations_listed {r : Except ServiceError (List Generation)}
    (h : (generations key).Runs .none w t r w') :
    ∃ found, w.memory.store.describe (w.service.indexNames.generationPattern key) = .ok found ∧
      r = .ok (generationsAmong w.service.indexNames key found) := by
  obtain ⟨hop, hl⟩ := h
  obtain ⟨o, ht, rfl, -⟩ := hop.generations
  obtain ⟨s₁, t₁, rfl, hlist, -, -⟩ := hl.first ht
  obtain ⟨found, rfl, hdescribe⟩ := hlist.exists_described
  exact ⟨found, hdescribe, rfl⟩

/-- Where no call goes wrong, the newest index behind an alias is found. -/
theorem Runs.alias_resolved {aliasName newest : String} {r : Except ServiceError String}
    (h : (resolveAlias aliasName).Runs .none w t r w')
    (hnewest : newestIndex? (w.memory.store.carriers aliasName) = some newest) : r = .ok newest := by
  obtain ⟨hop, hl⟩ := h
  obtain ⟨o, ht, rfl, -⟩ := hop.resolveAlias
  obtain ⟨s₁, t₁, rfl, hlook, -, -⟩ := hl.first ht
  have hanswer : o = w.memory.store.aliasTargets aliasName := hlook.of_none.1
  rw [hanswer, Store.aliasTargets]
  split
  · rename_i hnil
    rw [hnil] at hnewest
    cases hnewest
  · simp only [resolvedIn, hnewest]

/-- Where no call goes wrong and the alias ends up at generations only, the newest index behind it is the
one that a move has made. -/
theorem Runs.newest_moved {report : ReindexReport}
    (h : (reindex key).Runs .none w t (.ok report) w')
    (hown : ∀ i, w'.memory.store.Carries i (w.service.aliasName key) →
      IsGeneration (w.service.aliasName key) i) :
    w.memory.store.contains report.newIndex = false ∧
      newestIndex? (w'.memory.store.carriers (w.service.aliasName key)) = some report.newIndex := by
  have hmoved : (reindex key).Runs .unperformed w t (.ok report) w' := ⟨h.1, h.2.of_faultless⟩
  obtain ⟨m, hm, -, hreport, -, hnew, held, -, hstands⟩ := hmoved.moved
  rw [hreport]
  refine ⟨hnew, ?_⟩
  rw [← hm.alias_eq] at hown ⊢
  have hbound : ∀ i, w'.memory.store.Carries i m.aliasName ↔
      i = m.newIndex ∨ w.memory.store.Carries i m.aliasName ∧ i ≠ m.oldIndex := by
    intro i
    show i ∈ w'.memory.store.bound m.aliasName ↔ _
    rw [hstands.bound_eq]
    rfl
  have hcarries : w'.memory.store.Carries m.newIndex m.aliasName := (hbound _).2 (.inl rfl)
  obtain ⟨found, hfound, hname⟩ :=
    (Says.reindex_succession h.1).named h.2 rfl (.inl rfl) hcarries.contains hnew
  obtain ⟨newest, hnewest⟩ := exists_newestIndex? (List.ne_nil_of_mem (Store.mem_carriers.2 hcarries))
  rw [hnewest]
  have hbehind := precedes_newestIndex? (fun i hi => hown i (Store.mem_carriers.1 hi)) hnewest
    (Store.mem_carriers.2 hcarries)
  have hnewest' := Store.mem_carriers.1 (mem_of_newestIndex? hnewest)
  rcases (hbound newest).1 hnewest' with rfl | ⟨hold, -⟩
  · rfl
  rcases hbehind with heq | hbehind
  · rw [heq]
  have hbefore := Store.precedes_newName hfound hold.contains (hm.alias_eq ▸ hown newest hnewest')
    (hname ▸ hnew)
  rw [← hname, ← hm.alias_eq] at hbefore
  exact (hbefore.asymm hbehind).elim

/-- New generations come behind all others, and every reader finds the same newest one, in every state
of the engine and at every clock.

Unless a generation has been made at the end of time, an index that is made where a collection is made,
moved or cloned to is a generation of it that is not before the clock and later than every generation that
there was. Where the last name there is has been given away, all indexes hold what they held. An alias
that is bound to nothing but generations leads to the one that is listed last as bound, and behind a move
to the one that the move has made. -/
theorem newest_generation (w : World) (key : CollectionKey) :
    ((∀ i, w.memory.store.contains i = true →
        w.service.indexNames.generationTime? key i ≠ some .last) →
      ∀ (request : Request) t r (w' : World), request.MakesGeneration key →
      request.perform.Runs .none w t r w' → ∀ m, m = w'.memory ∨ (∃ u ∈ t, m = u.after) →
      ∀ i, m.store.contains i = true → w.memory.store.contains i = false →
        ∃ time, w.service.indexNames.generationTime? key i = some time ∧
          min w.service.now Timestamp.last.toNat ≤ time.toNat ∧
          ∀ j time', w.memory.store.contains j = true →
            w.service.indexNames.generationTime? key j = some time' → time' < time) ∧
    (w.memory.store.contains (w.service.indexNames.generationName key .last) = true →
      ∀ (request : Request) t r (w' : World), request.MakesGeneration key →
      request.perform.Runs .none w t r w' → ∀ m, m = w'.memory ∨ (∃ u ∈ t, m = u.after) →
        w.memory.store.SameBy StoredIndex.contents m.store) ∧
    (w.memory.store.aliasExists (w.service.aliasName key) = true →
      (∀ i, w.memory.store.Carries i (w.service.aliasName key) →
        IsGeneration (w.service.aliasName key) i) →
      ∀ t r w₁ t' r' w₂, (generations key).Runs .none w t r w₁ →
        (resolveAlias (w.service.aliasName key)).Runs .none w t' r' w₂ →
        ∃ found g, r = .ok found ∧ (found.filter (·.bound)).getLast? = some g ∧ r' = .ok g.name) ∧
    ∀ t report w', (reindex key).Runs .none w t (.ok report) w' →
      (∀ i, w'.memory.store.Carries i (w.service.aliasName key) →
        IsGeneration (w.service.aliasName key) i) →
      w.memory.store.contains report.newIndex = false ∧
      ∀ t' r' w₁, (resolveAlias (w.service.aliasName key)).Runs .none w' t' r' w₁ →
        r' = .ok report.newIndex := by
  refine ⟨fun htimely request t r w' hmakes hrun m hm i hi hnew => ?_,
    fun hlast request t r w' hmakes hrun m hm => ?_, fun hbound hown t r w₁ t' r' w₂ hlist hresolve => ?_,
    fun t report w' h hown => ?_⟩
  · obtain ⟨found, hfound, rfl⟩ := (hmakes.goes hrun).named hrun.2 rfl hm hi hnew
    refine ⟨_, IndexNames.generationTime?_generationName _,
      Timestamp.min_le_ofClock.trans (Int.ofNat_le.2 (UInt64.le_iff_toNat_le.1 ofClock_le_nextTime)),
      fun j time' hj htime' => ?_⟩
    have hlater : time'.next ≠ time' := fun heq =>
      htimely j hj (by rw [htime', Timestamp.next_eq_iff.1 heq])
    exact UInt64.lt_of_lt_of_le (Timestamp.lt_next hlater) (Store.next_le_of_described hfound hj htime')
  · obtain hkept | ⟨found, hfound, hnew, -⟩ := (hmakes.goes hrun).leads hrun.2 rfl
    · exact hkept m hm
    · rw [Store.newName_of_last hfound hlast, hlast] at hnew
      cases hnew
  · obtain ⟨found, hfound, rfl⟩ := hlist.generations_listed
    obtain ⟨i, hi⟩ := Store.aliasExists_iff.1 hbound
    obtain ⟨newest, hnewest⟩ := exists_newestIndex? (List.ne_nil_of_mem (Store.mem_carriers.2 hi))
    obtain ⟨g, hg, rfl⟩ := Option.map_eq_some_iff.1
      ((Store.newestIndex?_carriers hfound hown).symm.trans hnewest)
    exact ⟨_, g, rfl, hg, hresolve.alias_resolved hnewest⟩
  · obtain ⟨hnew, hnewest⟩ := h.newest_moved hown
    exact ⟨hnew, fun t' r' w₁ hresolve => hresolve.alias_resolved hnewest⟩

/-- A clock that has gone back behind the epoch does not make a new generation an earlier one, and the
alias leads to it. Where a generation has been made at the end of time, a move is refused and every index
holds what it held. -/
theorem newest_generation_english :
    let w := ((World.empty .plain).rehearse
      [(.ensureExists .english, []), (.reindex .english, [])]).2
    let early : World := { w with service := { w.service with now := -5 } }
    let asked := (Request.reindex .english).perform.rehearse [] early
    let moved := (reindex .english).rehearse [] early
    let resolved := (resolveAlias "craftcms_en").rehearse [] moved.2.2
    let listed := (generations .english).rehearse [] moved.2.2
    let late := ((World.empty { Service.plain with now := 18446744073709551615 }).rehearse
      [(.ensureExists .english, [])]).2
    let stuck := (Request.reindex .english).perform.rehearse [] late
    asked.2.2.memory.store.names =
        ["craftcms_en_1700000000", "craftcms_en_1700000001", "craftcms_en_1700000002"] ∧
      (∃ time, early.service.indexNames.generationTime? .english "craftcms_en_1700000002" = some time ∧
        1700000001 < time) ∧
      resolved.2.1 = .ok "craftcms_en_1700000002" ∧
      (∃ found g, listed.2.1 = .ok found ∧ (found.filter (·.bound)).getLast? = some g ∧
        resolved.2.1 = .ok g.name) ∧
      late.memory.store.names = ["craftcms_en_18446744073709551615"] ∧
      late.memory.store.SameBy StoredIndex.contents stuck.2.2.memory.store := by
  intro w early asked moved resolved listed late stuck
  obtain ⟨hthere, hnew, htimely, htime, halias⟩ :
      early.memory.store.contains "craftcms_en_1700000001" = true ∧
      early.memory.store.contains "craftcms_en_1700000002" = false ∧
      (∀ i ∈ early.memory.store.names,
        early.service.indexNames.generationTime? .english i ≠ some .last) ∧
      early.service.indexNames.generationTime? .english "craftcms_en_1700000001" = some 1700000001 ∧
      early.service.aliasName .english = "craftcms_en" := by
    decide +kernel
  have hnames : asked.2.2.memory.store.names =
      ["craftcms_en_1700000000", "craftcms_en_1700000001", "craftcms_en_1700000002"] := by
    decide +kernel
  obtain ⟨hmoved, halias', hbound, hown⟩ :
      moved.2.1.map (·.newIndex) = .ok "craftcms_en_1700000002" ∧
      moved.2.2.service.aliasName .english = "craftcms_en" ∧
      moved.2.2.memory.store.aliasExists "craftcms_en" = true ∧
      ∀ i ∈ moved.2.2.memory.store.carriers "craftcms_en", IsGeneration "craftcms_en" i := by
    decide +kernel
  obtain ⟨hlast, hlate⟩ : late.memory.store.names = ["craftcms_en_18446744073709551615"] ∧
      late.memory.store.contains (late.service.indexNames.generationName .english .last) = true := by
    decide +kernel
  have hasked : (Request.reindex .english).perform.Runs .none early asked.1 asked.2.1 asked.2.2 :=
    Operation.runs_rehearse_nil _ early
  have hstuck : (Request.reindex .english).perform.Runs .none late stuck.1 stuck.2.1 stuck.2.2 :=
    Operation.runs_rehearse_nil _ late
  have hmove : (reindex .english).Runs .none early moved.1 moved.2.1 moved.2.2 :=
    Operation.runs_rehearse_nil _ early
  have hresolve : (resolveAlias "craftcms_en").Runs .none moved.2.2 resolved.1 resolved.2.1 resolved.2.2 :=
    Operation.runs_rehearse_nil _ moved.2.2
  have hlist : (generations .english).Runs .none moved.2.2 listed.1 listed.2.1 listed.2.2 :=
    Operation.runs_rehearse_nil _ moved.2.2
  clear_value stuck late listed resolved moved asked early
  obtain ⟨report, hreport, hindex⟩ := map_eq_ok.1 hmoved
  rw [hreport] at hmove
  have hcarried : ∀ i, moved.2.2.memory.store.Carries i "craftcms_en" → IsGeneration "craftcms_en" i :=
    fun i hi => hown i (Store.mem_carriers.2 hi)
  obtain ⟨hnewer, -, -, hmoves⟩ := newest_generation early .english
  obtain ⟨time, hnewTime, -, hlater⟩ := hnewer
    (fun i hi => htimely i (NameMap.mem_names.2 hi)) (.reindex .english) _ _ _ rfl hasked _ (.inl rfl)
    "craftcms_en_1700000002" (NameMap.mem_names.1 (by simp [hnames])) hnew
  obtain ⟨-, hresolved⟩ := hmoves _ _ _ hmove (by rwa [halias])
  have hr := hresolved _ _ _ (halias.symm ▸ hresolve)
  obtain ⟨-, -, hreaders, -⟩ := newest_generation moved.2.2 .english
  rw [halias'] at hreaders
  exact ⟨hnames, ⟨time, hnewTime, hlater _ _ hthere htime⟩, hr.trans (congrArg _ hindex),
    hreaders hbound hcarried _ _ _ _ _ _ hlist hresolve, hlast,
    (newest_generation late .english).2.1 hlate (.reindex .english) _ _ _ rfl hstuck _ (.inl rfl)⟩

end Operation

end SiteSearch
