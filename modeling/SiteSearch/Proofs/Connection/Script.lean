import Mathlib.Data.List.Defs
import Mathlib.Data.Nat.Find
import Mathlib.Order.Bounds.Basic
import SiteSearch.Proofs.Connection.Attempts

/-!
# Attempts on a script

A script says what each attempt comes to, and a log counts the attempts and keeps the pauses.

The last attempt is the first that succeeds, fails for good or is as many as there may be
(`RetryPolicy.IsLast`): `RetryPolicy.attempts_end` says that exactly those up to it are made, with a pause in
front of each but the first, and that its outcome is the answer. With a limit there is a last attempt, and
without one there may be none; then there is no answer, however long one looks.
-/

namespace SiteSearch

/-- How many attempts have been made, and the pauses between them, first pause first. -/
structure AttemptLog where
  attempts : Nat := 0
  pauses : List Duration := []
  deriving DecidableEq, Repr

namespace AttemptLog

/-- Makes the next attempt, which comes to what the script says. -/
def attempt {ε α : Type} (script : Nat → Except ε α) : StateM AttemptLog (Except ε α) := fun log =>
  (script (log.attempts + 1), { log with attempts := log.attempts + 1 })

/-- Makes a pause. -/
def pause (d : Duration) : StateM AttemptLog Unit :=
  modify fun log => { log with pauses := log.pauses ++ [d] }

end AttemptLog

namespace RetryPolicy

variable {ε α : Type} {policy : RetryPolicy} {grow : Duration → Duration} {again : ε → Bool}
variable {script : Nat → Except ε α} {made look last : Nat} {pause : Duration} {pauses : List Duration}

/-- No attempt follows on the one with a number: it succeeds, fails with an error that is not worth
another, or is as many as there may be. -/
def IsLast (policy : RetryPolicy) (again : ε → Bool) (script : Nat → Except ε α) (number : Nat) : Prop :=
  (∃ value, script number = .ok value) ∨ (∃ e, script number = .error e ∧ again e = false) ∨
    ∃ limit, policy.limit = some limit ∧ limit ≤ number

theorem isSpent_iff {number : Nat} :
    policy.isSpent number = true ↔ ∃ limit, policy.limit = some limit ∧ limit ≤ number := by
  unfold isSpent
  cases policy.limit <;> simp

theorem isAnswer_iff_isLast :
    policy.isAnswer again made (script (made + 1)) = true ↔ policy.IsLast again script (made + 1) := by
  unfold IsLast
  cases script (made + 1) with
  | ok value => simp [isAnswer]
  | error e => simp [isAnswer, isSpent_iff]

/-- Behind an attempt on a script there is the answer, or a pause and the attempts that follow. -/
theorem run_script_succ :
    (policy.attemptsFrom grow again AttemptLog.pause (AttemptLog.attempt script) pause made (look + 1)).run
        ⟨made, pauses⟩ =
      if policy.isAnswer again made (script (made + 1)) then (some (script (made + 1)), ⟨made + 1, pauses⟩)
      else (policy.attemptsFrom grow again AttemptLog.pause (AttemptLog.attempt script)
        (policy.nextPauseBy grow pause) (made + 1) look).run ⟨made + 1, pauses ++ [pause]⟩ := by
  have hattempt : (AttemptLog.attempt script).run ⟨made, pauses⟩ =
      (script (made + 1), ⟨made + 1, pauses⟩) := rfl
  rw [run_attemptsFrom_succ hattempt]
  rfl

/-- The first attempt that is the last one ends the chain. -/
theorem run_script_of_last (hlast : policy.IsLast again script last)
    (hfirst : ∀ number, made < number → number < last → ¬ policy.IsLast again script number)
    (hmade : made < last) (hlook : last ≤ made + look) :
    (policy.attemptsFrom grow again AttemptLog.pause (AttemptLog.attempt script) pause made look).run
        ⟨made, pauses⟩ =
      (some (script last), ⟨last, pauses ++ List.iterate (policy.nextPauseBy grow) pause (last - 1 - made)⟩) := by
  induction look generalizing made pause pauses with
  | zero => omega
  | succ look ih =>
    rw [run_script_succ]
    rcases Nat.eq_or_lt_of_le hmade with rfl | hmore
    · rw [if_pos (isAnswer_iff_isLast.2 hlast)]
      simp
    · rw [if_neg fun h => hfirst (made + 1) (by omega) hmore (isAnswer_iff_isLast.1 h),
        ih (fun number hnumber => hfirst number (by omega)) hmore (by omega),
        show last - 1 - made = last - 1 - (made + 1) + 1 by omega, List.iterate, List.append_assoc,
        List.singleton_append]

/-- Without a last attempt there is one for each look, and no answer. -/
theorem run_script_of_unending (h : ∀ number, made < number → ¬ policy.IsLast again script number) :
    (policy.attemptsFrom grow again AttemptLog.pause (AttemptLog.attempt script) pause made look).run
        ⟨made, pauses⟩ = (none, ⟨made + look, pauses ++ List.iterate (policy.nextPauseBy grow) pause look⟩) := by
  induction look generalizing made pause pauses with
  | zero =>
    rw [attemptsFrom, List.iterate, List.append_nil]
    rfl
  | succ look ih =>
    rw [run_script_succ, if_neg fun hanswer => h (made + 1) (by omega) (isAnswer_iff_isLast.1 hanswer),
      ih fun number hnumber => h number (by omega), List.iterate, List.append_assoc, List.singleton_append,
      show made + 1 + look = made + (look + 1) by omega]

/-- A limit sees to it that there is a last attempt. -/
theorem exists_isLeast_isLast {limit : Nat} (again : ε → Bool) (script : Nat → Except ε α)
    (h : policy.limit = some limit) :
    ∃ last ≤ max limit 1, IsLeast {number | 1 ≤ number ∧ policy.IsLast again script number} last := by
  classical
  have hexists : ∃ number, 1 ≤ number ∧ policy.IsLast again script number :=
    ⟨max limit 1, by omega, .inr (.inr ⟨limit, h, by omega⟩)⟩
  refine ⟨Nat.find hexists, Nat.find_min' hexists ?_, Nat.find_spec hexists, fun _ => Nat.find_min' hexists⟩
  exact ⟨by omega, .inr (.inr ⟨limit, h, by omega⟩)⟩

/-- A pause that follows on another is no longer than the longest one. -/
theorem le_longestPause_of_mem {d : Duration} {count : Nat}
    (h : d ∈ List.iterate (policy.nextPauseBy grow) (policy.nextPauseBy grow pause) count) :
    d.nanos ≤ policy.longestPause.nanos := by
  induction count generalizing pause with
  | zero => cases h
  | succ count ih =>
    rcases List.mem_cons.1 h with rfl | hrest
    · exact Nat.min_le_right (grow pause).nanos policy.longestPause.nanos
    · exact ih hrest

/-- What becomes of a call on a script, whatever way the pauses grow. The attempts up to the first last one
are made, and its outcome is the answer; there is a pause between each two, and no pause but the first is
longer than the longest one. With a limit there is such an attempt, and where there is none the attempts go
on. -/
theorem attempts_end (policy : RetryPolicy) (grow : Duration → Duration) (again : ε → Bool)
    (script : Nat → Except ε α) :
    let attempted := fun look =>
      (policy.attemptsBy grow again AttemptLog.pause (AttemptLog.attempt script) look).run {}
    let lastOnes := {number | 1 ≤ number ∧ policy.IsLast again script number}
    (∀ last, IsLeast lastOnes last → ∀ look, last ≤ look →
      attempted look = (some (script last),
        ⟨last, List.iterate (policy.nextPauseBy grow) policy.firstPause (last - 1)⟩)) ∧
      (∀ last, ∀ d ∈ (List.iterate (policy.nextPauseBy grow) policy.firstPause (last - 1)).tail,
        d.nanos ≤ policy.longestPause.nanos) ∧
      (∀ limit, policy.limit = some limit → ∃ last ≤ max limit 1, IsLeast lastOnes last) ∧
      (lastOnes = ∅ → ∀ look, (attempted look).1 = none ∧ (attempted look).2.attempts = look) := by
  intro attempted lastOnes
  refine ⟨fun last hlast look hlook => ?_, fun last d hd => ?_,
    fun limit => exists_isLeast_isLast again script, fun hnone look => ?_⟩
  · obtain ⟨⟨hpos, hends⟩, hleast⟩ := hlast
    refine run_script_of_last hends (fun number hnumber hbefore hnumberEnds => ?_) hpos (by omega)
    exact absurd (hleast ⟨hnumber, hnumberEnds⟩) (by omega)
  · cases hcount : last - 1 with
    | zero =>
      rw [hcount] at hd
      cases hd
    | succ count =>
      rw [hcount] at hd
      exact le_longestPause_of_mem hd
  · have hrun : attempted look =
        (none, ⟨0 + look, [] ++ List.iterate (policy.nextPauseBy grow) policy.firstPause look⟩) :=
      run_script_of_unending fun number hnumber hends =>
        Set.eq_empty_iff_forall_notMem.1 hnone number ⟨hnumber, hends⟩
    rw [hrun]
    exact ⟨rfl, Nat.zero_add look⟩

/-- A call that is refused twice is answered at the third attempt, behind pauses of 100 and of 200
milliseconds. -/
theorem attempts_end_at_third :
    let script : Nat → Except String Nat := fun number => if number < 3 then .error "refused" else .ok number
    IsLeast {number | 1 ≤ number ∧ request.IsLast (fun _ => true) script number} 3 ∧
      (request.attempts (fun _ => true) AttemptLog.pause (AttemptLog.attempt script) 5).run {} =
        (some (.ok 3), ⟨3, [.ofMillis 100, .ofMillis 200]⟩) := by
  intro script
  have hleast : IsLeast {number | 1 ≤ number ∧ request.IsLast (fun _ => true) script number} 3 := by
    refine ⟨⟨by decide, .inl ⟨3, rfl⟩⟩, fun number ⟨_, hends⟩ => ?_⟩
    by_contra hearly
    have hrefused : script number = .error "refused" := if_pos (by omega)
    rcases hends with ⟨value, hvalue⟩ | ⟨e, -, hagain⟩ | ⟨limit, hlimit, hreached⟩
    · rw [hrefused] at hvalue
      cases hvalue
    · cases hagain
    · obtain rfl := Option.some.inj hlimit
      omega
  refine ⟨hleast, ?_⟩
  have hpauses : List.iterate (request.nextPauseBy (·.scale request.factor)) request.firstPause 2 =
      [.ofMillis 100, .ofMillis 200] := by decide +kernel
  rw [← hpauses]
  exact (attempts_end request (·.scale request.factor) (fun _ => true) script).1 3 hleast 5 (by decide)

end RetryPolicy

end SiteSearch
