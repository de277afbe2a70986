import SiteSearch.Connection.Retry

/-!
# Attempts one after another

A call that is made as a policy says is a chain of attempts, with a pause between each two
(`RetryPolicy.Tries`). `RetryPolicy.Ending` says where the chain ends and with what: each attempt but the
last fails with an error that is worth another one, and the last is the answer, unless nobody looks
further (`RetryPolicy.exists_tries`).
-/

namespace SiteSearch.RetryPolicy

variable {σ ε α : Type} {policy : RetryPolicy} {again : ε → Bool} {sleep : Duration → StateM σ Unit}
variable {attempt : StateM σ (Except ε α)} {results : List (Except ε α)} {made look : Nat}

/-- Whether what an attempt behind `made` others comes to is the answer. -/
def isAnswer (policy : RetryPolicy) (again : ε → Bool) (made : Nat) : Except ε α → Bool
  | .ok _ => true
  | .error e => !again e || policy.isSpent (made + 1)

/-- Attempts with what each of them comes to, from one state to another; behind each that is not the
answer there is a pause. -/
def Tries (policy : RetryPolicy) (again : ε → Bool) (sleep : Duration → StateM σ Unit)
    (attempt : StateM σ (Except ε α)) : Duration → Nat → σ → List (Except ε α) → σ → Prop
  | _, _, s, [], s' => s' = s
  | pause, made, s, result :: results, s' => ∃ s₁, attempt.run s = (result, s₁) ∧
    if policy.isAnswer again made result then results = [] ∧ s' = s₁
    else policy.Tries again sleep attempt (policy.nextPause pause) (made + 1) ((sleep pause).run s₁).2
      results s'

/-- A failure after which another attempt may be worth it. -/
def IsPassing (again : ε → Bool) (result : Except ε α) : Prop :=
  ∃ e, result = .error e ∧ again e = true

/-- What attempts that follow `made` failed ones end with, if at most `look` are looked at. -/
structure Ending (policy : RetryPolicy) (again : ε → Bool) (made look : Nat)
    (results : List (Except ε α)) (answer : Option (Except ε α)) : Prop where
  passing : ∀ result ∈ results.dropLast, IsPassing again result
  unspent : ∀ n, 0 < n → n < results.length → policy.isSpent (made + n) = false
  looked : results.length ≤ look
  /-- The last attempt is the answer, if it was not one to be followed by another. -/
  answered : ∀ result, answer = some result → results.getLast? = some result ∧
    (IsPassing again result → policy.isSpent (made + results.length) = true)
  /-- Without an answer there was another attempt to come that nobody looks at. -/
  unanswered : answer = none → results.length = look ∧ (∀ result ∈ results, IsPassing again result) ∧
    (0 < look → policy.isSpent (made + look) = false)

theorem isPassing_of_not_isAnswer {result : Except ε α} (h : policy.isAnswer again made result = false) :
    IsPassing again result ∧ policy.isSpent (made + 1) = false := by
  cases result with
  | ok value => cases h
  | error e =>
    obtain ⟨hagain, hunspent⟩ : again e = true ∧ policy.isSpent (made + 1) = false := by
      simpa [isAnswer] using h
    exact ⟨⟨e, rfl, hagain⟩, hunspent⟩

theorem Ending.of_last {result : Except ε α} (h : policy.isAnswer again made result = true) :
    policy.Ending again made (look + 1) [result] (some result) where
  passing := by simp
  unspent n hpos hlt := by
    rw [List.length_singleton] at hlt
    omega
  looked := by simp
  answered other hother := by
    obtain rfl := Option.some.inj hother
    refine ⟨rfl, ?_⟩
    rintro ⟨e, rfl, hagain⟩
    simpa [isAnswer, hagain] using h
  unanswered h := by cases h

theorem Ending.cons {result : Except ε α} {answer : Option (Except ε α)}
    (hmore : policy.isAnswer again made result = false)
    (h : policy.Ending again (made + 1) look results answer) :
    policy.Ending again made (look + 1) (result :: results) answer where
  passing other hother := by
    rcases results with _ | ⟨next, results⟩
    · cases hother
    · rw [List.dropLast_cons_cons] at hother
      rcases List.mem_cons.1 hother with rfl | hother
      · exact (isPassing_of_not_isAnswer hmore).1
      · exact h.passing other hother
  unspent n hpos hlt := by
    rw [List.length_cons] at hlt
    obtain rfl | ⟨m, rfl⟩ : n = 1 ∨ ∃ m, n = m + 2 := by
      rcases n with _ | _ | m
      · omega
      · exact .inl rfl
      · exact .inr ⟨m, rfl⟩
    · exact (isPassing_of_not_isAnswer hmore).2
    · have hrest := h.unspent (m + 1) (by omega) (by omega)
      rwa [show made + 1 + (m + 1) = made + (m + 2) by omega] at hrest
  looked := by
    have := h.looked
    simp
    omega
  answered other hother := by
    obtain ⟨hlast, hspent⟩ := h.answered other hother
    have hne : results ≠ [] := by
      rintro rfl
      cases hlast
    obtain ⟨next, others, rfl⟩ := List.exists_cons_of_ne_nil hne
    refine ⟨by rw [List.getLast?_cons_cons, hlast], fun hother => ?_⟩
    rw [← hspent hother]
    congr 1
    simp
    omega
  unanswered hnone := by
    obtain ⟨hlength, hall, hunspent⟩ := h.unanswered hnone
    refine ⟨by simp [hlength], ?_, fun _ => ?_⟩
    · exact List.forall_mem_cons.2 ⟨(isPassing_of_not_isAnswer hmore).1, hall⟩
    · rcases Nat.eq_zero_or_pos look with rfl | hlook
      · exact (isPassing_of_not_isAnswer hmore).2
      · have hlater := hunspent hlook
        rwa [show made + 1 + look = made + (look + 1) by omega] at hlater

theorem isSpent_of_limit {n : Nat} (hlimit : policy.limit = some n) (made : Nat) :
    policy.isSpent made = decide (n ≤ made) := by
  rw [isSpent, hlimit]

/-- A policy with a limit makes no more attempts than it allows, and one at least. -/
theorem Ending.length_le {n : Nat} {answer : Option (Except ε α)}
    (h : policy.Ending again 0 look results answer) (hlimit : policy.limit = some n) :
    results.length ≤ max n 1 := by
  rcases Nat.lt_or_ge 1 results.length with hmore | hfew
  · have hunspent := h.unspent (results.length - 1) (by omega) (by omega)
    rw [isSpent_of_limit hlimit, decide_eq_false_iff_not] at hunspent
    omega
  · omega

/-- Where the last of the attempts that a limit allows may be looked at, there is an answer. -/
theorem Ending.exists_answer {n : Nat} {answer : Option (Except ε α)}
    (h : policy.Ending again 0 (max n 1) results answer) (hlimit : policy.limit = some n) :
    ∃ result, answer = some result := by
  cases answer with
  | some result => exact ⟨result, rfl⟩
  | none =>
    have hunspent := (h.unanswered rfl).2.2 (by omega)
    rw [isSpent_of_limit hlimit, decide_eq_false_iff_not] at hunspent
    omega

/-- A failure that was worth another attempt is the answer only behind all attempts. -/
theorem Ending.length_eq {n : Nat} {result : Except ε α}
    (h : policy.Ending again 0 look results (some result)) (hlimit : policy.limit = some n)
    (hpassing : IsPassing again result) : results.length = max n 1 := by
  obtain ⟨hlast, hspent⟩ := h.answered result rfl
  have hpos : 0 < results.length := List.length_pos_of_mem (List.mem_of_getLast? hlast)
  have hle := h.length_le hlimit
  have hge := hspent hpassing
  rw [isSpent_of_limit hlimit, decide_eq_true_eq] at hge
  omega

/-- An attempt that is no answer is followed by a pause and the next one. -/
theorem run_attemptsFrom_succ {grow : Duration → Duration} {pause : Duration} {s s₁ : σ}
    {result : Except ε α} (h : attempt.run s = (result, s₁)) :
    (policy.attemptsFrom grow again sleep attempt pause made (look + 1)).run s =
      if policy.isAnswer again made result then (some result, s₁)
      else (policy.attemptsFrom grow again sleep attempt (policy.nextPauseBy grow pause) (made + 1) look).run
        ((sleep pause).run s₁).2 := by
  rw [attemptsFrom, StateT.run_bind, h]
  cases result with
  | ok value => rfl
  | error e =>
    show StateT.run (if _ then _ else _) s₁ = if (_ || _) = true then _ else _
    split <;> rfl

/-- What a policy makes of a call is a chain of attempts. -/
theorem exists_tries (policy : RetryPolicy) (again : ε → Bool) (sleep : Duration → StateM σ Unit)
    (attempt : StateM σ (Except ε α)) (look : Nat) : ∀ (pause : Duration) (made : Nat) (s : σ),
    let outcome := (policy.attemptsFrom (·.scale policy.factor) again sleep attempt pause made look).run s
    ∃ results, policy.Tries again sleep attempt pause made s results outcome.2 ∧
      policy.Ending again made look results outcome.1 := by
  induction look with
  | zero =>
    intro pause made s
    refine ⟨[], rfl, by simp, by simp, by simp, ?_, by simp⟩
    rintro result ⟨⟩
  | succ look ih =>
    intro pause made s
    obtain ⟨result, s₁, hresult⟩ : ∃ result s₁, attempt.run s = (result, s₁) := ⟨_, _, rfl⟩
    dsimp only
    rw [run_attemptsFrom_succ hresult, ← nextPause]
    cases hlast : policy.isAnswer again made result with
    | true => exact ⟨[result], ⟨s₁, hresult, by simp [hlast]⟩, .of_last hlast⟩
    | false =>
      obtain ⟨results, htries, hending⟩ := ih (policy.nextPause pause) (made + 1) ((sleep pause).run s₁).2
      exact ⟨result :: results, ⟨s₁, hresult, by simpa [hlast] using htries⟩, hending.cons hlast⟩

end SiteSearch.RetryPolicy
