import SiteSearch.Binary64.Basic

/-!
# Trying again

A call that fails may be made again after a pause. The pauses grow by a factor up to a longest one,
and a policy says how many attempts there are at most; without a limit the attempts go on until one
succeeds or fails for good.

`attempts` makes them, in any monad that can make an attempt and pause. It is told how many attempts
it may look at, and answers nothing if the policy asks for one more. `attemptsBy` is the same with any
other way to let a pause grow.
-/
namespace SiteSearch

/-- A span of time in nanoseconds. -/
structure Duration where
  nanos : Nat
  deriving DecidableEq, Repr

namespace Duration

/-- Nanoseconds of a second. -/
def nanosPerSecond : Nat := Nat.pow 10 9

/-- No time. -/
def zero : Duration := ⟨0⟩

/-- The longest span: the seconds have to fit a word. -/
def longest : Duration := ⟨Nat.pow 2 64 * nanosPerSecond - 1⟩

/-- A span of milliseconds. -/
def ofMillis (n : Nat) : Duration := ⟨n * Nat.pow 10 6⟩

/-- The span in milliseconds, a part of one counting as a whole. -/
def millisUp (d : Duration) : Nat := (d.nanos + (Nat.pow 10 6 - 1)) / Nat.pow 10 6

/-- The span in seconds. -/
def seconds (d : Duration) : Binary64 :=
  (Binary64.ofNat (d.nanos / nanosPerSecond)).add
    ((Binary64.ofNat (d.nanos % nanosPerSecond)).div (Binary64.ofNat nanosPerSecond))

/-- The span of a number of seconds, to the nearest nanosecond; no time is shorter than none or
longer than the longest span. -/
def ofSeconds (x : Binary64) : Duration :=
  if x.isNaN || x.negative then zero
  else if !x.isFinite then longest
  else
    let (num, den) := Binary64.scaledRatio (x.magnitude * nanosPerSecond) 1 (-x.scale)
    ⟨min (Binary64.divideToEven num den) longest.nanos⟩

/-- The span times a factor. -/
def scale (d : Duration) (factor : Binary64) : Duration :=
  ofSeconds (factor.mul d.seconds)

/-- The shorter of two spans. -/
def min (a b : Duration) : Duration := ⟨Nat.min a.nanos b.nanos⟩

end Duration

/-- How often a call is made, and how long the pauses between are. -/
structure RetryPolicy where
  firstPause : Duration
  longestPause : Duration
  factor : Binary64
  /-- The most attempts, the first one included; no limit without it. -/
  limit : Option Nat
  deriving DecidableEq, Repr

namespace RetryPolicy

/-- For the first contact: five attempts within a few seconds. -/
def startup : RetryPolicy :=
  ⟨.ofMillis 200, .ofMillis 2000, .ofNat 2, some 5⟩

/-- For a request: two quick attempts more. -/
def request : RetryPolicy :=
  ⟨.ofMillis 100, .ofMillis 2000, .ofNat 2, some 3⟩

/-- One attempt. -/
def once : RetryPolicy :=
  ⟨.zero, .zero, .ofNat 1, some 1⟩

/-- The pause that follows a pause, which `grow` makes longer. -/
def nextPauseBy (policy : RetryPolicy) (grow : Duration → Duration) (pause : Duration) : Duration :=
  (grow pause).min policy.longestPause

/-- The pause that follows a pause. -/
def nextPause (policy : RetryPolicy) (pause : Duration) : Duration :=
  policy.nextPauseBy (·.scale policy.factor) pause

/-- Whether no attempt may follow after so many. -/
def isSpent (policy : RetryPolicy) (made : Nat) : Bool :=
  match policy.limit with
  | some limit => limit ≤ made
  | none => false

section Attempts

variable {m : Type → Type} [Monad m] {ε α : Type}

/-- Makes attempts after `made` ones have failed; `pause` is the next one to come. -/
def attemptsFrom (policy : RetryPolicy) (grow : Duration → Duration) (again : ε → Bool)
    (sleep : Duration → m Unit) (attempt : m (Except ε α)) :
    (pause : Duration) → (made : Nat) → (look : Nat) → m (Option (Except ε α))
  | _, _, 0 => pure none
  | pause, made, look + 1 => do
    match ← attempt with
    | .ok value => pure (some (.ok value))
    | .error error =>
      if !again error || policy.isSpent (made + 1) then pure (some (.error error))
      else do
        sleep pause
        attemptsFrom policy grow again sleep attempt (policy.nextPauseBy grow pause) (made + 1) look

/-- Makes attempts until one succeeds, fails with an error that `again` rejects, or is the last one
of the policy. -/
def attemptsBy (policy : RetryPolicy) (grow : Duration → Duration) (again : ε → Bool)
    (sleep : Duration → m Unit) (attempt : m (Except ε α)) (look : Nat) : m (Option (Except ε α)) :=
  attemptsFrom policy grow again sleep attempt policy.firstPause 0 look

/-- Makes attempts with pauses that grow by the factor of the policy. -/
def attempts (policy : RetryPolicy) (again : ε → Bool) (sleep : Duration → m Unit)
    (attempt : m (Except ε α)) (look : Nat) : m (Option (Except ε α)) :=
  attemptsBy policy (·.scale policy.factor) again sleep attempt look

end Attempts

end RetryPolicy

end SiteSearch
