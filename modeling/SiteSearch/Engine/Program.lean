import SiteSearch.Engine.Call

/-!
# Programs over engine calls

An operation of the service is a `Program`: it is done, or it makes one engine call and goes on
according to how the call ends. A program does not say which engine answers. `run` lets an engine
with a state answer all of its calls; between two calls anything else may happen to that state, and
a call may be refused, so a program can be looked at call by call.
-/
namespace SiteSearch

/-- A computation that makes engine calls. -/
inductive Program (α : Type) where
  | done (result : α)
  | call (call : EngineCall) (next : call.Outcome → Program α)

namespace Program

variable {α β γ σ : Type}

/-- One program after another. -/
def bind : Program α → (α → Program β) → Program β
  | done a, f => f a
  | call c next, f => call c fun outcome => (next outcome).bind f

instance : Monad Program where
  pure := done
  bind := bind

/-- One engine call. -/
def ask (c : EngineCall) : Program c.Outcome :=
  call c done

@[simp]
theorem bind_eq (p : Program α) (f : α → Program β) : p >>= f = p.bind f := rfl

@[simp]
theorem pure_eq (a : α) : (pure a : Program α) = done a := rfl

@[simp]
theorem bind_done (p : Program α) : p.bind done = p := by
  induction p with
  | done a => rfl
  | call c next ih => simp [bind, ih]

theorem bind_assoc (p : Program α) (f : α → Program β) (g : β → Program γ) :
    (p.bind f).bind g = p.bind fun a => (f a).bind g := by
  induction p with
  | done a => rfl
  | call c next ih => simp [bind, ih]

/-- The result of a program when an engine answers its calls, and the state that is left. -/
def run (engine : Engine σ) : Program α → σ → α × σ
  | done a, s => (a, s)
  | call c next, s =>
    let (outcome, s) := engine c s
    run engine (next outcome) s

/-- Running one program after another runs the second from the state that the first leaves. -/
theorem run_bind (engine : Engine σ) (p : Program α) (f : α → Program β) (s : σ) :
    (p.bind f).run engine s = (f (p.run engine s).1).run engine (p.run engine s).2 := by
  induction p generalizing s with
  | done a => rfl
  | call c next ih => simp [bind, run, ih]

end Program

end SiteSearch
