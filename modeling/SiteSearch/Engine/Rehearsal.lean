import SiteSearch.Engine.Journal

/-!
# Rehearsing engine calls

A rehearsal stands in front of an engine. It keeps a journal of the calls, it can reply to a call
itself from what was laid out for calls of that name, and it can let a writer come in late: the
calls of such a writer are made right before the next copy from index to index.
-/
namespace SiteSearch

/-- A reply that is laid out for a call; without one the engine is asked. -/
abbrev LaidOutReply := (call : EngineCall) → Option call.Outcome

/-- An engine with what stands in front of it. -/
structure Rehearsal (σ : Type) where
  engine : σ
  /-- The calls that came in, first one first. -/
  journal : List EngineCall := []
  /-- What is laid out for the calls of a name; each call takes the first. -/
  replies : NameMap (List LaidOutReply) := {}
  /-- Calls that wait for the next copy. -/
  late : List EngineCall := []
  /-- Late calls that have been made, with their outcomes. -/
  lateOutcomes : List ((call : EngineCall) × call.Outcome) := []

namespace Rehearsal

variable {σ : Type}

/-- Lays out replies behind those there are. -/
def layOut (rehearsal : Rehearsal σ) (name : String) (replies : List LaidOutReply) : Rehearsal σ :=
  let waiting := (rehearsal.replies.get? name).getD []
  { rehearsal with replies := rehearsal.replies.insert name (waiting ++ replies) }

/-- Asks the engine. -/
def pass (answer : Engine σ) (call : EngineCall) (rehearsal : Rehearsal σ) :
    call.Outcome × Rehearsal σ :=
  let (outcome, engine) := answer call rehearsal.engine
  (outcome, { rehearsal with engine })

/-- Makes the late calls. -/
def makeLate (answer : Engine σ) (rehearsal : Rehearsal σ) : Rehearsal σ :=
  rehearsal.late.foldl
    (fun rehearsal call =>
      let (outcome, rehearsal) := pass answer call rehearsal
      { rehearsal with lateOutcomes := rehearsal.lateOutcomes ++ [⟨call, outcome⟩] })
    { rehearsal with late := [] }

/-- Puts a call in the journal; right before a copy the late calls are made. -/
def announce (answer : Engine σ) (call : EngineCall) (rehearsal : Rehearsal σ) : Rehearsal σ :=
  let noted := { rehearsal with journal := rehearsal.journal ++ [call] }
  match call with
  | .reindex _ => noted.makeLate answer
  | _ => noted

/-- Answers a call, with the reply that is laid out or else by the engine. -/
def answer (inner : Engine σ) : Engine (Rehearsal σ) := fun call rehearsal =>
  let rehearsal := announce inner call rehearsal
  match rehearsal.replies.get? call.name with
  | none | some [] => pass inner call rehearsal
  | some (reply :: rest) =>
    let rehearsal := { rehearsal with replies := rehearsal.replies.insert call.name rest }
    match reply call with
    | some outcome => (outcome, rehearsal)
    | none => pass inner call rehearsal

end Rehearsal

end SiteSearch
