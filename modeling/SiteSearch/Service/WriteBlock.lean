import SiteSearch.Service.Operation

/-!
# Keeping writers out

While an index is copied nothing may be written to it. `whileBlocked` blocks an index, runs an
operation and lifts the block again, whether the operation succeeds or fails; an index that was
blocked before stays blocked.
-/
namespace SiteSearch.Operation

variable {α : Type}

/-- Whether settings say that an index is blocked for writing. -/
def saysBlocked (settings : Json) : Bool :=
  match settings.field? "index.blocks.write" with
  | some (.bool blocked) => blocked
  | some (.string blocked) => blocked = "true"
  | _ => false

/-- Whether an index is blocked for writing. -/
def isBlocked (index : String) : Operation Bool := do
  let settings : Json ← ask (.getSettings index)
  pure (saysBlocked settings)

/-- Blocks an index for writing, or lifts the block. -/
def setBlock (index : String) (blocked : Bool) : Operation Unit :=
  ask (.putSettings index (.ofFields [("index.blocks.write", .bool blocked)]))

/-- What an operation and the lifting of the block behind it come to: the failure of the operation
counts before that of the lifting. -/
def bothOutcomes : Except ServiceError α → Except ServiceError Unit → Except ServiceError α
  | .ok value, .ok () => .ok value
  | .error e, _ => .error e
  | .ok _, .error e => .error e

/-- Runs an operation while an index is blocked for writing. -/
def whileBlocked (index : String) (operation : Operation α) : Operation α := do
  let wasBlocked ← isBlocked index
  if wasBlocked then operation
  else do
    setBlock index true
    let result ← outcome operation
    let lifted ← outcome (setBlock index false)
    finish (bothOutcomes result lifted)

end SiteSearch.Operation
