/-!
# What can go wrong

`EngineError` says why the engine, or the way to it, refused a call. `ServiceError` says why an
operation of the service failed; `ofEngine` is the only way from the one to the other. A request
that the engine calls malformed becomes `badQuery`, which a search answers with no results.
-/
namespace SiteSearch

/-- Why an engine call failed. -/
inductive EngineError where
  /-- An alias, index or document that is not there. -/
  | notFound (what : String)
  /-- A request that the engine cannot make sense of. -/
  | badRequest (reason : String)
  /-- A request that contradicts what is there. -/
  | conflict (reason : String)
  /-- A request that is not allowed, such as a write to a blocked index. -/
  | forbidden (reason : String)
  | configuration (reason : String)
  /-- The request may not have reached the engine, or its answer was lost. -/
  | transport (reason : String)
  /-- Any other refusal, or an answer of an unexpected shape. -/
  | backend (reason : String)
  deriving DecidableEq, Repr

namespace EngineError

/-- The error in words. -/
def message : EngineError → String
  | notFound what => "Not found: " ++ what
  | badRequest reason => "Bad request: " ++ reason
  | conflict reason => "Conflict: " ++ reason
  | forbidden reason => "Forbidden: " ++ reason
  | configuration reason => "Configuration error: " ++ reason
  | transport reason => "Transport error: " ++ reason
  | backend reason => "Engine backend error: " ++ reason

/-- The name of the kind of error. -/
def kind : EngineError → String
  | notFound _ => "NotFound"
  | badRequest _ => "BadRequest"
  | conflict _ => "Conflict"
  | forbidden _ => "Forbidden"
  | configuration _ => "Configuration"
  | transport _ => "Transport"
  | backend _ => "Backend"

/-- The text that an error carries. -/
def detail : EngineError → String
  | notFound text | badRequest text | conflict text | forbidden text | configuration text
  | transport text | backend text => text

/-- The error of a kind; a name that is no kind stands for `backend`. -/
def ofKind (kind text : String) : EngineError :=
  match kind with
  | "NotFound" => notFound text
  | "BadRequest" => badRequest text
  | "Conflict" => conflict text
  | "Forbidden" => forbidden text
  | "Configuration" => configuration text
  | "Transport" => transport text
  | _ => backend text

/-- An error is known by its kind and its text. -/
theorem ofKind_kind (error : EngineError) : ofKind error.kind error.detail = error := by
  cases error <;> rfl

/-- Whether the same call may succeed when it is made again. -/
def isTransient : EngineError → Bool
  | transport _ => true
  | _ => false

end EngineError

/-- Why an operation of the service failed. -/
inductive ServiceError where
  | notFound (what : String)
  | configuration (reason : String)
  /-- The engine cannot make sense of the query. -/
  | badQuery (reason : String)
  /-- Some documents were not copied to the new index; the alias was not moved. -/
  | partialFailure (oldIndex newIndex : String) (failures : Nat)
  /-- The alias that should have been made is there already. -/
  | destinationExists (aliasName : String)
  | backend (reason : String)
  | transport (reason : String)
  deriving DecidableEq, Repr

namespace ServiceError

/-- The error in words. -/
def message : ServiceError → String
  | notFound what => "Not found: " ++ what
  | configuration reason => "Configuration error: " ++ reason
  | badQuery reason => "Bad query: " ++ reason
  | partialFailure oldIndex newIndex failures =>
    "Reindex of '" ++ oldIndex ++ "' into '" ++ newIndex ++ "' reported "
      ++ toString failures ++ " failures"
  | destinationExists aliasName => "Destination alias '" ++ aliasName ++ "' already exists"
  | backend reason => "Engine backend error: " ++ reason
  | transport reason => "Transport error: " ++ reason

/-- The name of the kind of error. -/
def kind : ServiceError → String
  | notFound _ => "NotFound"
  | configuration _ => "Configuration"
  | badQuery _ => "BadQuery"
  | partialFailure _ _ _ => "PartialFailure"
  | destinationExists _ => "DestinationExists"
  | backend _ => "Backend"
  | transport _ => "Transport"

/-- Whether something is merely not there. -/
def isNotFound : ServiceError → Bool
  | notFound _ => true
  | _ => false

/-- What an engine error means for the operation that made the call. -/
def ofEngine : EngineError → ServiceError
  | .notFound what => notFound what
  | .badRequest reason => badQuery reason
  | .configuration reason => configuration reason
  | .transport reason => transport reason
  | .conflict reason | .forbidden reason | .backend reason => backend reason

end ServiceError

end SiteSearch
