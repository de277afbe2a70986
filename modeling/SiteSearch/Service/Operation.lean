import SiteSearch.Connection.Config
import SiteSearch.Engine.Program
import SiteSearch.Field.Mapping
import SiteSearch.Field.SignatureCache
import SiteSearch.Query.Request
import SiteSearch.Service.Lock
import SiteSearch.Service.Metric

/-!
# Operations of the service

A service has a configuration, the content model, what it remembers, the locks it has handed out and
a clock. An `Operation` may read and change that state, make engine calls, and fail; what it has
changed before it fails stays changed.
-/
namespace SiteSearch

/-- What an observer of searches is told. -/
inductive SearchNotice where
  | before (key : CollectionKey) (tokens : List Query.Token) (scope : Option (List ElementId))
  | after (key : CollectionKey) (hits : List RankedHit)
  deriving DecidableEq, Repr

/-- Someone who is told about searches. -/
inductive Observer where
  /-- Keeps what it is told. -/
  | recording
  /-- Pays no attention. -/
  | silent
  deriving DecidableEq, Repr

/-- The state of a service. -/
structure Service where
  config : Config
  model : ContentModel
  /-- The wall clock, in seconds. -/
  now : Int
  memo : HandleMemo := .empty
  cache : SignatureCache := {}
  locks : Locks := {}
  hooks : List Query.Hook := []
  observers : List Observer := []
  /-- Searched when a search names no collection. -/
  defaultCollection : Option CollectionKey := none
  /-- What recording observers have been told, first notice first. -/
  notices : List SearchNotice := []
  /-- What has been told about the work, first event first. -/
  metrics : List MetricEvent := []

namespace Service

/-- How indexes are named. -/
def indexNames (service : Service) : IndexNames := ⟨service.config.indexName⟩

/-- How document fields are named. -/
def fieldNames (service : Service) : FieldNames := ⟨service.config.fieldStart, service.model⟩

/-- The mapping that the content model asks for. -/
def mapping (service : Service) : Mapping := .ofModel service.fieldNames

/-- The alias of a collection. -/
def aliasName (service : Service) (key : CollectionKey) : String :=
  service.indexNames.aliasName key

/-- How queries become requests. -/
def searchSettings (service : Service) : Query.SearchSettings :=
  { names := service.fieldNames
    boosts := service.config.boosts
    maxWindow := service.config.maxResultWindow.toNat
    hooks := service.hooks }

end Service

/-- A computation of the service that can fail. -/
abbrev Operation (α : Type) := ExceptT ServiceError (StateT Service Program) α

namespace Operation

variable {α : Type}

/-- Makes an engine call and looks at how it ends. -/
def attempt (call : EngineCall) : Operation call.Outcome :=
  ExceptT.lift (StateT.lift (Program.ask call))

/-- The answer of an engine call, or the failure that its refusal means. -/
def ofOutcome : Except EngineError α → Operation α
  | .ok a => pure a
  | .error e => throw (.ofEngine e)

/-- Makes an engine call that has to succeed. -/
def ask (call : EngineCall) : Operation call.Answer := do
  ofOutcome (← attempt call)

/-- How an operation ends. Asking for it never fails. -/
def outcome (operation : Operation α) : Operation (Except ServiceError α) :=
  ExceptT.lift operation.run

/-- Ends with an outcome. -/
def finish (result : Except ServiceError α) : Operation α :=
  match result with
  | .ok a => pure a
  | .error e => throw e

/-- Tells about the work. -/
def record (event : MetricEvent) : Operation Unit :=
  modify fun service => { service with metrics := service.metrics ++ [event] }

/-- The alias of a collection. -/
def aliasOf (key : CollectionKey) : Operation String := do
  pure ((← get).aliasName key)

/-- The mapping that the content model asks for. -/
def currentModelMapping : Operation Mapping := do
  pure (← get).mapping

/-! ## Remembered signatures -/

/-- Looks a signature up, counting the lookup. -/
def cachedSignature (key : CollectionKey) : Operation (Option Signature) := do
  let found := (← get).cache.peek? key
  modify fun service => { service with cache := service.cache.counted found.isSome }
  record (.signatureLookup found.isSome)
  pure found

/-- Changes what is remembered, and tells how much that is. -/
def changeCache (change : SignatureCache → SignatureCache) : Operation Unit := do
  modify fun service => { service with cache := change service.cache }
  record (.signatureEntries (← get).cache.size)

/-- Remembers a signature. -/
def rememberSignature (key : CollectionKey) (signature : Signature) : Operation Unit :=
  changeCache fun cache => cache.insert key signature

/-- Forgets a signature. -/
def forgetSignature (key : CollectionKey) : Operation Unit :=
  changeCache fun cache => cache.invalidate key

/-- Forgets all signatures. -/
def forgetSignatures : Operation Unit :=
  changeCache SignatureCache.clear

end Operation

end SiteSearch
