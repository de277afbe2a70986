import SiteSearch.Engine.Memory.Condition
import SiteSearch.Engine.Memory.Store

/-!
# Searching in memory

A search looks at every document that a reader reaches, keeps those that meet its condition, and
answers with the best of them. Documents with equal scores stay in the order of the indexes and of
their ids.
-/
namespace SiteSearch.Store

/-- What a search asks for. -/
structure SearchSpec where
  condition : Condition
  /-- The most hits to answer with. -/
  size : Nat
  /-- Whether the documents themselves are answered with. -/
  withSource : Bool

/-- What the body of a search asks for. -/
def SearchSpec.ofBody (body : Json) : SearchSpec where
  condition :=
    match body.field? "query" with
    | some query => .ofJson query
    | none => .all
  size := (((body.field? "size").bind Json.word?).map UInt64.toNat).getD 10
  withSource := body.field? "stored_fields" ≠ some (.array [])

/-- The hit of one document, if it meets the condition. -/
def hitOf (spec : SearchSpec) (document : String × Json) :
    Except EngineError (Option SearchHit) := do
  match ← spec.condition.score document.1 document.2 with
  | none => .ok none
  | some score =>
    .ok (some ⟨document.1, some score, if spec.withSource then some document.2 else none⟩)

/-- The score of a hit; a missing one is zero. -/
def hitScore (hit : SearchHit) : Binary64 := hit.score.getD .zero

/-- The hits of a search, best first, and only as many as were asked for. -/
def search (store : Store) (name : String) (body : Json) : Except EngineError SearchReply := do
  let targets ← store.readTargets name
  let spec := SearchSpec.ofBody body
  let documents := (store.indexesOf targets).flatMap fun index => index.documents.entries
  let found ← documents.mapM (hitOf spec)
  let hits := (found.filterMap id).mergeSort fun a b => !(hitScore a).lt (hitScore b)
  .ok ⟨0, UInt64.ofNat hits.length, hits.take spec.size⟩

end SiteSearch.Store
