/-!
# Metrics

What the service tells about its work: counters that only grow, gauges that are set, and samples of
sizes and of times. Each is known by a name and by labels. How long something took is not part of an
event, only that it was timed.
-/
namespace SiteSearch

/-- Something that is told about the work of the service. -/
inductive MetricEvent where
  | count (name : String) (labels : List (String × String)) (amount : UInt64)
  | gauge (name : String) (value : Nat)
  | sample (name : String) (value : Nat)
  | timing (name : String) (labels : List (String × String))
  deriving DecidableEq, Repr

namespace MetricEvent

/-- An operation on an index has ended. -/
def lifecycle (operation status : String) : MetricEvent :=
  .count "elastic_sync_lifecycle_operations_total" [("operation", operation), ("status", status)] 1

/-- An operation on an index was timed. -/
def lifecycleTime (operation : String) : MetricEvent :=
  .timing "elastic_sync_lifecycle_seconds" [("operation", operation)]

/-- Documents were copied to a new index. -/
def reindexedDocuments (amount : UInt64) : MetricEvent :=
  .count "elastic_sync_reindexed_documents_total" [] amount

/-- Indexes were deleted. -/
def indexesDeleted (reason : String) (amount : Nat) : MetricEvent :=
  .count "elastic_sync_indices_deleted_total" [("reason", reason)] (UInt64.ofNat amount)

/-- A document was written or deleted. -/
def documentWrite (operation status : String) : MetricEvent :=
  .count "elastic_sync_document_writes_total" [("operation", operation), ("status", status)] 1

/-- The lock of an element was taken by someone else. -/
def lockContention : MetricEvent :=
  .count "elastic_sync_lock_contention_total" [] 1

/-- A search has ended. -/
def searchQuery (status : String) : MetricEvent :=
  .count "elastic_sync_search_queries_total" [("status", status)] 1

/-- A search was timed. -/
def searchTime : MetricEvent :=
  .timing "elastic_sync_search_seconds" []

/-- A search had so many results. -/
def searchResults (amount : Nat) : MetricEvent :=
  .sample "elastic_sync_search_results" amount

/-- A signature was looked up. -/
def signatureLookup (hit : Bool) : MetricEvent :=
  .count "elastic_sync_signature_cache_total" [("outcome", if hit then "hit" else "miss")] 1

/-- So many signatures are remembered. -/
def signatureEntries (amount : Nat) : MetricEvent :=
  .gauge "elastic_sync_signature_cache_entries" amount

/-- An operation for a site has ended. -/
def administration (operation : String) (success : Bool) : MetricEvent :=
  .count "elastic_sync_admin_operations_total"
    [("operation", operation), ("status", if success then "success" else "error")] 1

end MetricEvent

/-! ## Boards -/

/-- What a board shows under a name with labels. -/
inductive MetricValue where
  /-- The sum of what was counted. -/
  | total (amount : UInt64)
  /-- What was set last. -/
  | level (value : Nat)
  /-- All samples, first one first. -/
  | samples (values : List Nat)
  /-- How often something was timed. -/
  | timings (count : Nat)
  deriving DecidableEq, Repr

/-- Values by name and labels, in the order in which the names came up. -/
abbrev MetricBoard := List ((String × List (String × String)) × MetricValue)

/-- The board with a new value under a name with labels, made from the one that is there. -/
def MetricBoard.change (key : String × List (String × String))
    (f : Option MetricValue → MetricValue) : MetricBoard → MetricBoard
  | [] => [(key, f none)]
  | entry :: rest =>
    if entry.1 = key then (key, f (some entry.2)) :: rest else entry :: change key f rest

/-- The board after an event. -/
def MetricBoard.tell (board : MetricBoard) : MetricEvent → MetricBoard
  | .count name labels amount => board.change (name, labels) fun
    | some (.total sum) => .total (sum + amount)
    | _ => .total amount
  | .gauge name value => board.change (name, []) fun _ => .level value
  | .sample name value => board.change (name, []) fun
    | some (.samples values) => .samples (values ++ [value])
    | _ => .samples [value]
  | .timing name labels => board.change (name, labels) fun
    | some (.timings count) => .timings (count + 1)
    | _ => .timings 1

/-- The board of some events. -/
def MetricBoard.ofEvents (events : List MetricEvent) : MetricBoard :=
  events.foldl tell []

end SiteSearch
