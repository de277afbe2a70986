import SiteSearch.Engine.Memory.Document
import SiteSearch.Engine.Memory.Index
import SiteSearch.Field.Mapping
import SiteSearch.Service.Lifecycle

/-!
# How the engine in memory reads the service's bodies

The service writes its requests as JSON and the engine in memory reads them again. Here is what it
reads: which aliases a new index is given, and which copy is asked for.
-/

namespace SiteSearch

namespace Json

/-- A field of an object is looked up among the fields that it was made of. -/
theorem field?_ofFields {fields : List (String × Json)} {name : String} :
    (ofFields fields).field? name = (NameMap.ofList fields).get? name := rfl

theorem map?_ofFields {fields : List (String × Json)} :
    (ofFields fields).map? = some (NameMap.ofList (NameMap.ofList fields).entries) := rfl

end Json

namespace Store

/-- A new index is made without aliases. -/
theorem bodyAliases_indexBody {key : CollectionKey} {mapping : Mapping} :
    bodyAliases (indexBody key mapping) = {} := by
  have hnone : (indexBody key mapping).field? "aliases" = none := by
    rw [indexBody, Json.field?_ofFields]
    simp [NameMap.ofList, NameMap.get?_insert]
  rw [bodyAliases, hnone]
  rfl

theorem contains_aliases_indexOfBody {key : CollectionKey} {mapping : Mapping} {a : String} :
    (indexOfBody (indexBody key mapping)).aliases.contains a = false := by
  rw [indexOfBody, bodyAliases_indexBody]
  rfl

/-- A new index is made without a block. -/
theorem writeBlocked_indexOfBody {key : CollectionKey} {mapping : Mapping} :
    (indexOfBody (indexBody key mapping)).writeBlocked = false := by
  have hsettings : (indexBody key mapping).field? "settings" = some (analyzerSettings key) := by
    rw [indexBody, Json.field?_ofFields]
    simp [NameMap.ofList, NameMap.get?_insert]
  rw [indexOfBody, hsettings, Option.bind_some, analyzerSettings, Json.map?_ofFields]
  rfl

/-- A clone is bound to the one alias that it was asked to be bound to, and marked there as the index
that is written to. -/
theorem bodyAliases_cloneBody {a : String} :
    bodyAliases (cloneBody a) = NameMap.insert {} a true := by
  have hsome : (cloneBody a).field? "aliases" =
      some (.ofFields [(a, .ofFields [("is_write_index", .bool true)])]) := by
    rw [cloneBody, Json.field?_ofFields]
    simp [NameMap.ofList, NameMap.get?_insert]
  have hmark : (Json.ofFields [("is_write_index", .bool true)]).field? "is_write_index" =
      some (.bool true) := by
    simp [Json.field?_ofFields, NameMap.ofList, NameMap.get?_insert]
  refine NameMap.ext_get? fun b => ?_
  rw [bodyAliases, hsome, Option.bind_some, Json.map?_ofFields]
  show NameMap.get? (NameMap.mapValues _ (NameMap.insert {} a _)) b = _
  rw [NameMap.get?_mapValues, NameMap.get?_insert, NameMap.get?_insert]
  split
  · rw [Option.map_some, hmark]
    rfl
  · rfl

theorem contains_bodyAliases_cloneBody {a b : String} :
    (bodyAliases (cloneBody a)).contains b = true ↔ a = b := by
  have hempty : NameMap.contains (α := Bool) {} b = false := rfl
  rw [bodyAliases_cloneBody, NameMap.contains_insert, hempty]
  simp

/-- The copy that a move asks for. -/
theorem ofBody_copyBody {old new : String} {fields : List String} :
    CopyRequest.ofBody (copyBody old new fields) = .ok ⟨old, new, some fields⟩ := by
  have hsource : (copyBody old new fields).path? ["source", "index"] = some (.string old) := by
    simp [copyBody, Json.path?, Json.field?_ofFields, NameMap.ofList, NameMap.get?_insert]
  have hkept : (copyBody old new fields).path? ["source", "_source"] = some (.strings fields) := by
    simp [copyBody, Json.path?, Json.field?_ofFields, NameMap.ofList, NameMap.get?_insert]
  have hdest : (copyBody old new fields).path? ["dest", "index"] = some (.string new) := by
    simp [copyBody, Json.path?, Json.field?_ofFields, NameMap.ofList, NameMap.get?_insert]
  have hstrings : (fields.map Json.string).filterMap Json.string? = fields := by
    rw [List.filterMap_map]
    exact List.filterMap_some
  simp only [CopyRequest.ofBody, hsource, hdest, hkept, Option.bind_some, Json.string?,
    Json.strings, Json.array?, Option.map_some, hstrings]

/-- Settings that set or lift the block say so. -/
theorem blockSetting?_block {blocked : Bool} :
    blockSetting? (.ofFields [("index.blocks.write", .bool blocked)]) = some blocked := by
  have hfield : (Json.ofFields [("index.blocks.write", .bool blocked)]).field?
      "index.blocks.write" = some (.bool blocked) := by
    simp [Json.field?_ofFields, NameMap.ofList, NameMap.get?_insert]
  rw [blockSetting?, hfield]
  rfl

end Store

end SiteSearch
