import SiteSearch.Engine.Memory.Store

/-!
# Indexes, aliases, settings and mappings in memory

What the engine in memory does with indexes themselves. Every operation takes a store and gives the
store it leaves, or says why it is refused; a refused operation leaves nothing behind.
-/
namespace SiteSearch.Store

/-! ## Reading bodies -/

/-- Whether settings set or lift the block for writers: by the full name of the setting, or by the
nested one where the full name is missing. -/
def blockSetting? (settings : Json) : Option Bool :=
  match settings.field? "index.blocks.write" with
  | some value => value.bool?
  | none => (settings.path? ["index", "blocks", "write"]).bind Json.bool?

/-- The aliases that a body gives to a new index, each with its mark. -/
def bodyAliases (body : Json) : NameMap Bool :=
  match (body.field? "aliases").bind Json.map? with
  | none => {}
  | some aliases =>
    aliases.mapValues fun _ spec => ((spec.field? "is_write_index").bind Json.bool?).getD false

/-- The index that a body describes, without documents. -/
def indexOfBody (body : Json) : StoredIndex :=
  let settings := (body.field? "settings").bind Json.map?
  { settings := settings.getD {}
    properties := ((body.path? ["mappings", "properties"]).bind Json.map?).getD {}
    aliases := bodyAliases body
    writeBlocked := (settings.bind fun s => blockSetting? (.ofMap s)).getD false }

/-! ## Indexes -/

/-- Makes an index; its name must be neither an index nor an alias. -/
def createIndex (store : Store) (name : String) (body : Json) : Except EngineError Store :=
  if store.contains name then .error (indexExists name)
  else if !(store.carriers name).isEmpty then
    .error (.badRequest
      ("invalid_index_name_exception: [" ++ name ++ "] already exists as alias"))
  else .ok (store.insert name (indexOfBody body))

/-- Deletes an index with its documents and aliases. -/
def deleteIndex (store : Store) (name : String) : Except EngineError Store :=
  if store.contains name then .ok (store.erase name) else .error (noSuchIndex name)

/-- Copies an index that is blocked for writing; the copy is not blocked. -/
def cloneIndex (store : Store) (source target : String) (body : Json) :
    Except EngineError Store := do
  let index ← store.index? source
  if !index.writeBlocked then
    .error (.badRequest ("index " ++ source
      ++ " must be read-only to resize index. use \"index.blocks.write=true\""))
  else if store.contains target then .error (indexExists target)
  else .ok (store.insert target { index with aliases := bodyAliases body, writeBlocked := false })

/-- Whether a name is covered by a pattern that ends in a star. -/
def patternCovers (pattern name : String) : Bool :=
  Text.startsWith pattern.toList.dropLast name.toList

/-- The indexes under a pattern or name. -/
def describe (store : Store) (pattern : String) : Except EngineError (List IndexDescription) := do
  let names ←
    if pattern.toList.getLast? = some '*' then .ok (store.names.filter (patternCovers pattern))
    else store.readTargets pattern
  .ok (names.filterMap fun name =>
    (store.get? name).map fun index => ⟨name, index.aliases.names⟩)

/-! ## Aliases -/

/-- Whether an index carries an alias. -/
def aliasExists (store : Store) (aliasName : String) : Bool :=
  !(store.carriers aliasName).isEmpty

/-- The indexes that carry an alias; at least one has to. -/
def aliasTargets (store : Store) (aliasName : String) : Except EngineError (List String) :=
  match store.carriers aliasName with
  | [] => .error (.notFound ("alias [" ++ aliasName ++ "] missing"))
  | targets => .ok targets

/-- Gives an alias to an index; one that it carries already stays as it is. -/
def putAlias (store : Store) (name aliasName : String) : Except EngineError Store := do
  if store.contains aliasName then
    .error (.badRequest ("invalid_alias_name_exception: an index exists with the same name as "
      ++ "the alias [" ++ aliasName ++ "]"))
  else
    let index ← store.index? name
    if index.aliases.contains aliasName then .ok store
    else .ok (store.insert name { index with aliases := index.aliases.insert aliasName false })

/-- Takes an alias from an index. -/
def deleteAlias (store : Store) (name aliasName : String) : Except EngineError Store := do
  let index ← store.index? name
  if index.aliases.contains aliasName then
    .ok (store.insert name { index with aliases := index.aliases.erase aliasName })
  else .error (.notFound ("aliases [" ++ aliasName ++ "] missing"))

/-! ## Settings and mappings -/

/-- An index with settings put over its own. -/
def withSettings (settings : Json) (index : StoredIndex) : StoredIndex :=
  { index with
    writeBlocked := (blockSetting? settings).getD index.writeBlocked
    settings := ((settings.object?).getD []).foldl (fun m e => m.insert e.1 e.2) index.settings }

/-- Puts settings over those of every index under a name. -/
def putSettings (store : Store) (name : String) (settings : Json) : Except EngineError Store := do
  let targets ← store.readTargets name
  .ok (store.modifyAll targets (withSettings settings))

/-- The settings of one index; the block for writers is told as a text. -/
def getSettings (store : Store) (name : String) : Except EngineError Json := do
  let index ← store.index? name
  let block := if index.writeBlocked then "true" else "false"
  .ok (.ofMap (index.settings.insert "index.blocks.write" (.string block)))

/-- The properties of the first index under a name. -/
def getMapping (store : Store) (name : String) : Except EngineError Json := do
  let targets ← store.readTargets name
  match store.indexesOf (targets.take 1) with
  | index :: _ => .ok (.ofMap index.properties)
  | [] => .ok (.ofMap {})

/-- Whether two fields are described with one type, or both without one. -/
def sameType (held spec : Json) : Bool :=
  match held.field? "type", spec.field? "type" with
  | some a, some b => a.equals b
  | none, none => true
  | _, _ => false

/-- The first field among the new ones that an index has with another type, with both types. -/
def typeConflict? (index : StoredIndex) (fields : List (String × Json)) :
    Option (String × Json × Json) :=
  fields.findSome? fun (name, spec) =>
    (index.properties.get? name).bind fun held =>
      if sameType held spec then none
      else some (name, held.fieldD "type", spec.fieldD "type")

/-- The refusal to change the type of a field. -/
def typeConflictError (conflict : String × Json × Json) : EngineError :=
  .badRequest ("illegal_argument_exception: mapper [" ++ conflict.1
    ++ "] cannot be changed from type [" ++ conflict.2.1.compact ++ "] to ["
    ++ conflict.2.2.compact ++ "]")

/-- An index with properties put over its own. -/
def withProperties (fields : List (String × Json)) (index : StoredIndex) : StoredIndex :=
  { index with properties := fields.foldl (fun m e => m.insert e.1 e.2) index.properties }

/-- Adds properties to every index under a name, or to none of them: no field may change its
type. -/
def putMapping (store : Store) (name : String) (properties : Json) :
    Except EngineError Store := do
  match properties.object? with
  | none => .error (.badRequest "mapping properties must be an object")
  | some fields =>
    let targets ← store.readTargets name
    match (store.indexesOf targets).findSome? (typeConflict? · fields) with
    | some conflict => .error (typeConflictError conflict)
    | none => .ok (store.modifyAll targets (withProperties fields))

/-! ## Lists -/

/-- How much the first index under a name holds. -/
def indexStats (store : Store) (name : String) : Except EngineError IndexStats := do
  match ← store.readTargets name with
  | [] => .error (.notFound name)
  | target :: _ =>
    match store.get? target with
    | none => .error (.notFound target)
    | some index =>
      .ok ⟨target, UInt64.ofNat index.documents.size, UInt64.ofNat index.bytes⟩

/-- Every alias with the index that carries it. -/
def aliasRows (store : Store) : List AliasRow :=
  store.entries.flatMap fun (name, index) => index.aliases.names.map fun a => ⟨a, name⟩

/-- Every index with its size. -/
def indexRows (store : Store) : List IndexRow :=
  store.entries.map fun (name, index) =>
    { health := "green"
      status := "open"
      index := name
      documents := some (toString index.documents.size)
      size := some (toString index.bytes ++ "b") }

end SiteSearch.Store
