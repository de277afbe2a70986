import SiteSearch.Service.Operation

/-!
# Keeping mappings up to date

The content model changes while indexes stay. A field that is new can be added to the mapping of an
index in place. A field that is gone cannot be taken out; that needs a reindex, which is reported
and never done by itself.
-/
namespace SiteSearch

/-- What a look for drift came to. -/
inductive MappingSync where
  | inSync
  /-- New fields were added in place. -/
  | patched (added : List String)
  /-- Fields are gone; nothing was changed. -/
  | requiresReindex (removed added : List String)
  deriving DecidableEq, Repr

/-- Whether a reindex is needed. -/
def MappingSync.needsReindex : MappingSync → Bool
  | requiresReindex _ _ => true
  | _ => false

/-- The outcome as JSON. -/
def MappingSync.toJson : MappingSync → Json
  | inSync => .string "InSync"
  | patched added => .ofFields [("Patched", .ofFields [("added", .strings added)])]
  | requiresReindex removed added =>
    .ofFields
      [("RequiresReindex", .ofFields [("removed", .strings removed), ("added", .strings added)])]

namespace Operation

/-- The properties that the index of a collection has. -/
def currentMapping (key : CollectionKey) : Operation Json := do
  ask (.getMapping (← aliasOf key))

/-- Adds the fields of the content model to the mapping of a collection. -/
def updateMapping (key : CollectionKey) : Operation Signature := do
  let aliasName ← aliasOf key
  let mapping ← currentModelMapping
  match ← attempt (.putMapping aliasName mapping.properties) with
  | .error e =>
    record (.lifecycle "update_mapping" "error")
    throw (.ofEngine e)
  | .ok _ =>
    rememberSignature key mapping.signature
    record (.lifecycle "update_mapping" "success")
    pure mapping.signature

/-- The signature of what is indexed, as it is remembered or as the engine tells it. -/
def indexedSignature (key : CollectionKey) : Operation Signature := do
  match ← cachedSignature key with
  | some signature => pure signature
  | none =>
    let live := Signature.ofProperties (← currentMapping key)
    rememberSignature key live
    pure live

/-- What changes from what is indexed to what the content model asks for. -/
def signatureDiff (key : CollectionKey) : Operation SignatureDiff := do
  let current ← indexedSignature key
  pure (current.diff (← currentModelMapping).signature)

/-- Adds new fields in place, unless fields are gone. -/
def syncMapping (key : CollectionKey) : Operation MappingSync := do
  let diff ← signatureDiff key
  if diff.requiresReindex then pure (.requiresReindex diff.removed diff.added)
  else if diff.isEmpty then pure .inSync
  else do
    let _ ← updateMapping key
    pure (.patched diff.added)

end Operation

end SiteSearch
