import SiteSearch.Engine.Journal
import SiteSearch.Service.Alias

/-!
# Looking at the cluster

Lists and sizes of indexes, single documents, and what an analyzer makes of a text.
-/
namespace SiteSearch

/-- The aliases and indexes of a cluster. -/
structure IndexListing where
  aliases : List AliasRow
  indexes : List IndexRow
  deriving DecidableEq, Repr

/-- The listing as JSON. -/
def IndexListing.toJson (listing : IndexListing) : Json :=
  .ofFields
    [ ("aliases", .array (listing.aliases.map AliasRow.toJson)),
      ("indexes", .array (listing.indexes.map IndexRow.toJson)) ]

namespace Operation

/-- The aliases and indexes of the cluster, with or without those of its own. -/
def listAll (includeSystem : Bool) : Operation IndexListing := do
  let keep (name : String) : Bool := includeSystem || !isSystemName name
  let aliases : List AliasRow ← ask .catAliases
  let indexes : List IndexRow ← ask .catIndices
  pure ⟨aliases.filter fun row => keep row.aliasName, indexes.filter fun row => keep row.index⟩

/-- The size of the newest index of a collection. -/
def stats (key : CollectionKey) : Operation IndexStats := do
  let index ← resolveAlias (← aliasOf key)
  ask (.indexStats index)

/-- The document of an element. -/
def sourceOf (id : ElementId) (key : CollectionKey) : Operation Json := do
  ask (.getSource (← aliasOf key) (Text.writeWord id))

/-- The tokens that the analyzer of a collection makes of a text. -/
def analyze (text : String) (key : CollectionKey) : Operation (List AnalyzedToken) := do
  let body : Json := .ofFields [("analyzer", .string "standard_stopwords"), ("text", .string text)]
  ask (.analyze (← aliasOf key) body)

end Operation

end SiteSearch
