import SiteSearch.Content.Model
import SiteSearch.Text.LetterCase
import SiteSearch.Text.Pieces
import SiteSearch.Text.Unsigned

/-!
# Names of collections

A collection is what one site offers to search, in one language. Readers and writers reach it under
an alias, `craftcms_en` for the site `en`. Behind the alias stands a generation, an index named
after the alias and the second in which it was made: `craftcms_en_1700000000`. What follows the
alias and the underscore has to be digits alone, so `craftcms_en_gb_1700000000` is no generation of
`craftcms_en`, although the pattern `craftcms_en_*` covers it.
-/
namespace SiteSearch

/-- A second of the wall clock, counted from 1970. -/
abbrev Timestamp := UInt64

/-- What is searched together: a site with its language. -/
structure CollectionKey where
  siteId : SiteId
  handle : String
  /-- A locale such as `en-US`. -/
  language : String
  deriving DecidableEq, Repr

/-- The first part of the locale, in lowercase: `en` of `en-US`. -/
def CollectionKey.languageId (key : CollectionKey) : String :=
  String.ofList (Text.lowercase (key.language.toList.takeWhile fun c => c != '-' && c != '_'))

/-- Names that begin with a full stop belong to the cluster itself. -/
def isSystemName (name : String) : Bool :=
  name.toList.head? = some '.'

/-- What every alias starts with. -/
structure IndexNames where
  stem : String
  deriving DecidableEq, Repr

namespace IndexNames

/-- The alias of a collection. -/
def aliasName (names : IndexNames) (key : CollectionKey) : String :=
  String.ofList (Text.lowercase (names.stem ++ "_" ++ key.handle).toList)

/-- The name of the generation made at a time. -/
def generationName (names : IndexNames) (key : CollectionKey) (time : Timestamp) : String :=
  names.aliasName key ++ "_" ++ Text.writeWord time

/-- A pattern that covers every generation of a collection, and more. -/
def generationPattern (names : IndexNames) (key : CollectionKey) : String :=
  names.aliasName key ++ "_*"

/-- When a generation of a collection was made; nothing for any other index. -/
def generationTime? (names : IndexNames) (key : CollectionKey) (index : String) :
    Option Timestamp :=
  (Text.stripPrefix? (names.aliasName key ++ "_").toList index.toList).bind Text.digitsWord?

/-- Whether an index is a generation of a collection. -/
def isGenerationOf (names : IndexNames) (key : CollectionKey) (index : String) : Bool :=
  (names.generationTime? key index).isSome

end IndexNames

end SiteSearch
