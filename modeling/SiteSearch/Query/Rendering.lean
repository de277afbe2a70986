import SiteSearch.Binary64.Text
import SiteSearch.Field.Name
import SiteSearch.Query.Token
import SiteSearch.Text.Blank

/-!
# Query strings

The engine is asked in a query language of its own: `+word` must occur, `-word` must not, `"…"` is
a phrase, `field:` limits what follows to a field, and a star stands for any text. A term with a
hyphen is written as a phrase. A phrase carries no sign and no stars. Groups have no written form
and are left out.
-/
namespace SiteSearch.Query

/-- Whether a term is written between quotation marks. -/
def Term.isQuoted (term : Term) : Bool :=
  term.phrase || term.text.toList.contains '-'

/-- The limit to a field in front of a term. -/
def Term.scopeText (names : FieldNames) (term : Term) : List Char :=
  match term.scope with
  | none => []
  | some handle => (names.ofHandle handle).toList ++ [':']

/-- The written form of a term. -/
def Term.render (names : FieldNames) (term : Term) : List Char :=
  let text := Text.trim term.text.toList
  let scope := term.scopeText names
  if term.isQuoted then scope ++ '"' :: text ++ ['"']
  else
    (if term.openLeft then ['*'] else [])
      ++ (if term.exclude then '-' else '+') :: scope ++ text
      ++ (if term.openRight then ['*'] else [])

/-- The written form of a token, if it has one. -/
def Token.render? (names : FieldNames) : Token → Option (List Char)
  | .term t => some (t.render names)
  | .group _ => none

/-- The written form of a query. -/
def queryString (names : FieldNames) (tokens : List Token) : String :=
  String.ofList (Text.joinWith [' '] (tokens.filterMap (Token.render? names)))

/-- How much more a match in the field of a handle counts. -/
structure Boost where
  handle : String
  factor : Binary64
  deriving DecidableEq, Repr

/-- The fields that are searched: all of them, then those that count more with their factor. -/
def searchedFields (names : FieldNames) (boosts : List Boost) : List String :=
  "*" :: boosts.map fun boost => names.ofHandle boost.handle ++ "^" ++ boost.factor.positional

end SiteSearch.Query
