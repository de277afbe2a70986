import SiteSearch.Json.Basic

/-!
# Search queries

A query is a list of tokens. A token is a term, or a group of terms of which one is enough. A term
may be left out of the results instead of asked for, may be a phrase, may look into one attribute
only, and may be open at either end: then it stands for every word that ends or begins with it.
-/
namespace SiteSearch.Query

/-- One term of a query. -/
structure Term where
  text : String
  /-- Handle of the attribute or custom field to look into; everywhere if there is none. -/
  scope : Option String := none
  /-- Whether documents with the term are left out. -/
  exclude : Bool := false
  phrase : Bool := false
  /-- Whether other text may stand before the term. -/
  openLeft : Bool := false
  /-- Whether other text may stand after the term. -/
  openRight : Bool := false
  deriving DecidableEq, Repr

/-- One token of a query. -/
inductive Token where
  | term (term : Term)
  /-- Alternatives. -/
  | group (terms : List Term)
  deriving DecidableEq, Repr

/-- The term as JSON. -/
def Term.toJson (term : Term) : Json :=
  .ofFields
    [ ("term", .string term.text), ("attribute", .ofOption .string term.scope),
      ("exclude", .bool term.exclude), ("phrase", .bool term.phrase),
      ("sub_left", .bool term.openLeft), ("sub_right", .bool term.openRight) ]

/-- The token as JSON, under the name of its kind. -/
def Token.toJson : Token → Json
  | term t => .ofFields [("Term", t.toJson)]
  | group ts => .ofFields [("Group", .array (ts.map Term.toJson))]

/-- The terms of a token. -/
def Token.terms : Token → List Term
  | .term t => [t]
  | .group ts => ts

/-- Which ends are open of a term that is written without quotes and stars. -/
structure OpenEnds where
  left : Bool := false
  right : Bool := true
  deriving DecidableEq, Repr

/-- Ends that are closed unless a star is written. -/
def OpenEnds.closed : OpenEnds := ⟨false, false⟩

/-- A plain term with both ends closed. -/
def Term.plain (text : String) : Term := { text }

/-- A phrase. -/
def Term.ofPhrase (text : String) : Term := { text, phrase := true }

end SiteSearch.Query
