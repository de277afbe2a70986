import SiteSearch.Engine.Error
import SiteSearch.Json.Fields
import SiteSearch.Query.Rendering
import SiteSearch.Query.Token
import SiteSearch.Text.Blank

/-!
# Configuration

Where the cluster is, how to sign in, how indexes and fields are named, and how searches are asked.
`Config.ofJson?` reads it from an object: a missing setting takes its default, an unknown one is
ignored, and one of another type than its own is refused. `Config.validate` says what is missing
before a client can be made.
-/
namespace SiteSearch

/-- How a request shows who sends it. -/
inductive Authentication where
  /-- With a name and a password. -/
  | basic
  /-- With a signature; the name and password are an access key and its secret. -/
  | signed
  deriving DecidableEq, Repr

/-- The settings of an installation. -/
structure Config where
  /-- The addresses of the cluster, with commas between them. -/
  endpoint : String := ""
  authentication : Option Authentication := none
  username : String := ""
  password : String := ""
  /-- Where the cluster runs; a signature names it. -/
  region : Option String := none
  /-- Goes with an access key that is valid for a while only. -/
  sessionToken : Option String := none
  /-- What every alias starts with. -/
  indexName : String := "craftcms"
  /-- What every field name starts with. -/
  fieldStart : String := "craft_"
  boosts : List Query.Boost := []
  /-- The most hits of one search. -/
  maxResultWindow : UInt64 := 10000
  connectTimeoutMs : UInt64 := 5000
  requestTimeoutMs : UInt64 := 30000
  /-- The open ends of a term that is typed without stars. -/
  openEnds : Query.OpenEnds := {}
  deriving DecidableEq, Repr

namespace Config

/-! ## Reading -/

/-- Reads the name of a way to sign in; as an object, with null under the name. -/
def authentication? : Json → Option Authentication
  | .string "basicauth" => some .basic
  | .string "aws" => some .signed
  | .object [("basicauth", .null)] => some .basic
  | .object [("aws", .null)] => some .signed
  | _ => none

/-- Reads a boost; it has no defaults. -/
def boost? (j : Json) : Option Query.Boost := do
  if !j.holdsFields 2 then none
  else
    let handle ← j.need? "handle" 0 Json.string?
    let factor ← j.need? "boost" 1 Json.real?
    some ⟨handle, factor⟩

/-- Reads the open ends of a term. -/
def openEnds? (j : Json) : Option Query.OpenEnds := do
  if !j.holdsFields 2 then none
  else
    let left ← j.fieldOr? "sub_left" 0 Json.bool? false
    let right ← j.fieldOr? "sub_right" 1 Json.bool? true
    some ⟨left, right⟩

/-- Reads a configuration. -/
def ofJson? (j : Json) : Option Config := do
  if !j.holdsFields 13 then none
  else
    let endpoint ← j.fieldOr? "endpoint" 0 Json.string? ""
    let authentication ← j.fieldOr? "authentication" 1 (Json.nullable? authentication?) none
    let username ← j.fieldOr? "username" 2 Json.string? ""
    let password ← j.fieldOr? "password" 3 Json.string? ""
    let region ← j.fieldOr? "region" 4 (Json.nullable? Json.string?) none
    let sessionToken ← j.fieldOr? "session_token" 5 (Json.nullable? Json.string?) none
    let indexName ← j.fieldOr? "index_name" 6 Json.string? "craftcms"
    let fieldStart ← j.fieldOr? "field_prefix" 7 Json.string? "craft_"
    let boosts ← j.fieldOr? "field_boosts" 8 (Json.listOf? boost?) []
    let maxResultWindow ← j.fieldOr? "max_result_window" 9 Json.word? 10000
    let connectTimeoutMs ← j.fieldOr? "connect_timeout_ms" 10 Json.word? 5000
    let requestTimeoutMs ← j.fieldOr? "request_timeout_ms" 11 Json.word? 30000
    let openEnds ← j.fieldOr? "default_term_options" 12 openEnds? {}
    some
      { endpoint, authentication, username, password, region, sessionToken, indexName, fieldStart,
        boosts, maxResultWindow, connectTimeoutMs, requestTimeoutMs, openEnds }

/-! ## Writing -/

/-- The name of a way to sign in. -/
def authenticationName : Authentication → String
  | .basic => "basicauth"
  | .signed => "aws"

/-- The configuration as an object, without the boosts. -/
def toJson (config : Config) : Json :=
  .ofFields
    [ ("endpoint", .string config.endpoint),
      ("authentication", .ofOption (fun a => .string (authenticationName a)) config.authentication),
      ("username", .string config.username), ("password", .string config.password),
      ("region", .ofOption .string config.region),
      ("session_token", .ofOption .string config.sessionToken),
      ("index_name", .string config.indexName), ("field_prefix", .string config.fieldStart),
      ("max_result_window", .word config.maxResultWindow),
      ("connect_timeout_ms", .word config.connectTimeoutMs),
      ("request_timeout_ms", .word config.requestTimeoutMs),
      ("default_term_options", .ofFields
        [ ("sub_left", .bool config.openEnds.left), ("sub_right", .bool config.openEnds.right) ]) ]

/-! ## Use -/

/-- The addresses of the cluster, without blanks around them and slashes behind them. -/
def hosts (config : Config) : List String :=
  let pieces := Text.splitAt (· = ',') config.endpoint.toList
  (pieces.map fun piece => Text.trimEnd (· = '/') (Text.trim piece)).filterMap fun host =>
    if host.isEmpty then none else some (String.ofList host)

/-- Whether a text has nothing but blanks. -/
def isBlankText (text : String) : Bool :=
  (Text.trim text.toList).isEmpty

/-- What a client needs before it can be made. -/
def validate (config : Config) : Except ServiceError Unit :=
  if config.hosts.isEmpty then .error (.configuration "endpoint is not set")
  else if isBlankText config.indexName then .error (.configuration "index_name is not set")
  else if isBlankText config.fieldStart then .error (.configuration "field_prefix is not set")
  else
    match config.authentication with
    | none => .error (.configuration "No valid authentication method set")
    | some .basic => .ok ()
    | some .signed =>
      if isBlankText (config.region.getD "") then
        .error (.configuration "AWS authentication requires a region")
      else if config.username.isEmpty || config.password.isEmpty then
        .error (.configuration "AWS authentication requires an access key and secret")
      else .ok ()

/-- The boost of a handle. -/
def boostFor? (config : Config) (handle : String) : Option Binary64 :=
  (config.boosts.find? (·.handle == handle)).map (·.factor)

end Config

end SiteSearch
