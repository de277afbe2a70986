import SiteSearch.Url.Escape
import SiteSearch.Url.Host

/-!
# Addresses

An absolute address: a scheme, mostly a host, a path, and perhaps a query and a fragment. All parts
are kept as they are written, with their escapes. `withSegments` goes on to a place below an
address and `withPairs` asks something of it, so that no text that is put in can be taken for a
separator.
-/
namespace SiteSearch

/-- The path of an address. -/
inductive UrlPath where
  /-- A text without segments, behind a scheme that has no host. -/
  | whole (text : String)
  /-- Segments, with a slash in front of each. -/
  | segments (names : List String)
  deriving DecidableEq, Repr

/-- An absolute address. -/
structure Url where
  scheme : String
  username : String := ""
  password : String := ""
  host : Option Host := none
  /-- Only where it differs from the scheme's usual one. -/
  port : Option Nat := none
  path : UrlPath
  query : Option String := none
  fragment : Option String := none
  deriving DecidableEq, Repr

namespace Url

/-- The special schemes that have a host always. -/
def webSchemes : List String := ["http", "https", "ws", "wss", "ftp"]

/-- Whether a scheme is special. -/
def isSpecialScheme (scheme : String) : Bool :=
  scheme = "file" || webSchemes.contains scheme

/-- The port that an address of a scheme means when it names none. -/
def usualPort? (scheme : String) : Option Nat :=
  match scheme with
  | "http" | "ws" => some 80
  | "https" | "wss" => some 443
  | "ftp" => some 21
  | _ => none

/-! ## Writing -/

/-- The host and the port. -/
def hostText (url : Url) : String :=
  let host := (url.host.map Host.text).getD ""
  match url.port with
  | some port => host ++ ":" ++ String.ofList (Text.decimal port)
  | none => host

/-- The name and password in front of the host. -/
def userText (url : Url) : String :=
  if url.username.isEmpty && url.password.isEmpty then ""
  else if url.password.isEmpty then url.username ++ "@"
  else url.username ++ ":" ++ url.password ++ "@"

/-- A path. -/
def pathText : UrlPath → String
  | .whole text => text
  | .segments names => String.join (names.map fun name => "/" ++ name)

/-- What is between the scheme and the path: with a host all of it, without one something that
keeps a path with an empty first segment from looking like a host. -/
def authorityText (url : Url) : String :=
  match url.host, url.path with
  | some _, _ => "//" ++ url.userText ++ url.hostText
  | none, .segments ("" :: _ :: _) => "/."
  | none, _ => ""

/-- The address as text. -/
def text (url : Url) : String :=
  url.scheme ++ ":" ++ url.authorityText ++ pathText url.path
    ++ (url.query.map fun query => "?" ++ query).getD ""
    ++ (url.fragment.map fun fragment => "#" ++ fragment).getD ""

/-! ## Going on from an address -/

/-- Whether a character is left out of what is put into an address. -/
def isIgnored (c : Char) : Bool :=
  c = '\t' || c = '\n' || c = '\r'

/-- Whether a text is the name of a drive: a letter with a colon or a bar. -/
def isDrive : List Char → Bool
  | [letter, mark] => letter.isAlpha && (mark = ':' || mark = '|')
  | _ => false

/-- Whether a segment begins with the name of a drive, with nothing or a backslash behind it. -/
def beginsWithDrive (segment : List Char) : Bool :=
  isDrive (segment.take 2) && (segment.drop 2).head?.all (· = '\\')

/-- A path up to the parent of its last segment; a drive has no parent. -/
def parent (names : List String) : List String :=
  if names.getLast?.any fun name => beginsWithDrive name.toList then names else names.dropLast

/-- Puts a segment behind a path: into the last place if the path has only an empty one. -/
def pushSegment (names : List String) (name : String) : List String :=
  if names = [] || names = [""] then [name] else names ++ [name]

/-- Puts a name behind a path. A name of one or two dots would be taken for a way through the path
and is left out; where such a name comes about only once ignored characters are gone, it is one. -/
def addSegment (special : Bool) (names : List String) (name : String) : List String :=
  if name = "." || name = ".." then names
  else
    let kept := name.toList.filter fun c => !isIgnored c
    if kept = ['.', '.'] then parent names ++ [""]
    else if kept = ['.'] then pushSegment names ""
    else
      pushSegment names
        (String.ofList (escape (if special then specialSegmentSet else segmentSet) kept))

/-- A path without an empty last segment. -/
def withoutEmptyEnd (names : List String) : List String :=
  if 1 < names.length && names.getLast? = some "" then names.dropLast else names

/-- The address with names behind its path, if its path has segments. -/
def withSegments (url : Url) (names : List String) : Option Url :=
  match url.path with
  | .whole _ => none
  | .segments path =>
    let path := names.foldl (addSegment (isSpecialScheme url.scheme)) (withoutEmptyEnd path)
    some { url with path := .segments path }

/-- A query with a pair more. -/
def addPair (query : List Char) (pair : String × String) : List Char :=
  (if query.isEmpty then [] else query ++ ['&']) ++ writeFormPair pair

/-- The address with pairs behind its query. -/
def withPairs (url : Url) (pairs : List (String × String)) : Url :=
  if pairs.isEmpty then url
  else
    let query := pairs.foldl addPair ((url.query.getD "").toList)
    { url with query := some (String.ofList query) }

end Url

end SiteSearch
