import SiteSearch.Url.Path

/-!
# Reading addresses

`Url.read` takes a text apart at its separators. The fragment begins at the first number sign, the
query at the first question mark before it, and the scheme ends at the first colon. What is left is
a host with a path, a path alone, or a text; a special scheme always has a host, which for a file
may be empty. Blanks and controls around a text are dropped, and line ends and tabs anywhere in it.
-/
namespace SiteSearch.Url

/-! ## Parts -/

/-- Whether a character is dropped at the ends of an address. -/
def isOuterBlank (c : Char) : Bool :=
  c.toNat ≤ 0x20

/-- A text without blanks and controls at its ends. -/
def trimmed (text : List Char) : List Char :=
  ((text.dropWhile isOuterBlank).reverse.dropWhile isOuterBlank).reverse

/-- Whether a character may stand in a scheme behind its first letter. -/
def isSchemeChar (c : Char) : Bool :=
  c.isAlphanum || c = '+' || c = '-' || c = '.'

/-- The scheme in lowercase and what comes behind its colon. -/
def readScheme? (text : List Char) : Option (String × List Char) :=
  match Text.cutAt (· = ':') text with
  | some (scheme, rest) =>
    if (scheme.head?.map Char.isAlpha).getD false && scheme.all isSchemeChar then
      some (String.ofList (scheme.map Char.toLower), rest)
    else none
  | none => none

/-- A text cut at the first character of a class, if it has one. -/
def cutOff (p : Char → Bool) (text : List Char) : List Char × Option (List Char) :=
  match Text.cutAt p text with
  | some (before, after) => (before, some after)
  | none => (text, none)

/-! ## Host -/

/-- A text cut before the last at sign. -/
def cutLastAt (text : List Char) : Option (List Char) × List Char :=
  match cutOff (· = '@') text.reverse with
  | (behind, some before) => (some before.reverse, behind.reverse)
  | (all, none) => (none, all.reverse)

/-- The end of a host: the first colon that is not within brackets. -/
def cutPort (inBrackets : Bool) : List Char → List Char × Option (List Char)
  | [] => ([], none)
  | c :: rest =>
    if c = ':' && !inBrackets then ([], some rest)
    else
      let inside := if c = '[' then true else if c = ']' then false else inBrackets
      let (host, port) := cutPort inside rest
      (c :: host, port)

/-- Reads a port: none where there are no digits or where it is the usual one. -/
def readPort (scheme : String) (digits : List Char) : Except UrlError (Option Nat) :=
  if digits.isEmpty then .ok none
  else
    match Text.digitsValue? digits with
    | none => .error .portRange
    | some port =>
      if 65535 < port then .error .portRange
      else if usualPort? scheme = some port then .ok none
      else .ok (some port)

/-- Reads an address with a host, behind the slashes in front of it; `ends` says whether the whole
address ends here. An at sign may come without a name, but then a host or the end has to follow.
The port ends at a backslash under any scheme. -/
def readHosted (scheme : String) (ends : Bool) (text : List Char) : Except UrlError Url := do
  let special := isSpecialScheme scheme
  let authority := text.takeWhile fun c => !isSlash special c
  let behind := text.drop authority.length
  let (user, place) := cutLastAt authority
  let (username, password) := cutOff (· = ':') (user.getD [])
  let (hostPart, portPart) := cutPort false place
  let named := username ++ password.getD []
  if user = some [] && place.isEmpty && !(ends && behind.isEmpty) then .error .emptyHost
  else if hostPart.isEmpty && (special || portPart.isSome || !named.isEmpty) then
    .error .emptyHost
  else
    let host ← if special then Host.ofSpecial hostPart else Host.ofOther hostPart
    let (digits, rest) := (portPart.getD []).span (· != '\\')
    let port ← readPort scheme digits
    let shown (text : List Char) : String := String.ofList (escape userSet text)
    .ok
      { scheme
        username := shown username
        password := shown (password.getD [])
        host := some host
        port
        path := .segments (readPath scheme (rest ++ behind)).names }

/-! ## File -/

/-- The address of a file. With a drive in front of the path there is no host. -/
def fileAddress (host : Host) (path : PathSoFar) : Url :=
  { scheme := "file"
    host := some (if path.onDrive then .name "" else host)
    path := .segments (withoutEmptyStart path.names) }

/-- Reads the address of a file behind two slashes. The host is all up to the next one, unless that
is a drive, and need not be there; without a host, every slash belongs to the path. -/
def readHostedFile (text : List Char) : Except UrlError Url := do
  let before := text.takeWhile fun c => !isSlash true c
  let behind := text.drop before.length
  let hostPart := withoutIgnored before
  if isDrive hostPart then .ok (fileAddress (.name "") (readSegments "file" text))
  else
    let host ← if hostPart.isEmpty then .ok (.name "") else Host.ofSpecial hostPart
    if host = .name "" || host = .name "localhost" then
      .ok (fileAddress (.name "") (readSegments "file" behind))
    else .ok (fileAddress host (readPath "file" behind))

/-- Reads the address of a file. -/
def readFile (text : List Char) : Except UrlError Url :=
  match text with
  | a :: b :: rest =>
    if isSlash true a && isSlash true b then readHostedFile rest
    else .ok (fileAddress (.name "") (readPath "file" text))
  | _ => .ok (fileAddress (.name "") (readPath "file" text))

/-! ## Addresses -/

/-- Reads what is between the scheme and the query; `ends` says whether nothing follows. -/
def readBody (scheme : String) (ends : Bool) (text : List Char) : Except UrlError Url :=
  if scheme = "file" then readFile (text.dropWhile isIgnored)
  else if webSchemes.contains scheme then
    readHosted scheme ends (text.dropWhile (isSlash true))
  else
    match text with
    | '/' :: '/' :: rest => readHosted scheme ends rest
    | '/' :: rest => .ok { scheme, path := .segments (readSegments scheme rest).names }
    | _ => .ok { scheme, path := .whole (String.ofList (escape [] text)) }

/-- Reads an address. -/
def read (text : String) : Except UrlError Url := do
  let text := trimmed text.toList
  match readScheme? (withoutIgnored text) with
  | none => .error .noScheme
  | some (scheme, plainRest) =>
    let rest :=
      if scheme = "file" then (cutOff (· = ':') (withDriveEnds text)).2.getD [] else plainRest
    let (rest, fragment) := cutOff (· = '#') rest
    let (body, query) := cutOff (· = '?') rest
    let url ← readBody scheme (query.isNone && fragment.isNone) body
    let shown (set : List Char) (part : List Char) : String :=
      String.ofList (escape set (withoutIgnored part))
    .ok
      { url with
        query := query.map (shown (if isSpecialScheme scheme then specialQuerySet else querySet))
        fragment := fragment.map (shown fragmentSet) }

end SiteSearch.Url
