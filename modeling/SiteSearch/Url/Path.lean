import SiteSearch.Url.Basic

/-!
# Reading paths

A path is read segment by segment: a segment of one dot stays where it is and one of two dots goes
to the parent, however the dots are written. The path of a file may begin with the name of a drive.
A drive is a segment of its own: it has no parent, and what is dropped behind it ends it.
-/
namespace SiteSearch.Url

/-! ## Characters that are dropped -/

/-- A text without the characters that are dropped anywhere. -/
def withoutIgnored (text : List Char) : List Char :=
  text.filter fun c => !isIgnored c

/-- A text without the characters that are dropped anywhere, but with one tab for those behind a
letter with a colon: that may be a drive, and then its segment ends there. -/
def withDriveEnds (text : List Char) : List Char :=
  let keep (backwards : List Char) (c : Char) : List Char :=
    if !isIgnored c then c :: backwards
    else
      match backwards with
      | ':' :: letter :: _ => if letter.isAlpha then '\t' :: backwards else backwards
      | _ => backwards
  (text.foldl keep []).reverse

/-! ## Segments -/

/-- Whether a character sets segments of a path apart. -/
def isSlash (special : Bool) (c : Char) : Bool :=
  c = '/' || (special && c = '\\')

/-- Whether a segment stands for the one it is in. -/
def isSingleDot (segment : List Char) : Bool :=
  [".", "%2e"].contains (String.ofList (segment.map Char.toLower))

/-- Whether a segment stands for the one before. -/
def isDoubleDot (segment : List Char) : Bool :=
  ["..", ".%2e", "%2e.", "%2e%2e"].contains (String.ofList (segment.map Char.toLower))

/-- A segment as it is kept. -/
def segmentName (segment : List Char) : String :=
  String.ofList (escape pathSet (withoutIgnored segment))

/-- A path while it is read. -/
structure PathSoFar where
  names : List String := []
  /-- Whether it is the path of a file that begins with a drive as a segment of its own. -/
  onDrive : Bool := false

namespace PathSoFar

/-- The path of a file with its first segment. A drive is written with a colon; what follows a drive
behind a tab is the next segment, whatever it is. -/
def enter (segment : List Char) : PathSoFar :=
  let shown := withoutIgnored segment
  if isDrive shown then { names := [String.ofList (shown.take 1 ++ [':'])], onDrive := true }
  else if isDrive (segment.take 2) && (segment.drop 2).head? = some '\t' then
    { names := [String.ofList (segment.take 2), segmentName (segment.drop 2)] }
  else { names := [segmentName segment] }

/-- A path with a segment more that is not of dots. -/
def add (file : Bool) (path : PathSoFar) (segment : List Char) : PathSoFar :=
  if file && path.names.isEmpty then enter segment
  else { path with names := path.names ++ [segmentName segment] }

/-- A path up to the parent. -/
def climb (path : PathSoFar) : PathSoFar :=
  { path with names := parent path.names }

/-- A path with an empty segment at its end. -/
def close (path : PathSoFar) : PathSoFar :=
  { path with names := path.names ++ [""] }

end PathSoFar

/-! ## Paths -/

/-- Goes on from a path along segments, following dots. -/
def followPath (file : Bool) (path : PathSoFar) : List (List Char) → PathSoFar
  | [] => path
  | [last] =>
    if isDoubleDot last then path.climb.close
    else if isSingleDot last then path.close
    else path.add file last
  | segment :: rest =>
    if isDoubleDot segment then followPath file path.climb rest
    else if isSingleDot segment then followPath file path rest
    else followPath file (path.add file segment) rest

/-- Reads a path behind its first slash. -/
def readSegments (scheme : String) (text : List Char) : PathSoFar :=
  followPath (scheme = "file") {} (Text.splitAt (isSlash (isSpecialScheme scheme)) text)

/-- Reads a path, with or without its first slash: under a special scheme there is always one. -/
def readPath (scheme : String) (text : List Char) : PathSoFar :=
  let special := isSpecialScheme scheme
  match text with
  | [] => if special then { names := [""] } else {}
  | c :: rest => readSegments scheme (if isSlash special c then rest else text)

/-- Segments without empty ones in front of the others. -/
def withoutEmptyStart : List String → List String
  | "" :: next :: rest => withoutEmptyStart (next :: rest)
  | names => names

end SiteSearch.Url
