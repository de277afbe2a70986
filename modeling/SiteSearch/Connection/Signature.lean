import SiteSearch.Connection.Clock
import SiteSearch.Hash.Sha256
import SiteSearch.Text.Blank
import SiteSearch.Url.Basic

/-!
# Signed requests

A request that is signed carries a code that only the owner of a secret can make. The code covers the
method, the path, the query, some headers and the body, all in a canonical form, so that it does not
depend on how a request happens to be written: the pairs of the query are sorted, and what is not a
plain character is escaped. The key of the code is made from the secret for one day, one region and
one service.
-/
namespace SiteSearch

open SiteSearch.Text (Bytes)

/-- What requests are signed with. -/
structure Signer where
  accessKey : String
  secretKey : String
  /-- Goes with keys that are valid for a while only. -/
  sessionToken : Option String
  region : String
  deriving DecidableEq, Repr

namespace Signer

/-! ## Canonical form -/

/-- Whether a byte is never escaped in the canonical form. -/
def isUnreserved (b : UInt8) : Bool :=
  let c := Char.ofNat b.toNat
  c.isAlphanum || c = '-' || c = '_' || c = '.' || c = '~'

/-- A byte in canonical form. -/
def canonicalByte (b : UInt8) : List Char :=
  if isUnreserved b then [Char.ofNat b.toNat] else Url.escapeByte b

/-- A text in canonical form. -/
def canonicalText (text : String) : String :=
  String.ofList ((Text.utf8Of text).flatMap canonicalByte)

/-- Whether a pair may stand before another: by name, and by value under one name. -/
def pairNotAfter (a b : String × String) : Bool :=
  a.1 < b.1 || (a.1 = b.1 && a.2 ≤ b.2)

/-- The pairs of a query in canonical form. -/
def canonicalQuery (pairs : List (String × String)) : String :=
  let canonical := pairs.map fun pair => (canonicalText pair.1, canonicalText pair.2)
  "&".intercalate ((canonical.mergeSort pairNotAfter).map fun pair => pair.1 ++ "=" ++ pair.2)

/-- A path in canonical form: the escapes that it has are escaped again. -/
def canonicalPath (path : String) : String :=
  if path = "" || path = "/" then "/"
  else
    let pieces := Text.splitAt (· = '/') path.toList
    "/".intercalate (pieces.map fun piece => canonicalText (String.ofList piece))

/-! ## Code -/

/-- The name of the way of signing. -/
def algorithm : String := "AWS4-HMAC-SHA256"

/-- The name of the service that requests go to. -/
def service : String := "es"

/-- A digest in hexadecimal. -/
def digestText (bytes : Bytes) : String :=
  String.ofList (Text.hex (Sha256.digest bytes))

/-- The key for a day, a region and a service. -/
def signingKey (secret date region service : String) : Bytes :=
  let dateKey := Hmac.code (Text.utf8Of ("AWS4" ++ secret)) (Text.utf8Of date)
  let regionKey := Hmac.code dateKey (Text.utf8Of region)
  let serviceKey := Hmac.code regionKey (Text.utf8Of service)
  Hmac.code serviceKey (Text.utf8Of "aws4_request")

/-- The headers that the code covers, in the order of their names. -/
def coveredHeaders (signer : Signer) (url : Url) (body : Bytes) (time : CalendarTime) :
    List (String × String) :=
  [ ("host", url.hostText), ("x-amz-content-sha256", digestText body), ("x-amz-date", time.stamp) ]
    ++ (signer.sessionToken.map fun token => [("x-amz-security-token", token)]).getD []

/-- A header in canonical form, with a line end. -/
def canonicalHeader (header : String × String) : String :=
  header.1 ++ ":" ++ String.ofList (Text.trim header.2.toList) ++ "\n"

/-- The names of headers in one text. -/
def headerNames (headers : List (String × String)) : String :=
  ";".intercalate (headers.map (·.1))

/-- The request in canonical form. -/
def canonicalRequest (method : String) (url : Url) (headers : List (String × String))
    (body : Bytes) : String :=
  "\n".intercalate
    [ method, canonicalPath (Url.pathText url.path),
      canonicalQuery (Url.readForm (url.query.getD "")),
      String.join (headers.map canonicalHeader), headerNames headers, digestText body ]

/-- What a code is good for: one day, the region and the service. -/
def scope (signer : Signer) (time : CalendarTime) : String :=
  time.dateStamp ++ "/" ++ signer.region ++ "/" ++ service ++ "/aws4_request"

/-- The code of a request in canonical form. -/
def code (signer : Signer) (time : CalendarTime) (request : String) : String :=
  let covered := "\n".intercalate
    [algorithm, time.stamp, signer.scope time, digestText (Text.utf8Of request)]
  let key := signingKey signer.secretKey time.dateStamp signer.region service
  String.ofList (Text.hex (Hmac.code key (Text.utf8Of covered)))

/-- The headers that sign a request. The host is covered too, but it is sent anyway. -/
def sign (signer : Signer) (method : String) (url : Url) (body : Bytes) (now : Int) :
    List (String × String) :=
  let time := CalendarTime.ofSeconds now
  let headers := signer.coveredHeaders url body time
  let request := canonicalRequest method url headers body
  let authorization := algorithm ++ " Credential=" ++ signer.accessKey ++ "/" ++ signer.scope time
    ++ ", SignedHeaders=" ++ headerNames headers ++ ", Signature=" ++ signer.code time request
  headers.filter (·.1 != "host") ++ [("authorization", authorization)]

end Signer

end SiteSearch
