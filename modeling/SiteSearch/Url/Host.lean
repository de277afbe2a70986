import SiteSearch.Url.Address
import SiteSearch.Url.Domain.Label
import SiteSearch.Url.Escape

/-!
# Hosts

The host of an address. Under a special scheme a host is a domain or a numeric address, and a domain
is brought to ASCII; under any other scheme it is a text of its own. An address of version 6 stands
in brackets under both.
-/
namespace SiteSearch

/-- Why a text is no address. -/
inductive UrlError where
  /-- There is no scheme. -/
  | noScheme
  | emptyHost
  | portRange
  | ipv4
  | ipv6
  /-- A domain that has no form in ASCII. -/
  | domain
  /-- A character that no host may hold. -/
  | hostCharacter
  deriving DecidableEq, Repr

/-- The error in words. -/
def UrlError.message : UrlError → String
  | noScheme => "relative URL without a base"
  | emptyHost => "empty host"
  | portRange => "invalid port number"
  | ipv4 => "invalid IPv4 address"
  | ipv6 => "invalid IPv6 address"
  | domain => "invalid international domain name"
  | hostCharacter => "invalid domain character"

/-- The host of an address. -/
inductive Host where
  /-- A domain, or any text under a scheme that is not special; it may be empty there. -/
  | name (text : String)
  | ipv4 (address : Nat)
  | ipv6 (pieces : List Nat)
  deriving DecidableEq, Repr

namespace Host

/-- The host as it stands in an address. -/
def text : Host → String
  | name text => text
  | ipv4 address => String.ofList (Url.ipv4Text address)
  | ipv6 pieces => String.ofList ('[' :: Url.ipv6Text pieces ++ [']'])

/-- The text between brackets, if a text begins with one; the closing one has to be there. -/
def bracketed? (text : List Char) : Option (Option (List Char)) :=
  match text with
  | '[' :: inner => some (if inner.getLast? = some ']' then some inner.dropLast else none)
  | _ => none

/-- Reads an address of version 6 from between brackets. -/
def ofBrackets (inner : Option (List Char)) : Except UrlError Host :=
  match inner.bind Url.ipv6? with
  | some pieces => .ok (ipv6 pieces)
  | none => .error .ipv6

/-- Reads a domain or an address of version 4. -/
def ofDomain (text : List Char) : Except UrlError Host :=
  match Url.asciiDomain? (Url.unescape (Text.utf8 text)) with
  | none => .error .domain
  | some domain =>
    if domain.isEmpty then .error .emptyHost
    else if Url.endsInNumber domain then
      match Url.ipv4? domain with
      | some address => .ok (ipv4 address)
      | none => .error .ipv4
    else .ok (name (String.ofList domain))

/-- The characters that no host may hold under a scheme that is not special. -/
def forbidden : List Char :=
  ['\x00', '\t', '\n', '\r', ' ', '#', '/', ':', '<', '>', '?', '@', '[', '\\', ']', '^', '|']

/-- Reads the host of a special scheme. -/
def ofSpecial (text : List Char) : Except UrlError Host :=
  match bracketed? text with
  | some inner => ofBrackets inner
  | none => ofDomain text

/-- Reads the host of a scheme that is not special. -/
def ofOther (text : List Char) : Except UrlError Host :=
  match bracketed? text with
  | some inner => ofBrackets inner
  | none =>
    if text.any forbidden.contains then .error .hostCharacter
    else .ok (name (String.ofList (Url.escape [] text)))

end Host

end SiteSearch
