import SiteSearch.Text.Mark
import SiteSearch.Text.Utf8
import SiteSearch.Url.Domain.Direction
import SiteSearch.Url.Domain.Joining
import SiteSearch.Url.Domain.Punycode
import SiteSearch.Url.Domain.Reading

/-!
# Labels and domains

A domain is a row of labels with dots between. A label that is not ASCII can be written in ASCII
behind a mark; a text that has the mark has to be such a label, written in the one way there is.

Whatever way a domain is written in, `asciiDomain?` is the one text in ASCII that it has, label by
label. A text that is no domain has none.
-/
namespace SiteSearch.Url

/-- Whether all characters of a text are ASCII. -/
def isAsciiText (text : List Char) : Bool :=
  text.all fun c => c.toNat < 0x80

/-- The mark of a label that is written in ASCII. -/
def asciiMark : List Char := ['x', 'n', '-', '-']

/-- How long a label may be that is not ASCII. -/
def labelLimit : Nat := 1000

/-- How long its ASCII form may be behind the mark. -/
def asciiFormLimit : Nat := 2000

/-- Whether a text is a label that needs an ASCII form: it is not ASCII and is read as it is. -/
def needsAsciiForm (label : List Char) : Bool :=
  !isAsciiText label && readDomainText? label = some label && !label.contains '.'

/-- The label that the text between two dots stands for. -/
def readLabel? (text : List Char) : Option (List Char) :=
  match Text.stripPrefix? asciiMark text with
  | none => some text
  | some form =>
    if isAsciiText form && form.length ≤ asciiFormLimit then
      (Punycode.decode? form).filter needsAsciiForm
    else none

/-- Whether a label may stand in a domain: it does not begin with a mark, its joiners fit, and it is
not too long. -/
def isLabel (label : List Char) : Bool :=
  !label.head?.any Text.isMark && joinersFit [] label
    && (isAsciiText label || label.length ≤ labelLimit)

/-- A label in ASCII. -/
def asciiLabel (label : List Char) : List Char :=
  if isAsciiText label then label else asciiMark ++ Punycode.encode label

/-! ## Domains -/

/-- Whether labels make up a domain. -/
def isDomain (labels : List (List Char)) : Bool :=
  labels.all isLabel && (!hasRightward labels || labels.all keepsDirection)

/-- A domain in ASCII, given its bytes. -/
def asciiDomain? (bytes : Text.Bytes) : Option (List Char) := do
  let text ← Text.readUtf8? bytes
  let read ← readDomainText? text
  let labels ← (Text.splitAt (· = '.') read).mapM readLabel?
  if isDomain labels then some (Text.joinWith ['.'] (labels.map asciiLabel)) else none

end SiteSearch.Url
