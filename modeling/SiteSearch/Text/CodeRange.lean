/-!
# Sets of characters as code ranges

A set of characters is a list of closed ranges of code points, in rising order. `mem` stops at the
first range that begins above the code point it looks for.
-/
namespace SiteSearch.Text

/-- Closed ranges of code points, lowest first. -/
abbrev CodeRanges := List (Nat × Nat)

/-- Whether a code point lies in one of the ranges. -/
def CodeRanges.mem : CodeRanges → Nat → Bool
  | [], _ => false
  | (lo, hi) :: rest, code =>
    if code < lo then false else code ≤ hi || CodeRanges.mem rest code

/-- The ranges are non-empty, apart from each other, and in rising order. -/
def CodeRanges.Rising : CodeRanges → Bool
  | [] => true
  | [(lo, hi)] => lo ≤ hi
  | (lo, hi) :: (lo', hi') :: rest =>
    lo ≤ hi && hi < lo' && CodeRanges.Rising ((lo', hi') :: rest)

end SiteSearch.Text
