import SiteSearch.Binary64.Basic
import SiteSearch.Content.Model
import SiteSearch.Json.Basic
import SiteSearch.Text.Unsigned

/-!
# Ranking

The engine answers with hits, and one element may be hit in several generations of a collection.
`rank` keeps one entry for each element with the highest of its scores, in falling order; elements
with equal scores stay in the order in which they were hit first. Hits whose id is no number belong
to no element.
-/
namespace SiteSearch

/-- A document that matches a search. -/
structure SearchHit where
  id : String
  score : Option Binary64
  /-- The document itself, unless the search asked to leave it out. -/
  source : Option Json
  deriving DecidableEq, Repr

/-- An element with its score. -/
structure RankedHit where
  id : ElementId
  score : Binary64
  deriving DecidableEq, Repr

namespace Query

/-- The element of a hit with the score of the hit; a missing score counts as zero. -/
def rankedHit? (hit : SearchHit) : Option RankedHit :=
  (Text.readWord? hit.id.toList).map fun id => ⟨id, hit.score.getD .zero⟩

/-- The entries with one more hit: the higher score of an element is kept, a new element comes
last. -/
def keepBest (hit : RankedHit) : List RankedHit → List RankedHit
  | [] => [hit]
  | other :: rest =>
    if other.id = hit.id then
      (if other.score.lt hit.score then { other with score := hit.score } else other) :: rest
    else other :: keepBest hit rest

/-- One entry for each element that is hit, best first. -/
def rank (hits : List SearchHit) : List RankedHit :=
  let entries := (hits.filterMap rankedHit?).foldl (fun entries hit => keepBest hit entries) []
  entries.mergeSort fun a b => !a.score.lt b.score

end Query

end SiteSearch
