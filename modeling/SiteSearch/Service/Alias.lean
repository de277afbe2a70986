import SiteSearch.Service.Operation

/-!
# Aliases and generations

What stands behind an alias. While a collection is moved to a new generation its alias is bound to
two; the newest one counts then.
-/
namespace SiteSearch

/-- The number behind the last underscore of an index name; zero where there is none. -/
def trailingNumber (index : String) : UInt64 :=
  let backwards := index.toList.reverse
  if backwards.contains '_' then
    (Text.readWord? (backwards.takeWhile (· != '_')).reverse).getD 0
  else 0

/-- Whether an index comes before another by its number, and by its name where they are equal. -/
def isOlderIndex (a b : String) : Bool :=
  trailingNumber a < trailingNumber b || (trailingNumber a = trailingNumber b && a < b)

/-- The newest of some indexes. -/
def newestIndex? : List String → Option String
  | [] => none
  | index :: rest =>
    match newestIndex? rest with
    | none => some index
    | some newest => some (if isOlderIndex newest index then index else newest)

/-- An index of a collection. -/
structure Generation where
  name : String
  /-- When it was made. -/
  time : Timestamp
  /-- Whether the alias of the collection is bound to it. -/
  bound : Bool
  deriving DecidableEq, Repr

/-- The generation as JSON. -/
def Generation.toJson (generation : Generation) : Json :=
  .ofFields
    [ ("name", .string generation.name), ("timestamp", .word generation.time),
      ("bound", .bool generation.bound) ]

/-- Whether a generation may stand before another: oldest first, and by name where they are
equally old. -/
def Generation.notAfter (a b : Generation) : Bool :=
  a.time < b.time || (a.time = b.time && a.name ≤ b.name)

/-- A generation put among others, in front of the first that it may stand before. -/
def Generation.putAmong (generation : Generation) : List Generation → List Generation
  | [] => [generation]
  | other :: rest =>
    if generation.notAfter other then generation :: other :: rest
    else other :: generation.putAmong rest

theorem Generation.putAmong_perm (generation : Generation) :
    ∀ others : List Generation, (generation.putAmong others).Perm (generation :: others)
  | [] => .refl _
  | other :: rest => by
    unfold putAmong
    split
    · exact .refl _
    · exact ((putAmong_perm generation rest).cons other).trans (.swap _ _ _)

theorem Generation.foldr_putAmong_perm :
    ∀ generations : List Generation, (generations.foldr putAmong []).Perm generations
  | [] => .refl _
  | generation :: rest =>
    (generation.putAmong_perm _).trans ((foldr_putAmong_perm rest).cons generation)

/-- The generations of a collection among some indexes, oldest first. -/
def generationsAmong (names : IndexNames) (key : CollectionKey) (found : List IndexDescription) :
    List Generation :=
  let generations := found.filterMap fun index =>
    (names.generationTime? key index.name).map fun time =>
      { name := index.name, time, bound := index.aliases.contains (names.aliasName key) : Generation }
  generations.foldr Generation.putAmong []

theorem mem_generationsAmong {names : IndexNames} {key : CollectionKey}
    {found : List IndexDescription} {g : Generation} :
    g ∈ generationsAmong names key found ↔
      ∃ index ∈ found, ∃ time, names.generationTime? key index.name = some time ∧
        (⟨index.name, time, index.aliases.contains (names.aliasName key)⟩ : Generation) = g := by
  rw [generationsAmong, (Generation.foldr_putAmong_perm _).mem_iff, List.mem_filterMap]
  refine exists_congr fun index => and_congr_right fun _ => ?_
  exact Option.map_eq_some_iff

namespace Operation

/-- The indexes that the pattern of a collection covers; none when the engine finds nothing. -/
def coveredIndexes (key : CollectionKey) : Operation (List IndexDescription) := do
  match ← attempt (.getIndices ((← get).indexNames.generationPattern key)) with
  | .ok found => pure found
  | .error (.notFound _) => pure []
  | .error e => throw (.ofEngine e)

/-- The generations of a collection, oldest first. -/
def generations (key : CollectionKey) : Operation (List Generation) := do
  let found ← coveredIndexes key
  pure (generationsAmong (← get).indexNames key found)

/-- The newest index that an alias is bound to. -/
def resolveAlias (name : String) : Operation String := do
  let bound : List String ← ask (.getAlias name)
  match newestIndex? bound with
  | some index => pure index
  | none => throw (.notFound ("alias [" ++ name ++ "] is not bound"))

/-- The index behind a name that may be an alias or an index. -/
def resolveIndex (name : String) : Operation String := do
  match ← outcome (resolveAlias name) with
  | .error (.notFound _) =>
    let found : List IndexDescription ← ask (.getIndices name)
    match found with
    | index :: _ => pure index.name
    | [] => throw (.notFound ("no such index or alias [" ++ name ++ "]"))
  | other => finish other

end Operation

end SiteSearch
