import SiteSearch.Engine.Remote.Request
import SiteSearch.Proofs.Json.RoundTrip
import SiteSearch.Proofs.Text.Words

/-!
# Bulk bodies

A bulk body falls into its lines at the line ends, and into the operations it was made of: each line is the
text of one value, and no text of a value has a line end inside (`Json.newline_notMem_render`). So names,
ids and documents can neither add a line nor join two, and a document cannot get under another id.
-/

namespace SiteSearch.Remote

variable {operations : List BulkOperation}

/-! ## What is written -/

/-- An action: an object with the index and the id under its name. -/
def actionObject (action index id : String) : Json :=
  .object [(action, .object [("_id", .string id), ("_index", .string index)])]

/-- The values of an operation: its action, and the document to be indexed. -/
def writtenValues : BulkOperation → List Json
  | .index index id document => [actionObject "index" index id, document]
  | .delete index id => [actionObject "delete" index id]

theorem bulkAction_eq (action index id : String) :
    bulkAction action index id = actionObject action index id := by
  have hlt : "_id" < "_index" := by decide
  simp [bulkAction, actionObject, Json.ofFields, NameMap.ofList, NameMap.insert, NameMap.empty, putEntry,
    hlt]

theorem bulkValues_eq (operation : BulkOperation) : bulkValues operation = writtenValues operation := by
  cases operation with
  | index index id document => rw [bulkValues, bulkAction_eq, writtenValues]
  | delete index id => rw [bulkValues, bulkAction_eq, writtenValues]

/-- The document to be indexed is one that can be held: its objects are in order and its numbers fit. -/
def Holds : BulkOperation → Prop
  | .index _ _ document => document.WellFormed ∧ document.Numbers JsonNumber.Fits
  | .delete _ _ => True

/-! ## What is read -/

/-- The index and the id under the name of an action. -/
def actionOf? (action : String) (line : Json) : Option (String × String) := do
  let place ← line.field? action
  let index ← (place.field? "_index").bind Json.string?
  let id ← (place.field? "_id").bind Json.string?
  some (index, id)

/-- The operations that lines ask for, where the index and the id for a document may have been read. -/
def operationsFrom? : Option (String × String) → List Json → Option (List BulkOperation)
  | none, [] => some []
  | some _, [] => none
  | some (index, id), document :: rest =>
    (operationsFrom? none rest).map (.index index id document :: ·)
  | none, line :: rest =>
    match actionOf? "delete" line, actionOf? "index" line with
    | some (index, id), _ => (operationsFrom? none rest).map (.delete index id :: ·)
    | none, some place => operationsFrom? (some place) rest
    | none, none => none

/-- The operations that a body asks for: a value in each line, and no text behind the last line end. -/
def readBulk? (body : List Char) : Option (List BulkOperation) :=
  let pieces := Text.splitAt (· = '\n') body
  if pieces.getLast? = some [] then (pieces.dropLast.mapM Json.readExact?).bind (operationsFrom? none)
  else none

/-- An operation is read from its values, whatever comes behind them. -/
theorem operationsFrom?_append (operation : BulkOperation) (rest : List Json) :
    operationsFrom? none (writtenValues operation ++ rest) =
      (operationsFrom? none rest).map (operation :: ·) := by
  cases operation with
  | index index id document =>
    simp [writtenValues, actionObject, operationsFrom?, actionOf?, Json.field?, valueAt?, Json.string?]
  | delete index id =>
    simp [writtenValues, actionObject, operationsFrom?, actionOf?, Json.field?, valueAt?, Json.string?]

theorem operationsFrom?_writtenValues (operations : List BulkOperation) :
    operationsFrom? none (operations.flatMap writtenValues) = some operations := by
  induction operations with
  | nil => rfl
  | cons operation operations ih =>
    rw [List.flatMap_cons, operationsFrom?_append, ih, Option.map_some]

/-- Values that are each read back from their texts are read back one after the other. -/
theorem mapM_render {read? : List Char → Option Json} {values : List Json}
    (h : ∀ value ∈ values, read? value.render = some value) :
    (values.map Json.render).mapM read? = some values := by
  induction values with
  | nil => rfl
  | cons value values ih =>
    obtain ⟨hvalue, hvalues⟩ := List.forall_mem_cons.1 h
    rw [List.map_cons, List.mapM_cons, hvalue, ih hvalues]
    rfl

/-- What holds of actions and of the documents holds of every value that is written. -/
theorem forall_mem_writtenValues {p : Json → Prop}
    (haction : ∀ action index id : String, p (actionObject action index id))
    (hdocument : ∀ index id document, .index index id document ∈ operations → p document) :
    ∀ value ∈ operations.flatMap writtenValues, p value := by
  intro value hvalue
  obtain ⟨operation, hoperation, hvalue⟩ := List.mem_flatMap.1 hvalue
  cases operation with
  | index index id document =>
    rw [writtenValues, List.mem_cons, List.mem_singleton] at hvalue
    rcases hvalue with rfl | rfl
    · exact haction _ _ _
    · exact hdocument _ _ _ hoperation
  | delete index id =>
    rw [writtenValues, List.mem_singleton] at hvalue
    exact hvalue ▸ haction _ _ _

/-! ## Lines -/

/-- Texts with a line end behind each are found again at the line ends. -/
theorem splitAt_lines {lines : List (List Char)} (h : ∀ line ∈ lines, '\n' ∉ line) :
    Text.splitAt (· = '\n') (lines.flatMap (· ++ ['\n'])) = lines ++ [[]] := by
  induction lines with
  | nil => rfl
  | cons line lines ih =>
    obtain ⟨hline, hlines⟩ := List.forall_mem_cons.1 h
    have hnone : ∀ c ∈ line, decide (c = '\n') = false := by
      intro c hc
      refine decide_eq_false ?_
      rintro rfl
      exact hline hc
    rw [List.flatMap_cons, List.append_assoc, List.singleton_append, Text.splitAt_append (by simp),
      Text.splitAt_of_none hnone, ih hlines]
    rfl

theorem toList_bulkBody (operations : List BulkOperation) :
    (bulkBody operations).toList =
      ((operations.flatMap writtenValues).map Json.render).flatMap (· ++ ['\n']) := by
  have hvalues : operations.flatMap bulkValues = operations.flatMap writtenValues := by
    rw [funext bulkValues_eq]
  rw [bulkBody, hvalues, String.toList_join, List.flatMap_map, List.flatMap_map]
  congr 1
  funext value
  rw [String.toList_append, Json.compact, String.toList_ofList]
  rfl

theorem splitAt_bulkBody (operations : List BulkOperation) :
    Text.splitAt (· = '\n') (bulkBody operations).toList =
      (operations.flatMap writtenValues).map Json.render ++ [[]] := by
  rw [toList_bulkBody]
  refine splitAt_lines fun line hline => ?_
  obtain ⟨value, -, rfl⟩ := List.mem_map.1 hline
  exact value.newline_notMem_render

/-- A body ends with a line end, unless nothing is asked for. -/
theorem getLast?_bulkBody (hne : operations ≠ []) :
    (bulkBody operations).toList.getLast? = some '\n' := by
  have hvalues : operations.flatMap writtenValues ≠ [] := by
    obtain ⟨operation, rest, rfl⟩ := List.exists_cons_of_ne_nil hne
    cases operation <;> simp [writtenValues]
  obtain ⟨values, last, hlast⟩ := (List.eq_nil_or_concat _).resolve_left hvalues
  rw [toList_bulkBody, hlast]
  simp

/-! ## Reading back -/

/-- An action is a value that can be held, without numbers and not deep. -/
theorem wellFormed_actionObject (action index id : String) :
    (actionObject action index id).WellFormed := by
  have hlt : "_id" < "_index" := by decide
  exact ⟨List.pairwise_singleton _ _, ⟨List.pairwise_pair.2 hlt, trivial, trivial, trivial⟩, trivial⟩

theorem numbers_actionObject (p : JsonNumber → Prop) (action index id : String) :
    (actionObject action index id).Numbers p :=
  ⟨⟨trivial, trivial, trivial⟩, trivial⟩

theorem depth_actionObject (action index id : String) : (actionObject action index id).depth = 2 := rfl

theorem readExact?_of_holds (h : ∀ operation ∈ operations, Holds operation) :
    ∀ value ∈ operations.flatMap writtenValues, Json.readExact? value.render = some value := by
  refine forall_mem_writtenValues (fun action index id => ?_) fun index id document hmem => ?_
  · exact Json.readExact?_render (numbers_actionObject _ _ _ _) (wellFormed_actionObject _ _ _)
  · obtain ⟨hwell, hnumbers⟩ := h _ hmem
    exact Json.readExact?_render hnumbers hwell

theorem parse?_of_holds (h : ∀ operation ∈ operations, Holds operation)
    (hlimits : ∀ index id document, .index index id document ∈ operations →
      document.depth ≤ Json.depthLimit ∧ document.Numbers (Json.ReadBack JsonNumber.read?)) :
    ∀ value ∈ operations.flatMap writtenValues, Json.parse? value.render = some value := by
  refine forall_mem_writtenValues (fun action index id => ?_) fun index id document hmem => ?_
  · refine Json.parse?_render (numbers_actionObject _ _ _ _) (wellFormed_actionObject _ _ _) ?_
    rw [depth_actionObject]
    decide
  · obtain ⟨hdepth, hnumbers⟩ := hlimits index id document hmem
    exact Json.parse?_render hnumbers (h _ hmem).1 hdepth

/-- The operations are read back from their body. -/
theorem readBulk?_bulkBody (h : ∀ operation ∈ operations, Holds operation) :
    readBulk? (bulkBody operations).toList = some operations := by
  rw [readBulk?, splitAt_bulkBody]
  simp only [List.getLast?_concat, if_true, List.dropLast_concat]
  rw [mapM_render (readExact?_of_holds h), Option.bind_some, operationsFrom?_writtenValues]

/-- A bulk body is made of lines, and they are those of its operations: it ends with a line end unless
nothing is asked for, and between the line ends are, in order, the texts of the values of each operation,
one for a document to be deleted and two for one to be indexed. If the documents are such as can be held,
the values are read back from the lines, and the operations from the body. So are they by the reader with
limits, if the documents keep them. -/
theorem bulkBody_framed (operations : List BulkOperation) :
    (operations = [] ↔ bulkBody operations = "") ∧
      (operations ≠ [] → (bulkBody operations).toList.getLast? = some '\n') ∧
      ∃ lines : List (List Char), Text.splitAt (· = '\n') (bulkBody operations).toList = lines ++ [[]] ∧
        lines = operations.flatMap (fun operation => (writtenValues operation).map Json.render) ∧
        ((∀ operation ∈ operations, Holds operation) →
          lines.mapM Json.readExact? = some (operations.flatMap writtenValues) ∧
            readBulk? (bulkBody operations).toList = some operations ∧
            ((∀ index id document, .index index id document ∈ operations →
                document.depth ≤ Json.depthLimit ∧
                  document.Numbers (Json.ReadBack JsonNumber.read?)) →
              lines.mapM Json.parse? = some (operations.flatMap writtenValues))) := by
  refine ⟨⟨?_, ?_⟩, getLast?_bulkBody, _, splitAt_bulkBody operations, List.map_flatMap, fun h =>
    ⟨mapM_render (readExact?_of_holds h), readBulk?_bulkBody h, fun hlimits =>
      mapM_render (parse?_of_holds h hlimits)⟩⟩
  · rintro rfl
    rfl
  · intro hempty
    by_contra hne
    have hlast := getLast?_bulkBody hne
    rw [hempty] at hlast
    cases hlast

/-- A document with the text of an action, and with the least number there is. -/
def awkwardDocument : Json :=
  .object
    [("least", .number (.real ⟨1⟩)), ("tenth", .number (.real ⟨0x3FB999999999999A⟩)),
      ("title", .array [.string "\n\x7b\"delete\":\x7b\"_id\":\"1\"\x7d\x7d\n", .number (.whole (-7))])]

/-- A name with a line end, and an id with quotation marks. -/
def awkwardOperations : List BulkOperation :=
  [.delete "notes\n" "1", .index "notes" "\"2\"" awkwardDocument]

/-- The awkward texts make three lines, which are read back by either reader. -/
theorem bulkBody_framed_of_awkward :
    (∀ operation ∈ awkwardOperations, Holds operation) ∧
      (bulkBody awkwardOperations).toList.getLast? = some '\n' ∧
        ∃ lines, Text.splitAt (· = '\n') (bulkBody awkwardOperations).toList = lines ++ [[]] ∧
          lines.length = 3 ∧
            lines.mapM Json.readExact? = some (awkwardOperations.flatMap writtenValues) ∧
              lines.mapM Json.parse? = some (awkwardOperations.flatMap writtenValues) ∧
                readBulk? (bulkBody awkwardOperations).toList = some awkwardOperations := by
  have hwell : awkwardDocument.WellFormed :=
    ⟨by decide, trivial, trivial, ⟨trivial, trivial, trivial⟩, trivial⟩
  have hfits : awkwardDocument.Numbers JsonNumber.Fits :=
    ⟨rfl, rfl, ⟨trivial, ⟨by decide, by decide⟩, trivial⟩, trivial⟩
  have hleast : Json.ReadBack JsonNumber.read? (.real ⟨1⟩) := by decide +kernel
  have htenth : Json.ReadBack JsonNumber.read? (.real ⟨0x3FB999999999999A⟩) := by decide +kernel
  have hseven : Json.ReadBack JsonNumber.read? (.whole (-7)) := by decide +kernel
  have hread : awkwardDocument.Numbers (Json.ReadBack JsonNumber.read?) :=
    ⟨hleast, htenth, ⟨trivial, hseven, trivial⟩, trivial⟩
  have hholds : ∀ operation ∈ awkwardOperations, Holds operation := by
    intro operation hoperation
    simp only [awkwardOperations, List.mem_cons, List.not_mem_nil, or_false] at hoperation
    rcases hoperation with rfl | rfl
    · trivial
    · exact ⟨hwell, hfits⟩
  have hlimits : ∀ index id document, .index index id document ∈ awkwardOperations →
      document.depth ≤ Json.depthLimit ∧ document.Numbers (Json.ReadBack JsonNumber.read?) := by
    intro index id document hdocument
    simp only [awkwardOperations, List.mem_cons, List.not_mem_nil, or_false, reduceCtorEq, false_or,
      BulkOperation.index.injEq] at hdocument
    obtain ⟨-, -, rfl⟩ := hdocument
    exact ⟨by decide, hread⟩
  obtain ⟨-, hlast, lines, hsplit, hlines, hback⟩ := bulkBody_framed awkwardOperations
  obtain ⟨hexact, hbulk, hparse⟩ := hback hholds
  exact ⟨hholds, hlast (List.cons_ne_nil _ _), lines, hsplit, by rw [hlines]; rfl, hexact,
    hparse hlimits, hbulk⟩

end SiteSearch.Remote
