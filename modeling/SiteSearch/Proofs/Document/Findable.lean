import SiteSearch.Proofs.Document.Indexing
import SiteSearch.Proofs.Document.Keywords
import SiteSearch.Proofs.Query.Answering

/-!
# Finding what was indexed

A word that is typed is searched for as a term that is open at its end, and that term finds an element
where a word of its document begins with the typed word in lowercase. The document has been lowercased
letter by letter, the typed word as a whole. So an element is found by the runs of letters and digits of
its title, but a capital sigma at the end of a run is in its way.
-/

namespace SiteSearch

open Query (writtenTerms)

/-! ## Typed words -/

namespace Query

variable {run : List Char} {ends : OpenEnds}

/-- What a user types without blanks and marks is read as one term. -/
theorem read_letters (hne : run ≠ []) (h : ∀ c ∈ run, Text.isAlphanumeric c = true)
    (hjoiner : run ≠ joiner) : read ends (String.ofList run) =
      [.term { text := String.ofList run, openLeft := ends.left, openRight := ends.right }] := by
  have hbare : Unreserved run := unreserved_of_isAlphanumeric h
  have hpieces : Text.unquotedPieces run = [run] := by
    rw [Text.unquotedPieces, hbare.1.staysWhole.cut]
    simp [hne]
  have hmark : ∀ mark, Text.isAlphanumeric mark = false → ∀ c ∈ run, c ≠ mark := fun mark hmark c hc =>
    ne_of_isAlphanumeric (h c hc) hmark
  have hstar : ∀ c ∈ run, decide (c = '*') = false := by
    simpa using hmark '*' (by decide +kernel)
  have hsign : readSign run = (false, run) := by
    unfold readSign
    split
    · exact absurd rfl (hmark '-' (by decide +kernel) '-' List.mem_cons_self)
    · rfl
  have hscope : readScope run = (none, run) := by
    have hnone : run.dropWhile (fun c => c != ':' && c != '"') = [] := by
      rw [← List.append_nil run, List.dropWhile_append_of_pos hbare.passes]
      rfl
    simp [readScope, hnone]
  have hstars : readStars ends run = (run, ends) := by
    have hhead : run.head? ≠ some '*' := fun heq =>
      hmark '*' (by decide +kernel) _ (List.mem_of_mem_head? heq) rfl
    have hlast : run.getLast? ≠ some '*' := fun heq =>
      hmark '*' (by decide +kernel) _ (List.mem_of_mem_getLast? heq) rfl
    simp [readStars, hhead, hlast, Text.trimStart_of_none hstar, Text.trimEnd_of_none hstar]
  have hterm : readTerm? ends run =
      some { text := String.ofList run, openLeft := ends.left, openRight := ends.right } := by
    simp only [readTerm?, hsign, hscope]
    split
    · exact absurd rfl (hmark '"' (by decide +kernel) '"' List.mem_cons_self)
    · simp [hstars, hne]
  simp [read, hpieces, Reading.take, hjoiner, hterm]

end Query

/-! ## Typed words and documents -/

/-- What a service answers with when it is asked to search for a text. -/
def World.foundText (w : World) (text : String) (target : Option CollectionKey)
    (scope : Option (List ElementId)) : Except ServiceError (List RankedHit) :=
  ((Operation.searchText text target scope).rehearse [] w).2.1

theorem World.foundText_eq (w : World) (text : String) (target : Option CollectionKey)
    (scope : Option (List ElementId)) : w.foundText text target scope =
      w.found (Query.read w.service.config.openEnds text) target scope := by
  have hget : ∀ f : Service → Operation (List RankedHit),
      (get >>= f).run.run w.service = (f w.service).run.run w.service := fun _ => rfl
  rw [foundText, found, Operation.rehearse, Operation.rehearse, Operation.searchText, hget]

/-- A document of a collection that stands for an element has a word that begins with a typed word in
lowercase. -/
def World.HasWordLike (w : World) (key : CollectionKey) (element : ElementId) (typed : List Char) :
    Prop :=
  ∃ document ∈ w.documents key, Text.readWord? document.1.toList = some element ∧
    ∃ field ∈ Condition.textFields document.2, ∃ word ∈ Text.words (Text.lowercase field.2.toList),
      Text.lowercase typed <+: word

namespace World

variable {w : World} {key : CollectionKey} {target : Option CollectionKey} {run : List Char}

/-- A typed word finds the elements that have a word that begins like it. -/
theorem exists_foundText (hhooks : w.service.hooks = [])
    (htarget : target.or w.service.defaultCollection = some key)
    (hends : w.service.config.openEnds = {}) (hsearches : w.memory.rejectSearches = false)
    (hthere : ∃ i, w.memory.store.Reads (w.service.aliasName key) i)
    (hfits : (w.documents key).length ≤ w.service.config.maxResultWindow.toNat)
    (hne : run ≠ []) (hletters : ∀ c ∈ run, Text.isAlphanumeric c = true) (hjoiner : run ≠ Query.joiner) :
    ∃ hits, w.foundText (String.ofList run) target none = .ok hits ∧
      ∀ element, element ∈ hits.map (·.id) ↔ w.HasWordLike key element run := by
  let term : Query.Term := { text := String.ofList run, openRight := true }
  have hread : Query.read w.service.config.openEnds (String.ofList run) = [.term term] := by
    rw [hends]
    exact Query.read_letters hne hletters hjoiner
  have htext : term.text.toList = run := String.toList_ofList
  have hquoted : term.isQuoted = false := by
    have hhyphen : '-' ∉ run := fun hmem =>
      Query.ne_of_isAlphanumeric (hletters _ hmem) (by decide +kernel) rfl
    simp [Query.Term.isQuoted, htext, hhyphen, term]
  have hsigned : term.isSigned = true := by simp [Query.Term.isSigned, hquoted, term]
  have hlegible : ∀ other ∈ writtenTerms [.term term], other.Legible w.service.fieldNames := by
    intro other hother
    obtain rfl := List.mem_singleton.1 hother
    exact
      { letters := fun c hc => .inl (hletters c (htext ▸ hc))
        trimmed := htext ▸ (Query.unreserved_of_isAlphanumeric hletters).solid.trim
        scope := by rintro _ ⟨⟩
        unsigned := by rintro _ ⟨⟩ }
  have hclauses : Clause.readAll (Query.queryString w.service.fieldNames [.term term]) = .ok _ :=
    (Query.readAll_queryString_iff hlegible).2 ⟨fun other hother => by
      obtain rfl := List.mem_singleton.1 hother
      refine ⟨by simp [Query.Flat, Query.Term.scopeText, term], ?_⟩
      simp [Query.Term.clause, hquoted, htext, term, Text.lowercase_eq_nil, hne], rfl⟩
  -- the term has a plus sign, so a document is selected exactly where it has the term
  have hselects : ∀ document, Query.Selects w.service.fieldNames document (writtenTerms [.term term]) ↔
      ∃ field ∈ Condition.textFields document, ∃ word ∈ Text.words (Text.lowercase field.2.toList),
        Text.lowercase run <+: word := by
    intro document
    have hwritten : writtenTerms [.term term] = [term] := rfl
    rw [hwritten, Query.selects_iff_of_signed (by simpa using hsigned)]
    simp [Query.Term.FoundIn, Query.Term.IsIn, Query.Term.WordFits, hquoted, htext, term]
  obtain ⟨hits, hfound, -, hmem⟩ := w.exists_found hhooks htarget hlegible hclauses hsearches hthere hfits
  refine ⟨hits, ?_, fun element => (hmem element).trans ?_⟩
  · rw [foundText_eq, hread, hfound]
  · constructor
    · rintro ⟨document, hdocument, hid, hselected, -⟩
      exact ⟨document, hdocument, hid, (hselects _).1 hselected⟩
    · rintro ⟨document, hdocument, hid, hword⟩
      exact ⟨document, hdocument, hid, (hselects _).2 hword, fun _ hscope => by cases hscope⟩

end World

/-- An element that has just been indexed is found by what a user types from its title, unless a capital
sigma ends a word there: where it counts as indexed and its lock was free, a search for a run of letters
and digits of its title is answered, and it is among the hits exactly where some document that stands for
it has a word that begins with the run in lowercase. Where lowercasing the run as a whole is lowercasing
it letter by letter, the title has that word. -/
theorem Operation.Runs.title_is_findable {faults : Faults} {w w' : World} {t : List (Turn Memory)}
    {element : Element} {type : ElementType} {key : CollectionKey} {target : Option CollectionKey}
    {run : List Char} {indexed : Bool}
    (h : (Operation.indexElement element key).Runs faults w t (.ok indexed) w')
    (hlock : w.service.locks.isHeld (elementLock element.id element.siteId) = false)
    (htype : w.service.model.elementType? element.type = some type) (htitles : type.hasTitles = true)
    (hrun : Text.IsRunOf run (element.attributeText "title").toList) (hjoiner : run ≠ Query.joiner)
    (hhooks : w'.service.hooks = []) (hends : w'.service.config.openEnds = {})
    (htarget : target.or w'.service.defaultCollection = some key)
    (hsearches : w'.memory.rejectSearches = false)
    (hfits : (w'.documents key).length ≤ w'.service.config.maxResultWindow.toNat) :
    ∃ hits, w'.foundText (String.ofList run) target none = .ok hits ∧
      (element.id ∈ hits.map (·.id) ↔ w'.HasWordLike key element.id run) ∧
      (Text.ByLetter run → element.id ∈ hits.map (·.id)) := by
  have hnames := (Operation.asksOnly_indexElement _ key element rfl h.1).1
  have halias : w'.service.aliasName key = w.service.aliasName key := congrArg (·.aliasName key) hnames
  obtain ⟨hheld, -⟩ |
    ⟨locks, document, w₁, service₂, t₁, t₂, hbuilt, -, halias₁, -, hwritten⟩ := h.indexElement_ok
  · rw [hlock] at hheld
    cases hheld
  obtain ⟨store, i, held, hopen, hstore⟩ := hwritten.upsert_put
  rw [halias₁, ← halias] at hopen
  have hreads : w'.memory.store.Reads (w'.service.aliasName key) i := by
    rw [hstore]
    exact Store.reads_of_writeTarget (Store.openForWriting_eq_ok.1 (Store.openForWriting_written hopen)).1
  obtain ⟨_, -, hdocument⟩ := FieldNames.document?_eq_ok.1 hbuilt
  have hid : document.id = element.id := by rw [hdocument]
  have hthere : (Text.writeWord element.id, document.toJson) ∈ w'.documents key := by
    refine Store.mem_documents.2 ⟨i, hreads, ?_⟩
    rw [← hid, hstore]
    exact Store.document?_put
  obtain ⟨hits, hfound, hmem⟩ := w'.exists_foundText hhooks htarget hends hsearches ⟨i, hreads⟩ hfits
    hrun.nonempty hrun.letters hjoiner
  refine ⟨hits, hfound, hmem element.id, fun hletters => (hmem element.id).2 ?_⟩
  have htitle : (FieldNames.ofAttribute w.service.fieldNames.start "title",
      keywords (element.attributeText "title")) ∈ Condition.textFields document.toJson := by
    rw [Condition.textFields_toJson, NameMap.mem_entries]
    exact FieldNames.get?_title hbuilt htype htitles
  refine ⟨_, hthere, Text.readWord?_writeWord _, _, htitle, _, hrun.mem_words_keywords, ?_⟩
  exact hletters ▸ List.prefix_rfl

/-! ## Titles of entries -/

/-- An entry is found by a word of its title. -/
theorem entry_is_found_by_salad :
    let indexed := (Operation.indexElement (.entry "Green Salad!") .english).rehearse []
      (World.empty .ofEntries)
    indexed.2.1 = .ok true ∧ indexed.2.2.foundText "Salad" (some .english) none = .ok [⟨7, .ofNat 1⟩] ∧
      ∃ hits, indexed.2.2.foundText "Salad" (some .english) none = .ok hits ∧ 7 ∈ hits.map (·.id) := by
  intro indexed
  have hok : indexed.2.1 = .ok true := by decide +kernel
  have hrun : Text.IsRunOf "Salad".toList ((Element.entry "Green Salad!").attributeText "title").toList :=
    { nonempty := by decide
      letters := List.all_eq_true.1 (by decide +kernel)
      maximal := ⟨"Green ".toList, "!".toList, by decide +kernel, by rintro _ ⟨⟩; decide +kernel,
        by rintro _ ⟨⟩; decide +kernel⟩ }
  have htype : (World.empty .ofEntries).service.model.elementType? (Element.entry "Green Salad!").type =
      some ⟨"entry", true, []⟩ := by decide +kernel
  have htarget : (some CollectionKey.english).or indexed.2.2.service.defaultCollection =
      some .english := rfl
  have hruns : (Operation.indexElement (.entry "Green Salad!") .english).Runs .none
      (World.empty .ofEntries) indexed.1 (.ok true) indexed.2.2 :=
    Operation.runs_rehearse (by simp) hok
  obtain ⟨hits, hfound, -, hletters⟩ := hruns.title_is_findable (by decide +kernel) htype rfl hrun
    (by decide +kernel) (by decide +kernel) (by decide +kernel) htarget (by decide +kernel)
    (by decide +kernel)
  exact ⟨hok, by decide +kernel, hits, hfound, hletters (Text.byLetter_of_not_mem (by decide +kernel))⟩

/-- An entry is not found by a title that ends in a capital sigma. -/
theorem entry_is_not_found_by_final_sigma :
    let indexed := (Operation.indexElement (.entry "ΟΔΟΣ") .english).rehearse [] (World.empty .ofEntries)
    indexed.2.1 = .ok true ∧ Text.IsRunOf "ΟΔΟΣ".toList ((Element.entry "ΟΔΟΣ").attributeText "title").toList ∧
      indexed.2.2.foundText "ΟΔΟΣ" (some .english) none = .ok [] := by
  have hrun : Text.IsRunOf "ΟΔΟΣ".toList ((Element.entry "ΟΔΟΣ").attributeText "title").toList :=
    { nonempty := by decide
      letters := List.all_eq_true.1 (by decide +kernel)
      maximal := ⟨[], [], by decide +kernel, by rintro _ ⟨⟩, by rintro _ ⟨⟩⟩ }
  exact ⟨by decide +kernel, hrun, by decide +kernel⟩

end SiteSearch
