import SiteSearch.Engine.Memory.Engine
import SiteSearch.Proofs.Text.Runs

/-!
# Tokens in memory

The analyzer goes over a text once and holds the run that is open, if one is. At every place the open run has
the letters and digits in front of the place, back to the character of another kind that they follow, or to
the start of the text (`OpenAt`). A letter or digit keeps this, whether it starts a run or carries one on
(`OpenAt.next`). Where no letter or digit follows, the open run is a longest one (`OpenAt.isRun`), and this is
where its token is made, at the end of the text too.

`Memory.analyze_exact` says that the tokens of a text are its longest runs of letters and digits.
-/

namespace SiteSearch

open Text

variable {text : String} {p start : text.Pos}

/-! ## Tokens of stretches -/

/-- The token of a stretch of a text, behind `position` others. -/
def stretchToken (position : Nat) (run : text.Pos × text.Pos) : AnalyzedToken where
  token := String.ofList (lowercase (text.extract run.1 run.2).toList)
  start := UInt64.ofNat run.1.offset.byteIdx
  stop := UInt64.ofNat run.2.offset.byteIdx
  kind := "<ALPHANUM>"
  position := UInt64.ofNat position

/-- The tokens of some stretches of a text in their order, behind `position` others. -/
def stretchTokens (position : Nat) (runs : List (text.Pos × text.Pos)) : List AnalyzedToken :=
  runs.mapIdx fun i run => stretchToken (position + i) run

theorem stretchTokens_cons (position : Nat) (run : text.Pos × text.Pos) (runs : List (text.Pos × text.Pos)) :
    stretchTokens position (run :: runs) =
      stretchToken position run :: stretchTokens (position + 1) runs := by
  rw [stretchTokens, List.mapIdx_cons, stretchTokens]
  simp only [Nat.add_zero, Nat.add_assoc, Nat.add_comm 1]

/-! ## Along the text -/

/-- The open run with one more character, or the run that a character starts. -/
def OpenRun.extended (byte : Nat) (c : Char) : Option OpenRun → OpenRun
  | none => ⟨byte, [c]⟩
  | some run => ⟨run.start, c :: run.text⟩

theorem analyzeFrom_of_alphanumeric {byte position : Nat} {run? : Option OpenRun} {c : Char}
    {rest : List Char} (hc : isAlphanumeric c = true) : analyzeFrom byte position run? (c :: rest) =
      analyzeFrom (byte + c.utf8Size) position (some (.extended byte c run?)) rest := by
  cases run? <;> simp only [analyzeFrom, hc, OpenRun.extended]

/-- What the analyzer holds at a place, and where the first run starts that it has not made a token of: the
run that is open, or else the next one. -/
inductive OpenAt (p : text.Pos) : Option OpenRun → text.Pos → Prop where
  | idle (fresh : FreshAt isAlphanumeric p) : OpenAt p none p
  | reading {start : text.Pos} (nonempty : start < p) (within : Within isAlphanumeric start p)
    (fresh : FreshAt isAlphanumeric start) :
    OpenAt p (some ⟨start.offset.byteIdx, (text.extract start p).toList.reverse⟩) start

namespace OpenAt

/-- A letter or digit starts a run or carries one on. -/
theorem next {run? : Option OpenRun} (h : OpenAt p run? start) {hne : p ≠ text.endPos}
    (hc : isAlphanumeric (p.get hne) = true) :
    OpenAt (p.next hne) (some (.extended p.offset.byteIdx (p.get hne) run?)) start := by
  cases h with
  | idle hfresh =>
    have hread := reading String.Pos.lt_next (within_self.next hc) hfresh
    rwa [toList_extract_next (Std.le_refl p), toList_extract_self] at hread
  | reading hnonempty hwithin hfresh =>
    have hle := Std.le_of_lt hnonempty
    have hread := reading (Std.lt_trans hnonempty String.Pos.lt_next) (hwithin.next hc) hfresh
    rwa [toList_extract_next hle, List.reverse_append] at hread

/-- An open run is a longest one where no letter or digit follows. -/
theorem isRun {run : OpenRun} (h : OpenAt p (some run) start) (hdone : DoneAt isAlphanumeric p) :
    IsRun isAlphanumeric start p := by
  cases h with
  | reading hnonempty hwithin hfresh => exact ⟨hnonempty, hwithin, hfresh, hdone⟩

theorem token_eq {run : OpenRun} (h : OpenAt p (some run) start) (position : Nat) :
    run.token p.offset.byteIdx position = stretchToken position (start, p) := by
  cases h with
  | reading => rw [OpenRun.token, stretchToken, List.reverse_reverse]

end OpenAt

/-- The tokens that the analyzer makes from a place on are those of the runs that it has not made tokens of. -/
theorem exists_runsFrom : ∀ {rest : List Char} {front : String} {p start : text.Pos} {run? : Option OpenRun}
    (position : Nat), p.Splits front (String.ofList rest) → OpenAt p run? start →
      ∃ runs, RunsFrom isAlphanumeric start runs ∧
        analyzeFrom p.offset.byteIdx position run? rest = stretchTokens position runs
  | [], _, p, start, run?, position, hsplits, hopen => by
    obtain ⟨rfl, -⟩ := String.Pos.splits_empty_right_iff.1 hsplits
    cases run? with
    | none =>
      cases hopen with
      | idle => exact ⟨[], .endPos, rfl⟩
    | some run =>
      -- The end of a text closes a run as a character of another kind does.
      refine ⟨[(start, text.endPos)], .cons (hopen.isRun doneAt_endPos) .endPos, ?_⟩
      rw [analyzeFrom, hopen.token_eq, stretchTokens_cons]
      rfl
  | c :: rest, front, p, start, run?, position, hsplits, hopen => by
    -- The byte that the analyzer counts is the one of the place behind the character.
    rw [String.ofList_cons] at hsplits
    have hne : p ≠ text.endPos := hsplits.ne_endPos_of_singleton
    have hnext := hsplits.next
    obtain rfl : p.get hne = c := hnext.get_eq_of_singleton
    have hbyte := p.byteIdx_offset_next hne
    cases hc : isAlphanumeric (p.get hne) with
    | true =>
      -- Whether a run was open or not, the first run still starts where it did.
      obtain ⟨runs, hruns, htokens⟩ := exists_runsFrom position hnext (hopen.next hc)
      exact ⟨runs, hruns, by rw [analyzeFrom_of_alphanumeric hc, ← hbyte, htokens]⟩
    | false =>
      cases run? with
      | none =>
        cases hopen with
        | idle =>
          obtain ⟨runs, hruns, htokens⟩ := exists_runsFrom position hnext (.idle (freshAt_next hc))
          refine ⟨runs, hruns.skip hc, ?_⟩
          simp only [analyzeFrom, hc, ← hbyte, htokens]
      | some run =>
        obtain ⟨runs, hruns, htokens⟩ := exists_runsFrom (position + 1) hnext (.idle (freshAt_next hc))
        refine ⟨(start, p) :: runs, .cons (hopen.isRun fun _ => hc) (hruns.skip hc), ?_⟩
        simp only [analyzeFrom, hc, ← hbyte, htokens, stretchTokens_cons, hopen.token_eq]

/-! ## All tokens of a text -/

/-- A number up to a place of a text keeps its value in sixty-four bits. -/
theorem toNat_ofNat_of_place (hsize : text.utf8ByteSize < UInt64.size) {n : Nat} (hle : n ≤ p.offset.byteIdx) :
    (UInt64.ofNat n).toNat = n :=
  UInt64.toNat_ofNat_of_lt' (Nat.lt_of_le_of_lt (Nat.le_trans hle p.isValid.le_utf8ByteSize) hsize)

/-- No place is too large for its token: a run has fewer runs in front of it than bytes. -/
theorem places_stretchTokens {runs : List (text.Pos × text.Pos)} {f : Char → Bool}
    (hruns : RunsFrom f text.startPos runs) (hsize : text.utf8ByteSize < UInt64.size) :
    (stretchTokens 0 runs).map (fun token => (token.position.toNat, token.start.toNat, token.stop.toNat)) =
      runs.mapIdx fun i run => (i, run.1.offset.byteIdx, run.2.offset.byteIdx) := by
  have hplace {p : text.Pos} {n : Nat} := toNat_ofNat_of_place (p := p) (n := n) hsize
  refine List.ext_getElem (by simp [stretchTokens]) fun i _ h => ?_
  rw [List.length_mapIdx] at h
  simp only [stretchTokens, List.getElem_map, List.getElem_mapIdx, stretchToken, Nat.zero_add,
    hplace (hruns.index_le h), hplace (Nat.le_refl _)]

/-- What tokens tell of a text. -/
structure Tokenized (text : String) (runs : List (text.Pos × text.Pos)) (tokens : List AnalyzedToken) :
    Prop where
  /-- The stretches are the longest runs of letters and digits. -/
  longest : ∀ start stop, (start, stop) ∈ runs ↔ IsRun isAlphanumeric start stop
  /-- They stand in their order, and each ends at least a byte in front of the next. -/
  apart : runs.Pairwise fun run later => run.2.offset.byteIdx + 1 ≤ later.1.offset.byteIdx
  /-- Every letter or digit lies in one of them, and in no other. -/
  covers : ∀ (p : text.Pos) (h : p ≠ text.endPos), isAlphanumeric (p.get h) = true →
    ∃! run, run ∈ runs ∧ run.1 ≤ p ∧ p < run.2
  /-- Each has a token with its text in lowercase, its place among the others and its places in bytes. -/
  told : tokens = stretchTokens 0 runs
  /-- Sixty-four bits hold these places unless the text is too long for any memory. -/
  places : text.utf8ByteSize < UInt64.size → tokens.map (fun token =>
    (token.position.toNat, token.start.toNat, token.stop.toNat)) =
      runs.mapIdx fun i run => (i, run.1.offset.byteIdx, run.2.offset.byteIdx)

theorem tokenized_analyzeText (text : String) : ∃ runs, Tokenized text runs (analyzeText text) := by
  have hsplits : text.startPos.Splits "" (String.ofList text.toList) := by simp
  obtain ⟨runs, hruns, htokens⟩ := exists_runsFrom 0 hsplits (.idle freshAt_startPos)
  have htold : analyzeText text = stretchTokens 0 runs := htokens
  exact ⟨runs, fun start stop => hruns.mem_iff, hruns.apart, fun p h => hruns.existsUnique h, htold,
    fun hsize => htold ▸ places_stretchTokens hruns hsize⟩

/-- Asked for the tokens of a text under a name that reaches an index, the engine in memory gives the longest
runs of letters and digits of the text. -/
theorem Memory.analyze_exact {memory : Memory} {name text : String} {targets : List String} {body : Json}
    (hname : memory.store.readTargets name = .ok targets)
    (htext : body.field? "text" = some (.string text)) :
    ∃ tokens runs, (Memory.answer (.analyze name body) memory).1 = .ok tokens ∧ Tokenized text runs tokens := by
  obtain ⟨runs, htokens⟩ := tokenized_analyzeText text
  refine ⟨analyzeText text, runs, ?_, htokens⟩
  have hstore : (memory.count (.analyze name body)).store = memory.store := rfl
  rw [Memory.answer, Memory.serve, hstore, Store.analyze, hname, htext]
  rfl

/-- Places are counted in bytes, and a capital sigma at the end of a run becomes a final one. -/
theorem Memory.analyze_exact_of_greek :
    let memory := Memory.seed {} "pages" "1" .null
    let body : Json := .ofFields [("analyzer", .string "standard_stopwords"), ("text", .string "Öl: 2×ΟΔΟΣ")]
    let tokens : List AnalyzedToken :=
      [⟨"öl", 0, 3, "<ALPHANUM>", 0⟩, ⟨"2", 5, 6, "<ALPHANUM>", 1⟩, ⟨"οδος", 8, 16, "<ALPHANUM>", 2⟩]
    memory.store.readTargets "pages" = .ok ["pages"] ∧
      body.field? "text" = some (.string "Öl: 2×ΟΔΟΣ") ∧
      (Memory.answer (.analyze "pages" body) memory).1 = .ok tokens ∧
      ∃ runs, Tokenized "Öl: 2×ΟΔΟΣ" runs tokens ∧
        runs.mapIdx (fun i run => (i, run.1.offset.byteIdx, run.2.offset.byteIdx)) =
          [(0, 0, 3), (1, 5, 6), (2, 8, 16)] := by
  intro memory body tokens
  have hname : memory.store.readTargets "pages" = .ok ["pages"] := by rfl
  have htext : body.field? "text" = some (.string "Öl: 2×ΟΔΟΣ") := by decide +kernel
  obtain ⟨tokens', runs, hanswer, htokens⟩ := Memory.analyze_exact hname htext
  have hlist : analyzeText "Öl: 2×ΟΔΟΣ" = tokens := by decide +kernel
  obtain rfl : tokens' = tokens := Except.ok.inj (hanswer.symm.trans (congrArg Except.ok hlist))
  exact ⟨hname, htext, hanswer, runs, htokens, (htokens.places (by decide)).symm⟩

end SiteSearch
