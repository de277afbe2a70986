import Mathlib.Tactic.IntervalCases
import SiteSearch.Json.Printer
import SiteSearch.Json.Reader
import SiteSearch.Proofs.Json.Number

/-!
# Values that read back

The text of a value gives the value (`Json.readWith?_render`), for every way to read numbers that gets the
value's numbers back, and within every limit that the value's depth keeps.

The text is cut into the tokens of the value wherever it stands before a character that ends a word and a
number (`Json.lexFrom?_render`), and the tokens are put together to the value with anything open around
them (`Json.foldlM_tokens`). No control character is in the text (`Json.printable_render`), so it
stays on one line.
-/

namespace SiteSearch

/-! ## What is asked of a value -/

namespace Json

mutual

/-- A property of every number inside the value. -/
def Numbers (p : JsonNumber → Prop) : Json → Prop
  | number n => p n
  | array items => ItemsNumbers p items
  | object fields => FieldsNumbers p fields
  | _ => True

/-- A property of every number inside a list of values. -/
def ItemsNumbers (p : JsonNumber → Prop) : List Json → Prop
  | [] => True
  | item :: items => Numbers p item ∧ ItemsNumbers p items

/-- A property of every number inside a list of fields. -/
def FieldsNumbers (p : JsonNumber → Prop) : List (String × Json) → Prop
  | [] => True
  | (_, value) :: fields => Numbers p value ∧ FieldsNumbers p fields

end

mutual

/-- How many arrays and objects of the value are open at a time. -/
def depth : Json → Nat
  | array items => itemsDepth items + 1
  | object fields => fieldsDepth fields + 1
  | _ => 0

/-- The largest depth in a list of values. -/
def itemsDepth : List Json → Nat
  | [] => 0
  | item :: items => max (depth item) (itemsDepth items)

/-- The largest depth in a list of fields. -/
def fieldsDepth : List (String × Json) → Nat
  | [] => 0
  | (_, value) :: fields => max (depth value) (fieldsDepth fields)

end

mutual

/-- The tokens of a value. -/
def tokens : Json → List JsonToken
  | array items => .openArray :: itemTokens items ++ [.closeArray]
  | object fields => .openObject :: fieldTokens fields ++ [.closeObject]
  | value => [.scalar value]

/-- The tokens of items, with a comma between each two. -/
def itemTokens : List Json → List JsonToken
  | [] => []
  | [item] => tokens item
  | item :: next :: items => tokens item ++ .comma :: itemTokens (next :: items)

/-- The tokens of fields, with a comma between each two. -/
def fieldTokens : List (String × Json) → List JsonToken
  | [] => []
  | [(name, value)] => .scalar (.string name) :: .colon :: tokens value
  | (name, value) :: next :: fields =>
    .scalar (.string name) :: .colon :: tokens value ++ .comma :: fieldTokens (next :: fields)

end

end Json

/-! ## Cutting into tokens -/

namespace JsonToken

variable {number? : List Char → Option JsonNumber} {state next : LexState} {c : Char}
  {text rest : List Char} {done : List JsonToken} {token : JsonToken}

theorem lexFrom?_cons (h : step? number? state c = some (next, done)) :
    lexFrom? number? state (c :: rest) = (lexFrom? number? next rest).map (done ++ ·) := by
  rw [lexFrom?, h]

/-- A character that completes no token. -/
theorem lexFrom?_silent (h : step? number? state c = some (next, [])) :
    lexFrom? number? state (c :: rest) = lexFrom? number? next rest := by
  rw [lexFrom?_cons h]
  simp

/-- A character between two tokens. -/
theorem lexFrom?_start (h : start? c = some (next, done)) :
    lexFrom? number? .between (c :: rest) = (lexFrom? number? next rest).map (done ++ ·) := by
  rw [lexFrom?_cons]
  exact h

/-- A character that is a token of its own. -/
theorem lexFrom?_mark (h : start? c = some (.between, [token])) :
    lexFrom? number? .between (c :: rest) = (lexFrom? number? .between rest).map (token :: ·) :=
  lexFrom?_start h

/-- A character that begins a longer token. -/
theorem lexFrom?_begin (h : start? c = some (next, [])) :
    lexFrom? number? .between (c :: rest) = lexFrom? number? next rest := by
  rw [lexFrom?_start h]
  simp

/-- No word and no number goes on with the text. -/
def Stops (rest : List Char) : Prop :=
  ∀ c ∈ rest.head?, c.isLower = false ∧ goesOnNumber c = false

/-- A word or a number is complete where the text stops it. -/
theorem lexFrom?_finish (hdone : finish? number? state = some done)
    (hstep : ∀ c ∈ rest.head?, step? number? state c =
      (do
        let done ← finish? number? state
        let (next, more) ← start? c
        some (next, done ++ more))) :
    lexFrom? number? state rest = (lexFrom? number? .between rest).map (done ++ ·) := by
  cases rest with
  | nil =>
    rw [lexFrom?, lexFrom?, hdone, finish?]
    simp
  | cons c rest =>
    have hc := hstep c rfl
    rw [hdone] at hc
    cases hstart : start? c with
    | none =>
      rw [lexFrom?, lexFrom?, hc]
      simp [hstart, step?]
    | some p =>
      obtain ⟨next, more⟩ := p
      rw [hstart] at hc
      rw [lexFrom?_cons hc, lexFrom?_start hstart]
      simp [Function.comp_def]

/-! ### Words and numbers -/

theorem lexFrom?_inWord {letters : List Char} (hletters : ∀ c ∈ text, c.isLower = true) :
    lexFrom? number? (.inWord letters) (text ++ rest) =
      lexFrom? number? (.inWord (text.reverse ++ letters)) rest := by
  induction text generalizing letters with
  | nil => rfl
  | cons c text ih =>
    obtain ⟨hc, htext⟩ := List.forall_mem_cons.1 hletters
    rw [List.cons_append, lexFrom?_silent (by rw [step?, if_pos hc]), ih htext]
    simp

/-- A word that is a name is cut out of a text that stops it. -/
theorem lexFrom?_word (hstart : start? c = some (.inWord [c], []))
    (htext : ∀ c ∈ text, c.isLower = true) (hword : ofWord? (c :: text) = some token)
    (hstops : Stops rest) :
    lexFrom? number? .between (c :: text ++ rest) =
      (lexFrom? number? .between rest).map (token :: ·) := by
  have hdone : finish? number? (.inWord (text.reverse ++ [c])) = some [token] := by
    simp [finish?, hword]
  rw [List.cons_append, lexFrom?_begin hstart, lexFrom?_inWord htext]
  refine lexFrom?_finish hdone fun c hc => ?_
  rw [step?, if_neg (by simp [(hstops c hc).1])]

theorem lexFrom?_inNumber {digits : List Char} (htext : ∀ c ∈ text, goesOnNumber c = true) :
    lexFrom? number? (.inNumber digits) (text ++ rest) =
      lexFrom? number? (.inNumber (text.reverse ++ digits)) rest := by
  induction text generalizing digits with
  | nil => rfl
  | cons c text ih =>
    obtain ⟨hc, htext⟩ := List.forall_mem_cons.1 htext
    rw [List.cons_append, lexFrom?_silent (by rw [step?, if_pos hc]), ih htext]
    simp

theorem start?_number (hc : c = '-' ∨ c.isDigit = true) : start? c = some (.inNumber [c], []) := by
  rcases hc with rfl | hc
  · rfl
  · have hne : ∀ d : Char, d.isDigit = false → c ≠ d := by
      rintro d hd rfl
      rw [hc] at hd
      cases hd
    simp [start?, hc, hne]

/-- A number that reads back is cut out of a text that stops it. -/
theorem lexFrom?_number {n : JsonNumber} (hn : number? n.render = some n) (hstops : Stops rest) :
    lexFrom? number? .between (n.render ++ rest) =
      (lexFrom? number? .between rest).map (.scalar (.number n) :: ·) := by
  obtain ⟨c, text, hrender, hc, htext⟩ := n.exists_render_cons
  have hdone : finish? number? (.inNumber (text.reverse ++ [c])) = some [.scalar (.number n)] := by
    rw [finish?, List.reverse_append, List.reverse_reverse]
    simp [← hrender, hn]
  rw [hrender, List.cons_append, lexFrom?_begin (start?_number hc), lexFrom?_inNumber htext]
  refine lexFrom?_finish hdone fun c hc => ?_
  rw [step?, if_neg (by simp [(hstops c hc).2])]

/-! ### Strings -/

theorem hexValue?_hexDigit {n : Nat} (h : n < 16) : hexValue? (hexDigit n) = some n := by
  interval_cases n <;> rfl

/-- A character with a letter of its own. -/
theorem lexFrom?_letter {read : List Char} {letter u : Char} (hletter : letter ≠ 'u')
    (h : unescape? letter = some u) :
    lexFrom? number? (.inString read) ('\\' :: letter :: rest) =
      lexFrom? number? (.inString (u :: read)) rest := by
  have hslash : step? number? (.inString read) '\\' = some (.escaped read, []) := rfl
  rw [lexFrom?_silent hslash, lexFrom?_silent]
  rw [step?, if_neg hletter, h]
  rfl

/-- A control character without a letter of its own. -/
theorem lexFrom?_code {read : List Char} (hc : c.toNat < 0x20) :
    lexFrom? number? (.inString read)
        ('\\' :: 'u' :: '0' :: '0' :: hexDigit (c.toNat / 16) :: hexDigit (c.toNat % 16) :: rest) =
      lexFrom? number? (.inString (c :: read)) rest := by
  have hfirst : hexValue? (hexDigit (c.toNat / 16)) = some (c.toNat / 16) :=
    hexValue?_hexDigit (by omega)
  have hsecond : hexValue? (hexDigit (c.toNat % 16)) = some (c.toNat % 16) :=
    hexValue?_hexDigit (by omega)
  have hcode : c.toNat / 16 * 16 + c.toNat % 16 = c.toNat := by omega
  have hclose : closeCode? read none c.toNat = some (.inString (c :: read)) := by
    have hlow : ¬ (0xDC00 ≤ c.toNat) := by omega
    have hhigh : ¬ (0xD800 ≤ c.toNat) := by omega
    simp [closeCode?, hlow, hhigh, Char.ofNat_toNat]
  have hslash : step? number? (.inString read) '\\' = some (.escaped read, []) := rfl
  have hu : step? number? (.escaped read) 'u' = some (.inCode read none 0 0, []) := rfl
  have hzero : step? number? (.inCode read none 0 0) '0' = some (.inCode read none 1 0, []) := rfl
  have hzero' : step? number? (.inCode read none 1 0) '0' = some (.inCode read none 2 0, []) := rfl
  have hthird : step? number? (.inCode read none 2 0) (hexDigit (c.toNat / 16)) =
      some (.inCode read none 3 (c.toNat / 16), []) := by
    simp [step?, hfirst]
  have hlast : step? number? (.inCode read none 3 (c.toNat / 16)) (hexDigit (c.toNat % 16)) =
      some (.inString (c :: read), []) := by
    simp [step?, hsecond, hcode, hclose]
  rw [lexFrom?_silent hslash, lexFrom?_silent hu, lexFrom?_silent hzero, lexFrom?_silent hzero',
    lexFrom?_silent hthird, lexFrom?_silent hlast]

/-- A character is read back from the way it is written in a string. -/
theorem lexFrom?_escape {read : List Char} (c : Char) :
    lexFrom? number? (.inString read) (JsonText.escape c ++ rest) =
      lexFrom? number? (.inString (c :: read)) rest := by
  have hcode : ∀ {n : Nat}, c.toNat = n → Char.ofNat n = c := by
    rintro n rfl
    exact Char.ofNat_toNat c
  rw [JsonText.escape]
  split_ifs with hquote hslash hback hform hline hreturn htab hcontrol
  · subst hquote
    exact lexFrom?_letter (by decide) rfl
  · subst hslash
    exact lexFrom?_letter (by decide) rfl
  · rw [← hcode hback]
    exact lexFrom?_letter (by decide) rfl
  · rw [← hcode hform]
    exact lexFrom?_letter (by decide) rfl
  · subst hline
    exact lexFrom?_letter (by decide) rfl
  · subst hreturn
    exact lexFrom?_letter (by decide) rfl
  · subst htab
    exact lexFrom?_letter (by decide) rfl
  · exact lexFrom?_code hcontrol
  · exact lexFrom?_silent (by rw [step?, if_neg hquote, if_neg hslash, if_neg hcontrol])

theorem lexFrom?_inString {read : List Char} (text : List Char) :
    lexFrom? number? (.inString read) (text.flatMap JsonText.escape ++ '"' :: rest) =
      (lexFrom? number? .between rest).map
        (.scalar (.string (String.ofList (read.reverse ++ text))) :: ·) := by
  induction text generalizing read with
  | nil =>
    rw [List.flatMap_nil, List.nil_append, lexFrom?_cons (by rw [step?, if_pos rfl]), List.append_nil]
    rfl
  | cons c text ih =>
    rw [List.flatMap_cons, List.append_assoc, lexFrom?_escape, ih]
    simp

theorem lexFrom?_quoted (s : String) :
    lexFrom? number? .between (JsonText.quoted s ++ rest) =
      (lexFrom? number? .between rest).map (.scalar (.string s) :: ·) := by
  rw [JsonText.quoted, List.cons_append, List.cons_append, lexFrom?_begin (c := '"') rfl,
    List.append_assoc, List.singleton_append, lexFrom?_inString]
  simp

end JsonToken

namespace Json

open JsonToken

variable {number? : List Char → Option JsonNumber} {limit : Option Nat}

/-- The number's text gives the number. -/
def ReadBack (number? : List Char → Option JsonNumber) (n : JsonNumber) : Prop :=
  number? n.render = some n

instance (n : JsonNumber) : Decidable (ReadBack number? n) :=
  inferInstanceAs (Decidable (number? n.render = some n))

theorem stops_mark {c : Char} {rest : List Char} (hc : c.isLower = false) (hc' : goesOnNumber c = false) :
    Stops (c :: rest) := by
  intro d hd
  cases hd
  exact ⟨hc, hc'⟩

mutual

/-- The tokens of a value are cut out of a text that stops words and numbers. -/
theorem lexFrom?_render : ∀ (j : Json) {rest : List Char}, j.Numbers (ReadBack number?) → Stops rest →
    lexFrom? number? .between (j.render ++ rest) =
      (lexFrom? number? .between rest).map (j.tokens ++ ·)
  | null, _, _, hstops => lexFrom?_word (c := 'n') rfl (by simp) rfl hstops
  | bool true, _, _, hstops => lexFrom?_word (c := 't') rfl (by simp) rfl hstops
  | bool false, _, _, hstops => lexFrom?_word (c := 'f') rfl (by simp) rfl hstops
  | number n, _, hnumbers, hstops => lexFrom?_number hnumbers hstops
  | string s, _, _, _ => lexFrom?_quoted s
  | array items, rest, hnumbers, _ => by
    have hclose : Stops (']' :: rest) := stops_mark (by decide) (by decide)
    have hitems := lexFrom?_renderItems items hnumbers hclose
    rw [render, List.append_assoc, List.singleton_append, List.cons_append,
      lexFrom?_mark (c := '[') rfl, hitems, lexFrom?_mark (c := ']') rfl]
    simp [tokens, Function.comp_def]
  | object fields, rest, hnumbers, _ => by
    have hclose : Stops ('\x7d' :: rest) := stops_mark (by decide) (by decide)
    have hfields := lexFrom?_renderFields fields hnumbers hclose
    rw [render, List.append_assoc, List.singleton_append, List.cons_append,
      lexFrom?_mark (c := '\x7b') rfl, hfields, lexFrom?_mark (c := '\x7d') rfl]
    simp [tokens, Function.comp_def]

theorem lexFrom?_renderItems : ∀ (items : List Json) {rest : List Char},
    ItemsNumbers (ReadBack number?) items → Stops rest →
    lexFrom? number? .between (renderItems items ++ rest) =
      (lexFrom? number? .between rest).map (itemTokens items ++ ·)
  | [], rest, _, _ => by simp [renderItems, itemTokens]
  | [item], rest, hnumbers, hstops => lexFrom?_render item hnumbers.1 hstops
  | item :: next :: items, rest, hnumbers, hstops => by
    have hcomma : Stops (',' :: (renderItems (next :: items) ++ rest)) :=
      stops_mark (by decide) (by decide)
    have hitem := lexFrom?_render item hnumbers.1 hcomma
    have hitems := lexFrom?_renderItems (next :: items) hnumbers.2 hstops
    rw [renderItems, List.append_assoc, List.cons_append, hitem, lexFrom?_mark (c := ',') rfl, hitems]
    simp [itemTokens, Function.comp_def]

theorem lexFrom?_renderFields : ∀ (fields : List (String × Json)) {rest : List Char},
    FieldsNumbers (ReadBack number?) fields → Stops rest →
    lexFrom? number? .between (renderFields fields ++ rest) =
      (lexFrom? number? .between rest).map (fieldTokens fields ++ ·)
  | [], rest, _, _ => by simp [renderFields, fieldTokens]
  | [(name, value)], rest, hnumbers, hstops => by
    have hvalue := lexFrom?_render value hnumbers.1 hstops
    rw [renderFields, List.append_assoc, lexFrom?_quoted, List.cons_append,
      lexFrom?_mark (c := ':') rfl, hvalue]
    simp [fieldTokens, Function.comp_def]
  | (name, value) :: next :: fields, rest, hnumbers, hstops => by
    have hcomma : Stops (',' :: (renderFields (next :: fields) ++ rest)) :=
      stops_mark (by decide) (by decide)
    have hvalue := lexFrom?_render value hnumbers.1 hcomma
    have hfields := lexFrom?_renderFields (next :: fields) hnumbers.2 hstops
    rw [renderFields]
    simp only [List.append_assoc, List.cons_append]
    rw [lexFrom?_quoted, lexFrom?_mark (c := ':') rfl, hvalue, lexFrom?_mark (c := ',') rfl, hfields]
    simp [fieldTokens, Function.comp_def]

end

/-! ## Putting together -/

/-- A field that is behind all others is put at the end. -/
theorem putEntry_of_rising {name : String} {value : Json} {fields rest : List (String × Json)}
    (h : RisingNames (fields ++ (name, value) :: rest)) :
    putEntry name value fields = fields ++ [(name, value)] := by
  induction fields with
  | nil => rfl
  | cons field fields ih =>
    obtain ⟨hfield, hfields⟩ := List.pairwise_cons.1 h
    have hlt : field.1 < name := hfield (name, value) (by simp)
    rw [putEntry, if_neg (String.lt_asymm hlt), if_pos hlt, ih hfields, List.cons_append]

/-- The reader is ready for a value. -/
def Expect.Ready (expect : Expect) : Prop :=
  expect = .value ∨ expect = .valueOrClose

/-- The arrays and objects that are open keep the limit, with some more of them. -/
def Keeps (limit : Option Nat) (frames : List Frame) (more : Nat) : Prop :=
  ∀ most ∈ limit, frames.length + more ≤ most

variable {frames : List Frame} {expect : Expect}

theorem Keeps.of_le {frames : List Frame} {more less : Nat} (h : Keeps limit frames more)
    (hle : less ≤ more) : Keeps limit frames less := fun most hmost => by
  have := h most hmost
  omega

/-- What is opened counts from then on. -/
theorem Keeps.cons {frames : List Frame} {more : Nat} (h : Keeps limit frames (more + 1)) (frame : Frame) :
    Keeps limit (frame :: frames) more := fun most hmost => by
  have := h most hmost
  rw [List.length_cons]
  omega

theorem foldlM_scalar (hready : expect.Ready) (value : Json) :
    [JsonToken.scalar value].foldlM (Partial.step? limit) ⟨frames, expect⟩ =
      some ⟨frames, .after value⟩ := by
  rcases hready with rfl | rfl <;> rfl

theorem step?_open (hready : expect.Ready) (hlimit : Keeps limit frames 1) :
    Partial.step? limit ⟨frames, expect⟩ .openArray = some ⟨.inArray [] :: frames, .valueOrClose⟩ ∧
      Partial.step? limit ⟨frames, expect⟩ .openObject =
        some ⟨.inObject [] :: frames, .nameOrClose⟩ := by
  have hall : limit.all (frames.length < ·) = true := by
    cases limit with
    | none => rfl
    | some most => exact decide_eq_true (hlimit most rfl)
  rcases hready with rfl | rfl <;> simp [Partial.step?, Partial.begin?, hall]

/-- A field's name and the colon behind it. -/
theorem foldlM_name {fields : List (String × Json)} (hready : expect = .name ∨ expect = .nameOrClose)
    (name : String) (rest : List JsonToken) :
    (.scalar (.string name) :: .colon :: rest).foldlM (Partial.step? limit)
        ⟨.inObject fields :: frames, expect⟩ =
      rest.foldlM (Partial.step? limit) ⟨.inField fields name :: frames, .value⟩ := by
  rcases hready with rfl | rfl <;> rfl

mutual

/-- The tokens of a value are put together to the value, with anything open around it. -/
theorem foldlM_tokens : ∀ (j : Json) {frames : List Frame} {expect : Expect}, expect.Ready →
    j.WellFormed → Keeps limit frames j.depth →
    j.tokens.foldlM (Partial.step? limit) ⟨frames, expect⟩ = some ⟨frames, .after j⟩
  | null, _, _, hready, _, _ => foldlM_scalar hready null
  | bool b, _, _, hready, _, _ => foldlM_scalar hready (bool b)
  | number n, _, _, hready, _, _ => foldlM_scalar hready (number n)
  | string s, _, _, hready, _, _ => foldlM_scalar hready (string s)
  | array items, frames, expect, hready, hwell, hlimit => by
    have hopen := (step?_open hready (hlimit.of_le (Nat.le_add_left 1 _))).1
    have hitems := foldlM_itemTokens items [] (.inr rfl) (fun _ => rfl) hwell (hlimit.cons (.inArray []))
    rw [tokens, List.cons_append, List.foldlM_cons, hopen]
    exact hitems
  | object fields, frames, expect, hready, hwell, hlimit => by
    have hopen := (step?_open hready (hlimit.of_le (Nat.le_add_left 1 _))).2
    have hfields := foldlM_fieldTokens fields [] (.inr rfl) (fun _ => rfl) hwell.1 hwell.2
      (hlimit.cons (.inObject []))
    rw [tokens, List.cons_append, List.foldlM_cons, hopen]
    exact hfields

theorem foldlM_itemTokens : ∀ (items done : List Json) {frames : List Frame} {expect : Expect},
    expect.Ready → (items = [] → expect = .valueOrClose) → ItemsWellFormed items →
    Keeps limit (.inArray done :: frames) (itemsDepth items) →
    (itemTokens items ++ [JsonToken.closeArray]).foldlM (Partial.step? limit)
        ⟨.inArray done :: frames, expect⟩ =
      some ⟨frames, .after (.array (done.reverse ++ items))⟩
  | [], done, frames, expect, _, hempty, _, _ => by
    rw [hempty rfl, List.append_nil]
    rfl
  | [item], done, frames, expect, hready, _, hwell, hlimit => by
    have hitem := foldlM_tokens item hready hwell.1 (hlimit.of_le (Nat.le_max_left _ _))
    rw [itemTokens, List.foldlM_append, hitem]
    show some (⟨frames, .after (.array (item :: done).reverse)⟩ : Partial) = _
    rw [List.reverse_cons]
  | item :: next :: items, done, frames, expect, hready, _, hwell, hlimit => by
    have hitem := foldlM_tokens item hready hwell.1 (hlimit.of_le (Nat.le_max_left _ _))
    have hrest : Keeps limit (.inArray (item :: done) :: frames) (itemsDepth (next :: items)) :=
      hlimit.of_le (Nat.le_max_right _ _)
    have hitems := foldlM_itemTokens (next :: items) (item :: done) (.inl rfl)
      (fun h => absurd h (List.cons_ne_nil _ _)) hwell.2 hrest
    rw [itemTokens, List.append_assoc, List.foldlM_append, hitem, List.cons_append]
    rw [List.reverse_cons, List.append_assoc] at hitems
    exact hitems

theorem foldlM_fieldTokens : ∀ (fields done : List (String × Json)) {frames : List Frame}
    {expect : Expect}, expect = .name ∨ expect = .nameOrClose → (fields = [] → expect = .nameOrClose) →
    RisingNames (done ++ fields) → FieldsWellFormed fields →
    Keeps limit (.inObject done :: frames) (fieldsDepth fields) →
    (fieldTokens fields ++ [JsonToken.closeObject]).foldlM (Partial.step? limit)
        ⟨.inObject done :: frames, expect⟩ =
      some ⟨frames, .after (.object (done ++ fields))⟩
  | [], done, frames, expect, _, hempty, _, _, _ => by
    rw [hempty rfl, List.append_nil]
    rfl
  | [(name, value)], done, frames, expect, hready, _, hrising, hwell, hlimit => by
    have hkeeps : Keeps limit (.inField done name :: frames) value.depth :=
      hlimit.of_le (Nat.le_max_left _ _)
    have hvalue := foldlM_tokens value (.inl rfl) hwell.1 hkeeps
    rw [fieldTokens, List.cons_append, List.cons_append, foldlM_name hready, List.foldlM_append, hvalue,
      ← putEntry_of_rising hrising]
    rfl
  | (name, value) :: next :: fields, done, frames, expect, hready, _, hrising, hwell, hlimit => by
    have hkeeps : Keeps limit (.inField done name :: frames) value.depth :=
      hlimit.of_le (Nat.le_max_left _ _)
    have hvalue := foldlM_tokens value (.inl rfl) hwell.1 hkeeps
    have hput := putEntry_of_rising hrising
    have hrest : Keeps limit (.inObject (putEntry name value done) :: frames)
        (fieldsDepth (next :: fields)) :=
      hlimit.of_le (Nat.le_max_right _ _)
    rw [← List.singleton_append, ← List.append_assoc, ← hput] at hrising
    have hfields := foldlM_fieldTokens (next :: fields) (putEntry name value done) (.inl rfl)
      (fun h => absurd h (List.cons_ne_nil _ _)) hrising hwell.2 hrest
    rw [hput, List.append_assoc, ← hput] at hfields
    rw [fieldTokens]
    simp only [List.cons_append, List.append_assoc]
    rw [foldlM_name hready, List.foldlM_append, hvalue]
    exact hfields

end

/-- The text of a value gives the value, if the numbers inside are read back and the depth keeps the
limit. -/
theorem readWith?_render {j : Json} (hnumbers : j.Numbers (ReadBack number?)) (hwell : j.WellFormed)
    (hlimit : ∀ most ∈ limit, j.depth ≤ most) : readWith? number? limit j.render = some j := by
  have hend : Stops [] := by
    rintro c ⟨⟩
  have hlex := lexFrom?_render j hnumbers hend
  have hkeeps : Keeps limit [] j.depth := fun most hmost => by simpa using hlimit most hmost
  rw [List.append_nil, lexFrom?, finish?, Option.map_some, List.append_nil] at hlex
  rw [readWith?, hlex, Option.bind_some, ofTokens?, foldlM_tokens j (.inl rfl) hwell hkeeps]
  rfl

/-! ## A reader without limits -/

/-- The value that a text writes, with any depth, its numbers being rounded once. -/
def readExact? (text : List Char) : Option Json :=
  readWith? JsonNumber.nearest? none text

section

variable {p q : JsonNumber → Prop}

mutual

theorem Numbers.imp (h : ∀ {n}, p n → q n) : ∀ {j : Json}, j.Numbers p → j.Numbers q
  | null, _ => trivial
  | bool _, _ => trivial
  | number _, hj => h hj
  | string _, _ => trivial
  | array _, hj => ItemsNumbers.imp h hj
  | object _, hj => FieldsNumbers.imp h hj

theorem ItemsNumbers.imp (h : ∀ {n}, p n → q n) :
    ∀ {items : List Json}, ItemsNumbers p items → ItemsNumbers q items
  | [], _ => trivial
  | _ :: _, hitems => ⟨Numbers.imp h hitems.1, ItemsNumbers.imp h hitems.2⟩

theorem FieldsNumbers.imp (h : ∀ {n}, p n → q n) :
    ∀ {fields : List (String × Json)}, FieldsNumbers p fields → FieldsNumbers q fields
  | [], _ => trivial
  | (_, _) :: _, hfields => ⟨Numbers.imp h hfields.1, FieldsNumbers.imp h hfields.2⟩

end

end

/-- Every value that can be held is read back from its text. -/
theorem readExact?_render {j : Json} (hnumbers : j.Numbers JsonNumber.Fits) (hwell : j.WellFormed) :
    readExact? j.render = some j :=
  readWith?_render (hnumbers.imp fun h => JsonNumber.nearest?_render h) hwell fun _ h => nomatch h

/-- The library's own reader gets a value back that is not too deep, unless it takes a floating-point
number for a neighbour. -/
theorem parse?_render {j : Json} (hnumbers : j.Numbers (ReadBack JsonNumber.read?)) (hwell : j.WellFormed)
    (hdepth : j.depth ≤ depthLimit) : parse? j.render = some j :=
  readWith?_render hnumbers hwell fun _ h => Option.some.inj h ▸ hdepth

/-! ## Lines -/

/-- There is no control character in the text. -/
def Printable (text : List Char) : Prop :=
  ∀ c ∈ text, 0x20 ≤ c.toNat

theorem Printable.nil : Printable [] := fun _ h => nomatch h

theorem Printable.cons {c : Char} {text : List Char} (hc : 0x20 ≤ c.toNat) (h : Printable text) :
    Printable (c :: text) :=
  List.forall_mem_cons.2 ⟨hc, h⟩

theorem Printable.append {text rest : List Char} (h : Printable text) (hrest : Printable rest) :
    Printable (text ++ rest) := fun c hc => (List.mem_append.1 hc).elim (h c) (hrest c)

theorem Printable.one {c : Char} (hc : 0x20 ≤ c.toNat) : Printable [c] := .cons hc .nil

theorem ge_space_of_hexDigit {n : Nat} (h : n < 16) : 0x20 ≤ (hexDigit n).toNat := by
  interval_cases n <;> decide

/-- What stands for a character in a string can be printed. -/
theorem printable_escape (c : Char) : Printable (JsonText.escape c) := by
  have hpair : ∀ {letter : Char}, 0x20 ≤ letter.toNat → Printable ['\\', letter] := fun hletter =>
    .cons (by decide) (.one hletter)
  rw [JsonText.escape]
  split_ifs with hquote hslash hback hform hline hreturn htab hcontrol
  · exact hpair (by decide)
  · exact hpair (by decide)
  · exact hpair (by decide)
  · exact hpair (by decide)
  · exact hpair (by decide)
  · exact hpair (by decide)
  · exact hpair (by decide)
  · have hhigh := ge_space_of_hexDigit (n := c.toNat / 16) (by omega)
    have hlow := ge_space_of_hexDigit (n := c.toNat % 16) (by omega)
    exact .cons (by decide) (.cons (by decide) (.cons (by decide) (.cons (by decide)
      (.cons hhigh (.one hlow)))))
  · exact .one (not_lt.1 hcontrol)

theorem printable_quoted (s : String) : Printable (JsonText.quoted s) := by
  refine .cons (by decide) (.append (fun c hc => ?_) (.one (by decide)))
  obtain ⟨d, -, hd⟩ := List.mem_flatMap.1 hc
  exact printable_escape d c hd

theorem ge_space_of_goesOnNumber {c : Char} (h : goesOnNumber c = true) : 0x20 ≤ c.toNat := by
  simp only [goesOnNumber, Bool.or_eq_true, decide_eq_true_eq] at h
  rcases h with ((((h | rfl) | rfl) | rfl) | rfl) | rfl
  · have hbounds := Text.toNat_of_isDigit h
    omega
  · decide
  · decide
  · decide
  · decide
  · decide

theorem printable_number (n : JsonNumber) : Printable n.render := by
  obtain ⟨first, rest, hrender, hfirst, hrest⟩ := n.exists_render_cons
  rw [hrender]
  refine .cons (ge_space_of_goesOnNumber ?_) fun c hc => ge_space_of_goesOnNumber (hrest c hc)
  rcases hfirst with rfl | hdigit
  · rfl
  · exact goesOnNumber_of_isDigit hdigit

mutual

theorem printable_render : ∀ j : Json, Printable j.render
  | null => .cons (by decide) (.cons (by decide) (.cons (by decide) (.one (by decide))))
  | bool true => .cons (by decide) (.cons (by decide) (.cons (by decide) (.one (by decide))))
  | bool false =>
    .cons (by decide) (.cons (by decide) (.cons (by decide) (.cons (by decide) (.one (by decide)))))
  | number n => printable_number n
  | string s => printable_quoted s
  | array items => .cons (by decide) (.append (printable_renderItems items) (.one (by decide)))
  | object fields => .cons (by decide) (.append (printable_renderFields fields) (.one (by decide)))

theorem printable_renderItems : ∀ items : List Json, Printable (renderItems items)
  | [] => .nil
  | [item] => printable_render item
  | item :: next :: items =>
    .append (printable_render item) (.cons (by decide) (printable_renderItems (next :: items)))

theorem printable_renderFields : ∀ fields : List (String × Json), Printable (renderFields fields)
  | [] => .nil
  | [(name, value)] => .append (printable_quoted name) (.cons (by decide) (printable_render value))
  | (name, value) :: next :: fields =>
    .append (.append (printable_quoted name) (.cons (by decide) (printable_render value)))
      (.cons (by decide) (printable_renderFields (next :: fields)))

end

/-- The text of a value is on one line. -/
theorem newline_notMem_render (j : Json) : '\n' ∉ j.render :=
  fun h => absurd (printable_render j '\n' h) (by decide)

end Json

end SiteSearch
