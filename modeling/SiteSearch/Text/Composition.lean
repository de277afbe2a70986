import SiteSearch.Text.MarkOrder

/-!
# Composed text

A letter with an accent may be written as one character or as two. `composed` brings a text to the
form with the fewest characters: every character is taken apart, the marks are put in order, and
then what goes together is put together, always with the last character that is no mark. The table
is that of Unicode 18; syllables of Hangul follow a rule of their own. Characters that can be taken
apart and are never put together again are not in it.
-/
namespace SiteSearch.Text

/-! ## Pairs -/

/-- For a second character, the first ones that it goes together with; what comes about stands
behind each of them. -/
def compositionRows : List (Nat × String) :=
  [(0x300, "AÀEÈIÌNǸOÒUÙWẀYỲaàeèiìnǹoòuùwẁyỳ¨῭ÂẦÊỀÔỒÜǛâầêềôồüǜĂẰăằĒḔēḕŌṐōṑƠỜơờƯỪưừΑᾺΕῈΗῊ"),
   (0x300, "ΙῚΟῸΥῪΩῺαὰεὲηὴιὶοὸυὺωὼϊῒϋῢЕЀИЍеѐиѝἀἂἁἃἈἊἉἋἐἒἑἓἘἚἙἛἠἢἡἣἨἪἩἫἰἲἱἳἸἺἹἻὀὂὁὃὈὊὉὋὐὒ"),
   (0x300, "ὑὓὙὛὠὢὡὣὨὪὩὫ᾿῍῾῝"),
   (0x301, "AÁCĆEÉGǴIÍKḰLĹMḾNŃOÓPṔRŔSŚUÚWẂYÝZŹaácćeégǵiíkḱlĺmḿnńoópṕrŕsśuúwẃyýzź¨΅ÂẤÅǺÆǼ"),
   (0x301, "ÇḈÊẾÏḮÔỐÕṌØǾÜǗâấåǻæǽçḉêếïḯôốõṍøǿüǘĂẮăắĒḖēḗŌṒōṓŨṸũṹƠỚơớƯỨưứΑΆΕΈΗΉΙΊΟΌΥΎΩΏαάεέ"),
   (0x301, "ηήιίοόυύωώϊΐϋΰϒϓГЃКЌгѓкќἀἄἁἅἈἌἉἍἐἔἑἕἘἜἙἝἠἤἡἥἨἬἩἭἰἴἱἵἸἼἹἽὀὄὁὅὈὌὉὍὐὔὑὕὙὝὠὤὡὥὨὬ"),
   (0x301, "ὩὭ᾿῎῾῞"), (0x302, "AÂCĈEÊGĜHĤIÎJĴOÔSŜUÛWŴYŶZẐaâcĉeêgĝhĥiîjĵoôsŝuûwŵyŷzẑẠẬạậẸỆẹệỌỘọộ"),
   (0x303, "AÃEẼIĨNÑOÕUŨVṼYỸaãeẽiĩnñoõuũvṽyỹÂẪÊỄÔỖâẫêễôỗĂẴăẵƠỠơỡƯỮưữ"),
   (0x304, "AĀEĒGḠIĪOŌUŪYȲaāeēgḡiīoōuūyȳÄǞÆǢÕȬÖȪÜǕäǟæǣõȭöȫüǖǪǬǫǭȦǠȧǡȮȰȯȱΑᾹΙῙΥῩαᾱιῑυῡИӢУӮ"),
   (0x304, "иӣуӯḶḸḷḹṚṜṛṝ"),
   (0x306, "AĂEĔGĞIĬOŎUŬaăeĕgğiĭoŏuŭȨḜȩḝΑᾸΙῘΥῨαᾰιῐυῠАӐЕӖЖӁИЙУЎаӑеӗжӂийуўẠẶạặ"),
   (0x307, "AȦBḂCĊDḊEĖFḞGĠHḢIİMṀNṄOȮPṖRṘSṠTṪWẆXẊYẎZŻaȧbḃcċdḋeėfḟgġhḣmṁnṅoȯpṗrṙsṡtṫwẇxẋyẏ"),
   (0x307, "zżŚṤśṥŠṦšṧſẛṢṨṣṩ"),
   (0x308, "AÄEËHḦIÏOÖUÜWẄXẌYŸaäeëhḧiïoötẗuüwẅxẍyÿÕṎõṏŪṺūṻΙΪΥΫιϊυϋϒϔІЇАӒЕЁЖӜЗӞИӤОӦУӰЧӴЫӸ"),
   (0x308, "ЭӬаӓеёжӝзӟиӥоӧуӱчӵыӹэӭіїӘӚәӛӨӪөӫ"),
   (0x309, "AẢEẺIỈOỎUỦYỶaảeẻiỉoỏuủyỷÂẨÊỂÔỔâẩêểôổĂẲăẳƠỞơởƯỬưử"), (0x30A, "AÅUŮaåuůwẘyẙ"),
   (0x30B, "OŐUŰoőuűУӲуӳ"),
   (0x30C, "AǍCČDĎEĚGǦHȞIǏKǨLĽNŇOǑRŘSŠTŤUǓZŽaǎcčdďeěgǧhȟiǐjǰkǩlľnňoǒrřsštťuǔzžÜǙüǚƷǮʒǯ"),
   (0x30F, "AȀEȄIȈOȌRȐUȔaȁeȅiȉoȍrȑuȕѴѶѵѷ"), (0x311, "AȂEȆIȊOȎRȒUȖaȃeȇiȋoȏrȓuȗ"),
   (0x313, "ΑἈΕἘΗἨΙἸΟὈΩὨαἀεἐηἠιἰοὀρῤυὐωὠ"), (0x314, "ΑἉΕἙΗἩΙἹΟὉΡῬΥὙΩὩαἁεἑηἡιἱοὁρῥυὑωὡ"),
   (0x31B, "OƠUƯoơuư"),
   (0x323, "AẠBḄDḌEẸHḤIỊKḲLḶMṂNṆOỌRṚSṢTṬUỤVṾWẈYỴZẒaạbḅdḍeẹhḥiịkḳlḷmṃnṇoọrṛsṣtṭuụvṿwẉyỵzẓ"),
   (0x323, "ƠỢơợƯỰưự"), (0x324, "UṲuṳ"), (0x325, "AḀaḁ"), (0x326, "SȘTȚsștț"),
   (0x327, "CÇDḐEȨGĢHḨKĶLĻNŅRŖSŞTŢcçdḑeȩgģhḩkķlļnņrŗsştţ"), (0x328, "AĄEĘIĮOǪUŲaąeęiįoǫuų"),
   (0x32D, "DḒEḘLḼNṊTṰUṶdḓeḙlḽnṋtṱuṷ"), (0x32E, "HḪhḫ"), (0x330, "EḚIḬUṴeḛiḭuṵ"),
   (0x331, "BḆDḎKḴLḺNṈRṞTṮZẔbḇdḏhẖkḵlḻnṉrṟtṯzẕ"),
   (0x338, "<≮=≠>≯←↚→↛↔↮⇐⇍⇒⇏⇔⇎∃∄∈∉∋∌∣∤∥∦∼≁≃≄≅≇≈≉≍≭≡≢≤≰≥≱≲≴≳≵≶≸≷≹≺⊀≻⊁≼⋠≽⋡⊂⊄⊃⊅⊆⊈⊇⊉⊑⋢⊒⋣⊢⊬⊨⊭"),
   (0x338, "⊩⊮⊫⊯⊲⋪⊳⋫⊴⋬⊵⋭"), (0x342, "¨῁αᾶηῆιῖυῦωῶϊῗϋῧἀἆἁἇἈἎἉἏἠἦἡἧἨἮἩἯἰἶἱἷἸἾἹἿὐὖὑὗὙὟὠὦὡὧὨὮὩὯ᾿῏῾῟"),
   (0x345, "ΑᾼΗῌΩῼάᾴήῄαᾳηῃωῳώῴἀᾀἁᾁἂᾂἃᾃἄᾄἅᾅἆᾆἇᾇἈᾈἉᾉἊᾊἋᾋἌᾌἍᾍἎᾎἏᾏἠᾐἡᾑἢᾒἣᾓἤᾔἥᾕἦᾖἧᾗἨᾘἩᾙἪᾚἫᾛἬᾜ"),
   (0x345, "ἭᾝἮᾞἯᾟὠᾠὡᾡὢᾢὣᾣὤᾤὥᾥὦᾦὧᾧὨᾨὩᾩὪᾪὫᾫὬᾬὭᾭὮᾮὯᾯὰᾲὴῂὼῲᾶᾷῆῇῶῷ"), (0x653, "\u0627\u0622"),
   (0x654, "\u0627\u0623\u0648\u0624\u064a\u0626\u06c1\u06c2\u06d2\u06d3\u06d5\u06c0"),
   (0x655, "\u0627\u0625"), (0x93C, "नऩरऱळऴ"), (0x9BE, "\u09c7\u09cb"), (0x9D7, "\u09c7\u09cc"),
   (0xB3E, "\u0b47\u0b4b"), (0xB56, "\u0b47\u0b48"), (0xB57, "\u0b47\u0b4c"),
   (0xBBE, "\u0bc6\u0bca\u0bc7\u0bcb"), (0xBD7, "ஒஔ\u0bc6\u0bcc"), (0xC56, "\u0c46\u0c48"),
   (0xCC2, "\u0cc6\u0cca"), (0xCD5, "\u0cbf\u0cc0\u0cc6\u0cc7\u0cca\u0ccb"),
   (0xCD6, "\u0cc6\u0cc8"), (0xD3E, "\u0d46\u0d4a\u0d47\u0d4b"), (0xD57, "\u0d46\u0d4c"),
   (0xDCA, "\u0dd9\u0dda\u0ddc\u0ddd"), (0xDCF, "\u0dd9\u0ddc"), (0xDDF, "\u0dd9\u0dde"),
   (0x102E, "ဥဦ"),
   (0x1B35, "ᬅᬆᬇᬈᬉᬊᬋᬌᬍᬎᬑᬒ\u1b3a\u1b3b\u1b3c\u1b3d\u1b3e\u1b40\u1b3f\u1b41\u1b42\u1b43"),
   (0x3099, "うゔかがきぎくぐけげこごさざしじすずせぜそぞただちぢつづてでとどはばひびふぶへべほぼゝゞウヴカガキギクグケゲコゴサザシジスズセゼソゾタダチヂツヅテデトド"),
   (0x3099, "ハバヒビフブヘベホボワヷヰヸヱヹヲヺヽヾ"), (0x309A, "はぱひぴふぷへぺほぽハパヒピフプヘペホポ")]

/-- Pairs of characters with large codes, and what comes about. -/
def farCompositions : List (Nat × Nat × Nat) :=
  [(0x105D2, 0x307, 0x105C9), (0x105DA, 0x307, 0x105E4), (0x11099, 0x110BA, 0x1109A),
   (0x1109B, 0x110BA, 0x1109C), (0x110A5, 0x110BA, 0x110AB), (0x11131, 0x11127, 0x1112E),
   (0x11132, 0x11127, 0x1112F), (0x11347, 0x1133E, 0x1134B), (0x11347, 0x11357, 0x1134C),
   (0x113C2, 0x113B8, 0x113C7), (0x11384, 0x113BB, 0x11385), (0x1138B, 0x113C2, 0x1138E),
   (0x113C2, 0x113C2, 0x113C5), (0x11382, 0x113C9, 0x11383), (0x11390, 0x113C9, 0x11391),
   (0x113C2, 0x113C9, 0x113C8), (0x114B9, 0x114B0, 0x114BC), (0x114B9, 0x114BA, 0x114BB),
   (0x114B9, 0x114BD, 0x114BE), (0x115B8, 0x115AF, 0x115BA), (0x115B9, 0x115AF, 0x115BB),
   (0x11935, 0x11930, 0x11938), (0x1611E, 0x1611E, 0x16121), (0x1611E, 0x1611F, 0x16123),
   (0x16121, 0x1611F, 0x16126), (0x16122, 0x1611F, 0x16127), (0x16129, 0x1611F, 0x16124),
   (0x1611E, 0x16120, 0x16125), (0x16121, 0x16120, 0x16128), (0x1611E, 0x16129, 0x16122),
   (0x16D63, 0x16D67, 0x16D69), (0x16D67, 0x16D67, 0x16D68), (0x16D69, 0x16D67, 0x16D6A)]

/-- Characters two by two. -/
def twoByTwo : List Char → List (Char × Char)
  | a :: b :: rest => (a, b) :: twoByTwo rest
  | _ => []

/-- First character, second character and what comes about. -/
def compositions : List (Char × Char × Char) :=
  (compositionRows.flatMap fun (second, firsts) =>
      (twoByTwo firsts.toList).map fun (first, whole) => (first, Char.ofNat second, whole))
    ++ farCompositions.map fun (first, second, whole) =>
      (Char.ofNat first, Char.ofNat second, Char.ofNat whole)

/-! ## Hangul -/

/-- The first syllable. -/
def firstSyllable : Nat := 0xAC00

/-- Numbers of leading letters, vowels and trailing letters; there may be no trailing one. -/
def leadCount : Nat := 19

@[inherit_doc leadCount]
def vowelCount : Nat := 21

@[inherit_doc leadCount]
def tailCount : Nat := 28

/-- The number of a syllable, if a character is one. -/
def syllableNumber? (c : Char) : Option Nat :=
  if firstSyllable ≤ c.toNat && c.toNat < firstSyllable + leadCount * vowelCount * tailCount then
    some (c.toNat - firstSyllable)
  else none

/-- The number of a character among some that begin with a code. -/
def numberFrom? (first count : Nat) (c : Char) : Option Nat :=
  if first ≤ c.toNat && c.toNat < first + count then some (c.toNat - first) else none

/-- The letters of a syllable. -/
def syllableLetters (number : Nat) : List Char :=
  let lead := Char.ofNat (0x1100 + number / (vowelCount * tailCount))
  let vowel := Char.ofNat (0x1161 + number % (vowelCount * tailCount) / tailCount)
  if number % tailCount = 0 then [lead, vowel]
  else [lead, vowel, Char.ofNat (0x11A7 + number % tailCount)]

/-- The syllable of a leading letter and a vowel, or of a syllable without a trailing letter and
one. -/
def joinHangul? (first second : Char) : Option Char :=
  match numberFrom? 0x1100 leadCount first, numberFrom? 0x1161 vowelCount second with
  | some lead, some vowel =>
    some (Char.ofNat (firstSyllable + (lead * vowelCount + vowel) * tailCount))
  | _, _ =>
    match syllableNumber? first, numberFrom? 0x11A8 (tailCount - 1) second with
    | some number, some tail =>
      if number % tailCount = 0 then some (Char.ofNat (first.toNat + tail + 1)) else none
    | _, _ => none

/-! ## Taking apart -/

/-- The parts of a character. No character is put together in more than three steps. -/
def parts : (steps : Nat) → Char → List Char
  | 0, c => [c]
  | steps + 1, c =>
    match compositions.find? fun (_, _, whole) => whole = c with
    | some (first, second, _) => parts steps first ++ [second]
    | none => [c]

/-- A character taken apart. -/
def decomposedChar (c : Char) : List Char :=
  if c.toNat < 0x80 then [c]
  else
    match syllableNumber? c with
    | some number => syllableLetters number
    | none => parts 3 c

/-- A text with all taken apart and the marks in order. -/
def decomposed (text : List Char) : List Char :=
  ordered (text.flatMap decomposedChar)

/-! ## Putting together -/

/-- What two characters go together to. -/
def joined? (first second : Char) : Option Char :=
  match joinHangul? first second with
  | some syllable => some syllable
  | none =>
    (compositions.find? fun (a, b, _) => a = first && b = second).map fun (_, _, whole) => whole

/-- Puts a text together; `first` is the last character that is no mark, and `kept` are the marks
behind it that did not go together with it. A mark gets to it past those of lower classes only. -/
def joinFrom (first : Char) (kept : List Char) : List Char → List Char
  | [] => first :: kept
  | c :: rest =>
    let reaches := kept.getLast?.all fun mark => combiningClass mark < combiningClass c
    match if reaches then joined? first c else none with
    | some whole => joinFrom whole kept rest
    | none =>
      if combiningClass c = 0 then (first :: kept) ++ joinFrom c [] rest
      else joinFrom first (kept ++ [c]) rest

/-- A text with all put together that goes together. -/
def composed (text : List Char) : List Char :=
  match decomposed text with
  | [] => []
  | c :: rest => joinFrom c [] rest

end SiteSearch.Text
