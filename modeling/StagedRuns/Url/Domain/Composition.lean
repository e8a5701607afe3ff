import StagedRuns.Text.Combining

/-!
The composed form of texts: marks on one character stand in the order of their classes, and what
can be written with one character is not written with several. Only the characters that domains are
written with are listed.
-/

namespace StagedRuns.Url.Domain

/-- Marks, each with pairs of a character and what it becomes with the mark. -/
def markedTable : List (Nat × String) :=
  [(0x300, "aàeèiìnǹoòuùwẁyỳâầêềôồüǜăằēḕōṑơờưừαὰεὲ"),
   (0x300, "ηὴιὶοὸυὺωὼϊῒϋῢеѐиѝἀἂἁἃἐἒἑἓἠἢἡἣἰἲἱἳὀὂὁὃ"), (0x300, "ὐὒὑὓὠὢὡὣ"),
   (0x301, "aácćeégǵiíkḱlĺmḿnńoópṕrŕsśuúwẃyýzźâấåǻ"),
   (0x301, "æǽçḉêếïḯôốõṍøǿüǘăắēḗōṓũṹơớưứαάεέηήιίοό"),
   (0x301, "υύωώϊΐϋΰгѓкќἀἄἁἅἐἔἑἕἠἤἡἥἰἴἱἵὀὄὁὅὐὔὑὕὠὤὡὥ"), (0x302, "aâcĉeêgĝhĥiîjĵoôsŝuûwŵyŷzẑạậẹệọộ"),
   (0x303, "aãeẽiĩnñoõuũvṽyỹâẫêễôỗăẵơỡưữ"), (0x304, "aāeēgḡiīoōuūyȳäǟæǣõȭöȫüǖǫǭȧǡȯȱαᾱιῑυῡиӣуӯḷḹṛṝ"),
   (0x306, "aăeĕgğiĭoŏuŭȩḝαᾰιῐυῠаӑеӗжӂийуўạặ"),
   (0x307, "aȧbḃcċdḋeėfḟgġhḣmṁnṅoȯpṗrṙsṡtṫwẇxẋyẏzżśṥšṧṣṩ𐗒𐗉𐗚𐗤"),
   (0x308, "aäeëhḧiïoötẗuüwẅxẍyÿõṏūṻιϊυϋаӓеёжӝзӟиӥоӧуӱчӵыӹэӭіїәӛөӫ"),
   (0x309, "aảeẻiỉoỏuủyỷâẩêểôổăẳơởưử"), (0x30A, "aåuůwẘyẙ"), (0x30B, "oőuűуӳ"),
   (0x30C, "aǎcčdďeěgǧhȟiǐjǰkǩlľnňoǒrřsštťuǔzžüǚʒǯ"), (0x30F, "aȁeȅiȉoȍrȑuȕѵѷ"),
   (0x311, "aȃeȇiȋoȏrȓuȗ"), (0x313, "αἀεἐηἠιἰοὀρῤυὐωὠ"), (0x314, "αἁεἑηἡιἱοὁρῥυὑωὡ"),
   (0x31B, "oơuư"), (0x323, "aạbḅdḍeẹhḥiịkḳlḷmṃnṇoọrṛsṣtṭuụvṿwẉyỵzẓơợưự"), (0x324, "uṳ"),
   (0x325, "aḁ"), (0x326, "sștț"), (0x327, "cçdḑeȩgģhḩkķlļnņrŗsştţ"), (0x328, "aąeęiįoǫuų"),
   (0x32D, "dḓeḙlḽnṋtṱuṷ"), (0x32E, "hḫ"), (0x330, "eḛiḭuṵ"), (0x331, "bḇdḏhẖkḵlḻnṉrṟtṯzẕ"),
   (0x338, "<≮=≠>≯←↚→↛↔↮⇐⇍⇒⇏⇔⇎∃∄∈∉∋∌∣∤∥∦∼≁≃≄≅≇≈≉≍≭"),
   (0x338, "≡≢≤≰≥≱≲≴≳≵≶≸≷≹≺⊀≻⊁≼⋠≽⋡⊂⊄⊃⊅⊆⊈⊇⊉⊑⋢⊒⋣⊢⊬⊨⊭"), (0x338, "⊩⊮⊫⊯⊲⋪⊳⋫⊴⋬⊵⋭"),
   (0x342, "αᾶηῆιῖυῦωῶϊῗϋῧἀἆἁἇἠἦἡἧἰἶἱἷὐὖὑὗὠὦὡὧ"), (0x653, "اآ"), (0x654, "اأوؤيئہۂےۓەۀ"),
   (0x655, "اإ"), (0x93C, "नऩरऱळऴ"), (0xBD7, "ஒஔ"), (0x102E, "ဥဦ"), (0x1B35, "ᬅᬆᬇᬈᬉᬊᬋᬌᬍᬎᬑᬒ"),
   (0x3099, "うゔかがきぎくぐけげこごさざしじすずせぜそぞただちぢつづてでとどはばひびふぶ"),
   (0x3099, "へべほぼゝゞウヴカガキギクグケゲコゴサザシジスズセゼソゾタダチヂツヅテデトド"), (0x3099, "ハバヒビフブヘベホボワヷヰヸヱヹヲヺヽヾ"),
   (0x309A, "はぱひぴふぷへぺほぽハパヒピフプヘペホポ"), (0x110BA, "𑂙𑂚𑂛𑂜𑂥𑂫"), (0x113BB, "𑎄𑎅"), (0x113C2, "𑎋𑎎"),
   (0x113C9, "𑎂𑎃𑎐𑎑"), (0x16D67, "𖵣𖵪𖵨𖵩𖵪")]

/-- Signs of two parts: the first part, the second, and both together. -/
def signTable : List (Nat × Nat × Nat) :=
  [(0x9C7, 0x9BE, 0x9CB), (0x9C7, 0x9D7, 0x9CC), (0xB47, 0xB3E, 0xB4B), (0xB47, 0xB56, 0xB48),
   (0xB47, 0xB57, 0xB4C), (0xBC6, 0xBBE, 0xBCA), (0xBC7, 0xBBE, 0xBCB), (0xBC6, 0xBD7, 0xBCC),
   (0xC46, 0xC56, 0xC48), (0xCC6, 0xCC2, 0xCCA), (0xCBF, 0xCD5, 0xCC0), (0xCC6, 0xCD5, 0xCC7),
   (0xCCA, 0xCD5, 0xCCB), (0xCC6, 0xCD6, 0xCC8), (0xD46, 0xD3E, 0xD4A), (0xD47, 0xD3E, 0xD4B),
   (0xD46, 0xD57, 0xD4C), (0xDD9, 0xDCA, 0xDDA), (0xDDC, 0xDCA, 0xDDD), (0xDD9, 0xDCF, 0xDDC),
   (0xDD9, 0xDDF, 0xDDE), (0x1B3A, 0x1B35, 0x1B3B), (0x1B3C, 0x1B35, 0x1B3D),
   (0x1B3E, 0x1B35, 0x1B40), (0x1B3F, 0x1B35, 0x1B41), (0x1B42, 0x1B35, 0x1B43),
   (0x11131, 0x11127, 0x1112E), (0x11132, 0x11127, 0x1112F), (0x11347, 0x1133E, 0x1134B),
   (0x11347, 0x11357, 0x1134C), (0x113C2, 0x113B8, 0x113C7), (0x113C2, 0x113C2, 0x113C5),
   (0x113C2, 0x113C9, 0x113C8), (0x114B9, 0x114B0, 0x114BC), (0x114B9, 0x114BA, 0x114BB),
   (0x114B9, 0x114BD, 0x114BE), (0x115B8, 0x115AF, 0x115BA), (0x115B9, 0x115AF, 0x115BB),
   (0x11935, 0x11930, 0x11938), (0x1611E, 0x1611E, 0x16121), (0x1611E, 0x1611F, 0x16123),
   (0x16121, 0x1611F, 0x16126), (0x16122, 0x1611F, 0x16127), (0x16129, 0x1611F, 0x16124),
   (0x1611E, 0x16120, 0x16125), (0x16121, 0x16120, 0x16128), (0x1611E, 0x16129, 0x16122)]

structure Composite where
  first : Char
  second : Char
  whole : Char
deriving DecidableEq, Repr

def Composite.withMark (mark : Char) : List Char → List Composite
  | first :: whole :: rest => ⟨first, mark, whole⟩ :: withMark mark rest
  | _ => []

/-- All composites but the syllables of Hangul. -/
def composites : List Composite :=
  markedTable.flatMap (fun (mark, text) => Composite.withMark (Char.ofNat mark) text.toList) ++
    signTable.map fun (first, second, whole) =>
      ⟨Char.ofNat first, Char.ofNat second, Char.ofNat whole⟩

/-! ### Syllables of Hangul -/

namespace Hangul

def base : Nat := 0xAC00

def leading : Nat := 0x1100

def vowel : Nat := 0x1161

/-- The place before the first final consonant, which stands for there being none. -/
def final : Nat := 0x11A7

def perLeading : Nat := 21 * 28

def isSyllable (c : Char) : Bool :=
  base ≤ c.toNat && c.toNat < base + 19 * perLeading

def parts? (c : Char) : Option (List Char) :=
  if isSyllable c then
    let place := c.toNat - base
    let start :=
      [Char.ofNat (leading + place / perLeading), Char.ofNat (vowel + place % perLeading / 28)]
    some (if place % 28 = 0 then start else start ++ [Char.ofNat (final + place % 28)])
  else none

def join? (first second : Char) : Option Char :=
  let (a, b) := (first.toNat, second.toNat)
  if leading ≤ a && a < leading + 19 && vowel ≤ b && b < vowel + 21 then
    some (Char.ofNat (base + ((a - leading) * 21 + (b - vowel)) * 28))
  else if isSyllable first && (a - base) % 28 = 0 && final < b && b < final + 28 then
    some (Char.ofNat (a + (b - final)))
  else none

end Hangul

/-! ### Parts and wholes -/

/-- The parts of a character, of which only the first can have parts again, and at most `depth`
times. -/
def partsOf : (depth : Nat) → Char → List Char
  | 0, c => [c]
  | depth + 1, c =>
      match Hangul.parts? c, composites.find? (·.whole = c) with
      | some parts, _ => parts
      | none, some composite => partsOf depth composite.first ++ [composite.second]
      | none, none => [c]

def join? (first second : Char) : Option Char :=
  match Hangul.join? first second with
  | some whole => some whole
  | none =>
      (composites.find? fun composite =>
        composite.first = first && composite.second = second).map (·.whole)

/-- Puts the marks on each character in the order of their classes. -/
def ordered (text : List Char) : List Char :=
  let groups := text.splitBy fun _ c => Text.combiningClass c ≠ 0
  groups.flatMap (·.mergeSort fun c d => Text.combiningClass c ≤ Text.combiningClass d)

/-- Joins what comes behind a character to it. The marks that stay are kept last one first, and one
of the same class or a higher one keeps a mark from the character. -/
def joined (c : Char) : (marks : List Char) → List Char → List Char
  | marks, [] => c :: marks.reverse
  | marks, d :: rest =>
      let reaches :=
        marks.head?.all fun mark => Text.combiningClass mark < Text.combiningClass d
      match if reaches then join? c d else none with
      | some whole => joined whole marks rest
      | none =>
          if Text.combiningClass d = 0 then c :: marks.reverse ++ joined d [] rest
          else joined c (d :: marks) rest

/-- The composed form of a text. No character has more than four parts. -/
def composed (text : List Char) : List Char :=
  match ordered (text.flatMap (partsOf 3)) with
  | [] => []
  | c :: rest => joined c [] rest

end StagedRuns.Url.Domain
