/-!
# Composed characters

A character and the mark behind it are one character where Unicode has one for the two: the
canonical compositions, by the mark that takes part in them. Syllables of Hangul are composed by
arithmetic.
-/

namespace Galley.Text

/-- A mark, the characters that take it, and the characters that result. -/
structure MarkRow where
  mark : Char
  letters : String
  composed : String

/-- The marks that letters and signs take. -/
def markRows : List MarkRow := [
  -- grave
  ⟨'\u0300',
    "AEINOUWYaeinouwy¨ÂÊÔÜâêôüĂăĒēŌōƠơƯưΑΕΗΙΟΥΩαεηιουωϊϋЕИеиἀἁἈἉἐ" ++
      "ἑἘἙἠἡἨἩἰἱἸἹὀὁὈὉὐὑὙὠὡὨὩ᾿῾",
    "ÀÈÌǸÒÙẀỲàèìǹòùẁỳ῭ẦỀỒǛầềồǜẰằḔḕṐṑỜờỪừᾺῈῊῚῸῪῺὰὲὴὶὸὺὼῒῢЀЍѐѝἂἃἊἋἒ" ++
      "ἓἚἛἢἣἪἫἲἳἺἻὂὃὊὋὒὓὛὢὣὪὫ῍῝"⟩,
  -- acute
  ⟨'\u0301',
    "ACEGIKLMNOPRSUWYZacegiklmnoprsuwyz¨ÂÅÆÇÊÏÔÕØÜâåæçêïôõøüĂăĒēŌ" ++
      "ōŨũƠơƯưΑΕΗΙΟΥΩαεηιουωϊϋϒГКгкἀἁἈἉἐἑἘἙἠἡἨἩἰἱἸἹὀὁὈὉὐὑὙὠὡὨὩ᾿῾",
    "ÁĆÉǴÍḰĹḾŃÓṔŔŚÚẂÝŹáćéǵíḱĺḿńóṕŕśúẃýź΅ẤǺǼḈẾḮỐṌǾǗấǻǽḉếḯốṍǿǘẮắḖḗṒ" ++
      "ṓṸṹỚớỨứΆΈΉΊΌΎΏάέήίόύώΐΰϓЃЌѓќἄἅἌἍἔἕἜἝἤἥἬἭἴἵἼἽὄὅὌὍὔὕὝὤὥὬὭ῎῞"⟩,
  -- circumflex
  ⟨'\u0302',
    "ACEGHIJOSUWYZaceghijosuwyzẠạẸẹỌọ",
    "ÂĈÊĜĤÎĴÔŜÛŴŶẐâĉêĝĥîĵôŝûŵŷẑẬậỆệỘộ"⟩,
  -- tilde
  ⟨'\u0303',
    "AEINOUVYaeinouvyÂÊÔâêôĂăƠơƯư",
    "ÃẼĨÑÕŨṼỸãẽĩñõũṽỹẪỄỖẫễỗẴẵỠỡỮữ"⟩,
  -- macron
  ⟨'\u0304',
    "AEGIOUYaegiouyÄÆÕÖÜäæõöüǪǫȦȧȮȯΑΙΥαιυИУиуḶḷṚṛ",
    "ĀĒḠĪŌŪȲāēḡīōūȳǞǢȬȪǕǟǣȭȫǖǬǭǠǡȰȱᾹῙῩᾱῑῡӢӮӣӯḸḹṜṝ"⟩,
  -- breve
  ⟨'\u0306',
    "AEGIOUaegiouȨȩΑΙΥαιυАЕЖИУаежиуẠạ",
    "ĂĔĞĬŎŬăĕğĭŏŭḜḝᾸῘῨᾰῐῠӐӖӁЙЎӑӗӂйўẶặ"⟩,
  -- dot above
  ⟨'\u0307',
    "ABCDEFGHIMNOPRSTWXYZabcdefghmnoprstwxyzŚśŠšſ" ++
      "Ṣṣ𐗒𐗚",
    "ȦḂĊḊĖḞĠḢİṀṄȮṖṘṠṪẆẊẎŻȧḃċḋėḟġḣṁṅȯṗṙṡṫẇẋẏżṤṥṦṧẛ" ++
      "Ṩṩ𐗉𐗤"⟩,
  -- diaeresis
  ⟨'\u0308',
    "AEHIOUWXYaehiotuwxyÕõŪūΙΥιυϒІАЕЖЗИОУЧЫЭаежзиоучыэіӘәӨө",
    "ÄËḦÏÖÜẄẌŸäëḧïöẗüẅẍÿṎṏṺṻΪΫϊϋϔЇӒЁӜӞӤӦӰӴӸӬӓёӝӟӥӧӱӵӹӭїӚӛӪӫ"⟩,
  -- hook above
  ⟨'\u0309',
    "AEIOUYaeiouyÂÊÔâêôĂăƠơƯư",
    "ẢẺỈỎỦỶảẻỉỏủỷẨỂỔẩểổẲẳỞởỬử"⟩,
  -- ring above
  ⟨'\u030a',
    "AUauwy",
    "ÅŮåůẘẙ"⟩,
  -- double acute
  ⟨'\u030b',
    "OUouУу",
    "ŐŰőűӲӳ"⟩,
  -- caron
  ⟨'\u030c',
    "ACDEGHIKLNORSTUZacdeghijklnorstuzÜüƷʒ",
    "ǍČĎĚǦȞǏǨĽŇǑŘŠŤǓŽǎčďěǧȟǐǰǩľňǒřšťǔžǙǚǮǯ"⟩,
  -- double grave
  ⟨'\u030f',
    "AEIORUaeioruѴѵ",
    "ȀȄȈȌȐȔȁȅȉȍȑȕѶѷ"⟩,
  -- inverted breve
  ⟨'\u0311',
    "AEIORUaeioru",
    "ȂȆȊȎȒȖȃȇȋȏȓȗ"⟩,
  -- comma above, the smooth breathing
  ⟨'\u0313',
    "ΑΕΗΙΟΩαεηιορυω",
    "ἈἘἨἸὈὨἀἐἠἰὀῤὐὠ"⟩,
  -- reversed comma above, the rough breathing
  ⟨'\u0314',
    "ΑΕΗΙΟΡΥΩαεηιορυω",
    "ἉἙἩἹὉῬὙὩἁἑἡἱὁῥὑὡ"⟩,
  -- horn
  ⟨'\u031b',
    "OUou",
    "ƠƯơư"⟩,
  -- dot below
  ⟨'\u0323',
    "ABDEHIKLMNORSTUVWYZabdehiklmnorstuvwyzƠơƯư",
    "ẠḄḌẸḤỊḲḶṂṆỌṚṢṬỤṾẈỴẒạḅḍẹḥịḳḷṃṇọṛṣṭụṿẉỵẓỢợỰự"⟩,
  -- diaeresis below
  ⟨'\u0324',
    "Uu",
    "Ṳṳ"⟩,
  -- ring below
  ⟨'\u0325',
    "Aa",
    "Ḁḁ"⟩,
  -- comma below
  ⟨'\u0326',
    "STst",
    "ȘȚșț"⟩,
  -- cedilla
  ⟨'\u0327',
    "CDEGHKLNRSTcdeghklnrst",
    "ÇḐȨĢḨĶĻŅŖŞŢçḑȩģḩķļņŗşţ"⟩,
  -- ogonek
  ⟨'\u0328',
    "AEIOUaeiou",
    "ĄĘĮǪŲąęįǫų"⟩,
  -- circumflex below
  ⟨'\u032d',
    "DELNTUdelntu",
    "ḒḘḼṊṰṶḓḙḽṋṱṷ"⟩,
  -- breve below
  ⟨'\u032e',
    "Hh",
    "Ḫḫ"⟩,
  -- tilde below
  ⟨'\u0330',
    "EIUeiu",
    "ḚḬṴḛḭṵ"⟩,
  -- macron below
  ⟨'\u0331',
    "BDKLNRTZbdhklnrtz",
    "ḆḎḴḺṈṞṮẔḇḏẖḵḻṉṟṯẕ"⟩,
  -- long stroke
  ⟨'\u0338',
    "<=>←→↔⇐⇒⇔∃∈∋∣∥∼≃≅≈≍≡≤≥≲≳≶≷≺≻≼≽⊂⊃⊆⊇⊑⊒⊢⊨⊩⊫⊲⊳⊴⊵",
    "≮≠≯↚↛↮⇍⇏⇎∄∉∌∤∦≁≄≇≉≭≢≰≱≴≵≸≹⊀⊁⋠⋡⊄⊅⊈⊉⋢⋣⊬⊭⊮⊯⋪⋫⋬⋭"⟩,
  -- Greek circumflex
  ⟨'\u0342',
    "¨αηιυωϊϋἀἁἈἉἠἡἨἩἰἱἸἹὐὑὙὠὡὨὩ᾿῾",
    "῁ᾶῆῖῦῶῗῧἆἇἎἏἦἧἮἯἶἷἾἿὖὗὟὦὧὮὯ῏῟"⟩,
  -- Greek iota below
  ⟨'\u0345',
    "ΑΗΩάήαηωώἀἁἂἃἄἅἆἇἈἉἊἋἌἍἎἏἠἡἢἣἤἥἦἧἨἩἪἫἬἭἮἯὠὡὢὣὤὥὦὧὨὩὪὫὬὭὮὯὰὴὼ" ++
      "ᾶῆῶ",
    "ᾼῌῼᾴῄᾳῃῳῴᾀᾁᾂᾃᾄᾅᾆᾇᾈᾉᾊᾋᾌᾍᾎᾏᾐᾑᾒᾓᾔᾕᾖᾗᾘᾙᾚᾛᾜᾝᾞᾟᾠᾡᾢᾣᾤᾥᾦᾧᾨᾩᾪᾫᾬᾭᾮᾯᾲῂῲ" ++
      "ᾷῇῷ"⟩,
  -- voiced sound mark
  ⟨'\u3099',
    "うかきくけこさしすせそたちつてとはひふへほゝウカキクケコサシスセソタチツテトハヒフヘホワ" ++
      "ヰヱヲヽ",
    "ゔがぎぐげござじずぜぞだぢづでどばびぶべぼゞヴガギグゲゴザジズゼゾダヂヅデドバビブベボヷ" ++
      "ヸヹヺヾ"⟩,
  -- half-voiced sound mark
  ⟨'\u309a',
    "はひふへほハヒフヘホ",
    "ぱぴぷぺぽパピプペポ"⟩
]

/-- The other compositions: the code points of a character, of what follows it, and of what the two
    make. -/
def rareCompositions : List (Nat × Nat × Nat) := [
  (0x627, 0x653, 0x622), (0x627, 0x654, 0x623), (0x648, 0x654, 0x624), (0x64A, 0x654, 0x626),
  (0x6C1, 0x654, 0x6C2), (0x6D2, 0x654, 0x6D3), (0x6D5, 0x654, 0x6C0), (0x627, 0x655, 0x625),
  (0x928, 0x93C, 0x929), (0x930, 0x93C, 0x931), (0x933, 0x93C, 0x934), (0x9C7, 0x9BE, 0x9CB),
  (0x9C7, 0x9D7, 0x9CC), (0xB47, 0xB3E, 0xB4B), (0xB47, 0xB56, 0xB48), (0xB47, 0xB57, 0xB4C),
  (0xBC6, 0xBBE, 0xBCA), (0xBC7, 0xBBE, 0xBCB), (0xB92, 0xBD7, 0xB94), (0xBC6, 0xBD7, 0xBCC),
  (0xC46, 0xC56, 0xC48), (0xCC6, 0xCC2, 0xCCA), (0xCBF, 0xCD5, 0xCC0), (0xCC6, 0xCD5, 0xCC7),
  (0xCCA, 0xCD5, 0xCCB), (0xCC6, 0xCD6, 0xCC8), (0xD46, 0xD3E, 0xD4A), (0xD47, 0xD3E, 0xD4B),
  (0xD46, 0xD57, 0xD4C), (0xDD9, 0xDCA, 0xDDA), (0xDDC, 0xDCA, 0xDDD), (0xDD9, 0xDCF, 0xDDC),
  (0xDD9, 0xDDF, 0xDDE), (0x1025, 0x102E, 0x1026), (0x1B05, 0x1B35, 0x1B06),
  (0x1B07, 0x1B35, 0x1B08), (0x1B09, 0x1B35, 0x1B0A), (0x1B0B, 0x1B35, 0x1B0C),
  (0x1B0D, 0x1B35, 0x1B0E), (0x1B11, 0x1B35, 0x1B12), (0x1B3A, 0x1B35, 0x1B3B),
  (0x1B3C, 0x1B35, 0x1B3D), (0x1B3E, 0x1B35, 0x1B40), (0x1B3F, 0x1B35, 0x1B41),
  (0x1B42, 0x1B35, 0x1B43), (0x11099, 0x110BA, 0x1109A), (0x1109B, 0x110BA, 0x1109C),
  (0x110A5, 0x110BA, 0x110AB), (0x11131, 0x11127, 0x1112E), (0x11132, 0x11127, 0x1112F),
  (0x11347, 0x1133E, 0x1134B), (0x11347, 0x11357, 0x1134C), (0x113C2, 0x113B8, 0x113C7),
  (0x11384, 0x113BB, 0x11385), (0x1138B, 0x113C2, 0x1138E), (0x113C2, 0x113C2, 0x113C5),
  (0x11382, 0x113C9, 0x11383), (0x11390, 0x113C9, 0x11391), (0x113C2, 0x113C9, 0x113C8),
  (0x114B9, 0x114B0, 0x114BC), (0x114B9, 0x114BA, 0x114BB), (0x114B9, 0x114BD, 0x114BE),
  (0x115B8, 0x115AF, 0x115BA), (0x115B9, 0x115AF, 0x115BB), (0x11935, 0x11930, 0x11938),
  (0x1611E, 0x1611E, 0x16121), (0x1611E, 0x1611F, 0x16123), (0x16121, 0x1611F, 0x16126),
  (0x16122, 0x1611F, 0x16127), (0x16129, 0x1611F, 0x16124), (0x1611E, 0x16120, 0x16125),
  (0x16121, 0x16120, 0x16128), (0x1611E, 0x16129, 0x16122), (0x16D63, 0x16D67, 0x16D69),
  (0x16D67, 0x16D67, 0x16D68), (0x16D69, 0x16D67, 0x16D6A)
]

/-! ## 1. Hangul -/

/-- The syllable of two parts of one: an initial and a vowel, or a syllable without a final and a
    final. -/
def composeHangul? (a b : Nat) : Option Nat :=
  if 0x1100 ≤ a && a < 0x1113 && 0x1161 ≤ b && b < 0x1176 then
    some (0xAC00 + ((a - 0x1100) * 21 + (b - 0x1161)) * 28)
  else if 0xAC00 ≤ a && a < 0xD7A4 && (a - 0xAC00) % 28 = 0 && 0x11A8 ≤ b && b < 0x11C3 then
    some (a + (b - 0x11A7))
  else none

/-- The two parts of a syllable. -/
def decomposeHangul? (n : Nat) : Option (Nat × Nat) :=
  if 0xAC00 ≤ n && n < 0xD7A4 then
    let i := n - 0xAC00
    if i % 28 = 0 then some (0x1100 + i / 588, 0x1161 + i % 588 / 28)
    else some (n - i % 28, 0x11A7 + i % 28)
  else none

/-! ## 2. Pairs -/

/-- The character that `a` and `b` make. -/
def compose? (a b : Char) : Option Char :=
  let inRow (row : MarkRow) : Option Char :=
    if row.mark = b then (row.letters.toList.zip row.composed.toList).lookup a else none
  let isPair (p : Nat × Nat × Nat) : Bool := p.1 = a.toNat && p.2.1 = b.toNat
  (markRows.findSome? inRow).or <|
    ((rareCompositions.find? isPair).map fun p => Char.ofNat p.2.2).or <|
      (composeHangul? a.toNat b.toNat).map Char.ofNat

/-- The two characters that make `c`. -/
def decompose? (c : Char) : Option (Char × Char) :=
  let inRow (row : MarkRow) : Option (Char × Char) :=
    ((row.composed.toList.zip row.letters.toList).lookup c).map fun a => (a, row.mark)
  (markRows.findSome? inRow).or <|
    ((rareCompositions.find? fun p => p.2.2 = c.toNat).map fun p =>
      (Char.ofNat p.1, Char.ofNat p.2.1)).or <|
      (decomposeHangul? c.toNat).map fun p => (Char.ofNat p.1, Char.ofNat p.2)

end Galley.Text
