import CallWatch.Text.Mark

/-!
# Composed characters

A letter with a mark can be written as one character or as two.  `composed` brings text into the
form in which a character stands for as much as it can: characters are taken apart, marks that
commute are put in the order of their classes, and each mark is joined to its letter again unless
another mark keeps them apart.

Two or three parts of a Korean syllable are joined by arithmetic, all other pairs by a table.
-/

namespace CallWatch.Text

/-! ### Pairs -/

/-- The characters that one mark makes of the letters that can take it. -/
structure Composites where
  mark : Char
  /-- The letters without the mark. -/
  plain : String
  /-- The same letters with it, in the same order. -/
  marked : String

/-- All pairs of a letter and a mark that are also one character. -/
def composites : List Composites := [
  ⟨'\u0300', "AEINOUWYaeinouwy¨ÂÊÔÜâêôüĂăĒēŌōƠơƯưΑ", "ÀÈÌǸÒÙẀỲàèìǹòùẁỳ῭ẦỀỒǛầềồǜẰằḔḕṐṑỜờỪừᾺ"⟩,
  ⟨'\u0300', "ΕΗΙΟΥΩαεηιουωϊϋЕИеиἀἁἈἉἐἑἘἙἠἡἨἩἰἱἸἹὀ", "ῈῊῚῸῪῺὰὲὴὶὸὺὼῒῢЀЍѐѝἂἃἊἋἒἓἚἛἢἣἪἫἲἳἺἻὂ"⟩,
  ⟨'\u0300', "ὁὈὉὐὑὙὠὡὨὩ᾿῾", "ὃὊὋὒὓὛὢὣὪὫ῍῝"⟩,
  ⟨'\u0301', "ACEGIKLMNOPRSUWYZacegiklmnoprsuwyz¨Â", "ÁĆÉǴÍḰĹḾŃÓṔŔŚÚẂÝŹáćéǵíḱĺḿńóṕŕśúẃýź΅Ấ"⟩,
  ⟨'\u0301', "ÅÆÇÊÏÔÕØÜâåæçêïôõøüĂăĒēŌōŨũƠơƯưΑΕΗΙΟ", "ǺǼḈẾḮỐṌǾǗấǻǽḉếḯốṍǿǘẮắḖḗṒṓṸṹỚớỨứΆΈΉΊΌ"⟩,
  ⟨'\u0301', "ΥΩαεηιουωϊϋϒГКгкἀἁἈἉἐἑἘἙἠἡἨἩἰἱἸἹὀὁὈὉ", "ΎΏάέήίόύώΐΰϓЃЌѓќἄἅἌἍἔἕἜἝἤἥἬἭἴἵἼἽὄὅὌὍ"⟩,
  ⟨'\u0301', "ὐὑὙὠὡὨὩ᾿῾", "ὔὕὝὤὥὬὭ῎῞"⟩,
  ⟨'\u0302', "ACEGHIJOSUWYZaceghijosuwyzẠạẸẹỌọ", "ÂĈÊĜĤÎĴÔŜÛŴŶẐâĉêĝĥîĵôŝûŵŷẑẬậỆệỘộ"⟩,
  ⟨'\u0303', "AEINOUVYaeinouvyÂÊÔâêôĂăƠơƯư", "ÃẼĨÑÕŨṼỸãẽĩñõũṽỹẪỄỖẫễỗẴẵỠỡỮữ"⟩,
  ⟨'\u0304', "AEGIOUYaegiouyÄÆÕÖÜäæõöüǪǫȦȧȮȯΑΙΥαιυ", "ĀĒḠĪŌŪȲāēḡīōūȳǞǢȬȪǕǟǣȭȫǖǬǭǠǡȰȱᾹῙῩᾱῑῡ"⟩,
  ⟨'\u0304', "ИУиуḶḷṚṛ", "ӢӮӣӯḸḹṜṝ"⟩,
  ⟨'\u0306', "AEGIOUaegiouȨȩΑΙΥαιυАЕЖИУаежиуẠạ", "ĂĔĞĬŎŬăĕğĭŏŭḜḝᾸῘῨᾰῐῠӐӖӁЙЎӑӗӂйўẶặ"⟩,
  ⟨'\u0307', "ABCDEFGHIMNOPRSTWXYZabcdefghmnoprstw", "ȦḂĊḊĖḞĠḢİṀṄȮṖṘṠṪẆẊẎŻȧḃċḋėḟġḣṁṅȯṗṙṡṫẇ"⟩,
  ⟨'\u0307', "xyzŚśŠšſṢṣ𐗒𐗚", "ẋẏżṤṥṦṧẛṨṩ𐗉𐗤"⟩,
  ⟨'\u0308', "AEHIOUWXYaehiotuwxyÕõŪūΙΥιυϒІАЕЖЗИОУ", "ÄËḦÏÖÜẄẌŸäëḧïöẗüẅẍÿṎṏṺṻΪΫϊϋϔЇӒЁӜӞӤӦӰ"⟩,
  ⟨'\u0308', "ЧЫЭаежзиоучыэіӘәӨө", "ӴӸӬӓёӝӟӥӧӱӵӹӭїӚӛӪӫ"⟩,
  ⟨'\u0309', "AEIOUYaeiouyÂÊÔâêôĂăƠơƯư", "ẢẺỈỎỦỶảẻỉỏủỷẨỂỔẩểổẲẳỞởỬử"⟩,
  ⟨'\u030a', "AUauwy", "ÅŮåůẘẙ"⟩,
  ⟨'\u030b', "OUouУу", "ŐŰőűӲӳ"⟩,
  ⟨'\u030c', "ACDEGHIKLNORSTUZacdeghijklnorstuzÜüƷ", "ǍČĎĚǦȞǏǨĽŇǑŘŠŤǓŽǎčďěǧȟǐǰǩľňǒřšťǔžǙǚǮ"⟩,
  ⟨'\u030c', "ʒ", "ǯ"⟩,
  ⟨'\u030f', "AEIORUaeioruѴѵ", "ȀȄȈȌȐȔȁȅȉȍȑȕѶѷ"⟩,
  ⟨'\u0311', "AEIORUaeioru", "ȂȆȊȎȒȖȃȇȋȏȓȗ"⟩,
  ⟨'\u0313', "ΑΕΗΙΟΩαεηιορυω", "ἈἘἨἸὈὨἀἐἠἰὀῤὐὠ"⟩,
  ⟨'\u0314', "ΑΕΗΙΟΡΥΩαεηιορυω", "ἉἙἩἹὉῬὙὩἁἑἡἱὁῥὑὡ"⟩,
  ⟨'\u031b', "OUou", "ƠƯơư"⟩,
  ⟨'\u0323', "ABDEHIKLMNORSTUVWYZabdehiklmnorstuvw", "ẠḄḌẸḤỊḲḶṂṆỌṚṢṬỤṾẈỴẒạḅḍẹḥịḳḷṃṇọṛṣṭụṿẉ"⟩,
  ⟨'\u0323', "yzƠơƯư", "ỵẓỢợỰự"⟩,
  ⟨'\u0324', "Uu", "Ṳṳ"⟩,
  ⟨'\u0325', "Aa", "Ḁḁ"⟩,
  ⟨'\u0326', "STst", "ȘȚșț"⟩,
  ⟨'\u0327', "CDEGHKLNRSTcdeghklnrst", "ÇḐȨĢḨĶĻŅŖŞŢçḑȩģḩķļņŗşţ"⟩,
  ⟨'\u0328', "AEIOUaeiou", "ĄĘĮǪŲąęįǫų"⟩,
  ⟨'\u032d', "DELNTUdelntu", "ḒḘḼṊṰṶḓḙḽṋṱṷ"⟩,
  ⟨'\u032e', "Hh", "Ḫḫ"⟩,
  ⟨'\u0330', "EIUeiu", "ḚḬṴḛḭṵ"⟩,
  ⟨'\u0331', "BDKLNRTZbdhklnrtz", "ḆḎḴḺṈṞṮẔḇḏẖḵḻṉṟṯẕ"⟩,
  ⟨'\u0338', "<=>←→↔⇐⇒⇔∃∈∋∣∥∼≃≅≈≍≡≤≥≲≳≶≷≺≻≼≽⊂⊃⊆⊇⊑⊒", "≮≠≯↚↛↮⇍⇏⇎∄∉∌∤∦≁≄≇≉≭≢≰≱≴≵≸≹⊀⊁⋠⋡⊄⊅⊈⊉⋢⋣"⟩,
  ⟨'\u0338', "⊢⊨⊩⊫⊲⊳⊴⊵", "⊬⊭⊮⊯⋪⋫⋬⋭"⟩,
  ⟨'\u0342', "¨αηιυωϊϋἀἁἈἉἠἡἨἩἰἱἸἹὐὑὙὠὡὨὩ᾿῾", "῁ᾶῆῖῦῶῗῧἆἇἎἏἦἧἮἯἶἷἾἿὖὗὟὦὧὮὯ῏῟"⟩,
  ⟨'\u0345', "ΑΗΩάήαηωώἀἁἂἃἄἅἆἇἈἉἊἋἌἍἎἏἠἡἢἣἤἥἦἧἨἩἪ", "ᾼῌῼᾴῄᾳῃῳῴᾀᾁᾂᾃᾄᾅᾆᾇᾈᾉᾊᾋᾌᾍᾎᾏᾐᾑᾒᾓᾔᾕᾖᾗᾘᾙᾚ"⟩,
  ⟨'\u0345', "ἫἬἭἮἯὠὡὢὣὤὥὦὧὨὩὪὫὬὭὮὯὰὴὼᾶῆῶ", "ᾛᾜᾝᾞᾟᾠᾡᾢᾣᾤᾥᾦᾧᾨᾩᾪᾫᾬᾭᾮᾯᾲῂῲᾷῇῷ"⟩,
  ⟨'\u0653', "ا", "آ"⟩,
  ⟨'\u0654', "اويہےە", "أؤئۂۓۀ"⟩,
  ⟨'\u0655', "ا", "إ"⟩,
  ⟨'\u093c', "नरळ", "ऩऱऴ"⟩,
  ⟨'\u09be', "\u09c7", "\u09cb"⟩,
  ⟨'\u09d7', "\u09c7", "\u09cc"⟩,
  ⟨'\u0b3e', "\u0b47", "\u0b4b"⟩,
  ⟨'\u0b56', "\u0b47", "\u0b48"⟩,
  ⟨'\u0b57', "\u0b47", "\u0b4c"⟩,
  ⟨'\u0bbe', "\u0bc6\u0bc7", "\u0bca\u0bcb"⟩,
  ⟨'\u0bd7', "ஒ\u0bc6", "ஔ\u0bcc"⟩,
  ⟨'\u0c56', "\u0c46", "\u0c48"⟩,
  ⟨'\u0cc2', "\u0cc6", "\u0cca"⟩,
  ⟨'\u0cd5', "\u0cbf\u0cc6\u0cca", "\u0cc0\u0cc7\u0ccb"⟩,
  ⟨'\u0cd6', "\u0cc6", "\u0cc8"⟩,
  ⟨'\u0d3e', "\u0d46\u0d47", "\u0d4a\u0d4b"⟩,
  ⟨'\u0d57', "\u0d46", "\u0d4c"⟩,
  ⟨'\u0dca', "\u0dd9\u0ddc", "\u0dda\u0ddd"⟩,
  ⟨'\u0dcf', "\u0dd9", "\u0ddc"⟩,
  ⟨'\u0ddf', "\u0dd9", "\u0dde"⟩,
  ⟨'\u102e', "ဥ", "ဦ"⟩,
  ⟨'\u1b35', "ᬅᬇᬉᬋᬍᬑ\u1b3a\u1b3c\u1b3e\u1b3f\u1b42", "ᬆᬈᬊᬌᬎᬒ\u1b3b\u1b3d\u1b40\u1b41\u1b43"⟩,
  ⟨'\u3099', "うかきくけこさしすせそたちつてとはひふへほゝウカキクケコサシスセソタチツ", "ゔがぎぐげござじずぜぞだぢづでどばびぶべぼゞヴガギグゲゴザジズゼゾダヂヅ"⟩,
  ⟨'\u3099', "テトハヒフヘホワヰヱヲヽ", "デドバビブベボヷヸヹヺヾ"⟩,
  ⟨'\u309a', "はひふへほハヒフヘホ", "ぱぴぷぺぽパピプペポ"⟩,
  ⟨'𑂺', "𑂙𑂛𑂥", "𑂚𑂜𑂫"⟩,
  ⟨'𑄧', "𑄱𑄲", "𑄮𑄯"⟩,
  ⟨'𑌾', "𑍇", "𑍋"⟩,
  ⟨'𑍗', "𑍇", "𑍌"⟩,
  ⟨'𑎸', "𑏂", "𑏇"⟩,
  ⟨'𑎻', "𑎄", "𑎅"⟩,
  ⟨'𑏂', "𑎎", "𑎎𑏅"⟩,
  ⟨'𑏉', "𑎂𑎐𑏂", "𑎃𑎑𑏈"⟩,
  ⟨'𑒰', "𑒹", "𑒼"⟩,
  ⟨'𑒺', "𑒹", "𑒻"⟩,
  ⟨'𑒽', "𑒹", "𑒾"⟩,
  ⟨'𑖯', "𑖸𑖹", "𑖺𑖻"⟩,
  ⟨'𑤰', "𑤵", "𑤸"⟩,
  ⟨'𖄞', "𖄞", "𖄡"⟩,
  ⟨'𖄟', "𖄡𖄡𖄩𖄩", "𖄣𖄦𖄧𖄤"⟩,
  ⟨'𖄠', "𖄡𖄞", "𖄥𖄨"⟩,
  ⟨'𖄩', "𖄞", "𖄢"⟩,
  ⟨'𖵧', "𖵩𖵩", "𖵪𖵧𖵪"⟩]

/-- The character that stands for a letter and a mark. -/
def markedWith? (letter mark : Char) : Option Char :=
  composites.findSome? fun row =>
    if row.mark = mark then (row.plain.toList.zip row.marked.toList).lookup letter else none

/-- The letter and the mark that a character stands for. -/
def parts? (c : Char) : Option (Char × Char) :=
  composites.findSome? fun row =>
    ((row.marked.toList.zip row.plain.toList).lookup c).map fun letter => (letter, row.mark)

/-! ### Korean syllables -/

/-- The parts of a syllable: an initial, a vowel and perhaps a final. -/
def syllable? (c : Char) : Option (List Char) :=
  let n := c.toNat - 0xAC00
  if 0xAC00 ≤ c.toNat ∧ n < 19 * 588 then
    let initial := Char.ofNat (0x1100 + n / 588)
    let vowel := Char.ofNat (0x1161 + n % 588 / 28)
    some (if n % 28 = 0 then [initial, vowel] else [initial, vowel, Char.ofNat (0x11A7 + n % 28)])
  else none

/-- The syllable that an initial and a vowel, or a syllable without a final and a final, make. -/
def syllableOf? (first second : Char) : Option Char :=
  let a := first.toNat
  let b := second.toNat
  if 0x1100 ≤ a ∧ a < 0x1113 ∧ 0x1161 ≤ b ∧ b < 0x1176 then
    some (Char.ofNat (0xAC00 + 588 * (a - 0x1100) + 28 * (b - 0x1161)))
  else if 0xAC00 ≤ a ∧ a < 0xAC00 + 19 * 588 ∧ (a - 0xAC00) % 28 = 0 ∧ 0x11A7 < b ∧ b < 0x11C3 then
    some (Char.ofNat (a + (b - 0x11A7)))
  else none

/-! ### The composed form -/

/-- The characters that a character is made of; a letter may itself carry up to `depth` marks. -/
def decomposed : (depth : Nat) → Char → List Char
  | 0, c => [c]
  | depth + 1, c =>
    match syllable? c with
    | some parts => parts
    | none =>
      match parts? c with
      | some (letter, mark) => decomposed depth letter ++ [mark]
      | none => [c]

/-- No character carries more marks than this. -/
def maxMarks : Nat := 3

/-- Puts a character in front of text whose marks are in order: behind the marks at its head that
have a smaller class. -/
def placeMark (c : Char) : List Char → List Char
  | [] => [c]
  | d :: rest =>
    if 0 < combiningClass d ∧ combiningClass d < combiningClass c then d :: placeMark c rest
    else c :: d :: rest

/-- The text with the marks behind each letter in the order of their classes. -/
def orderMarks (cs : List Char) : List Char :=
  cs.foldr placeMark []

/-- Joins what follows a letter to it as far as possible.  Between the letter and the rest stand
the marks `kept`, last one first, that could not be joined; `highest` is the class of the last of
them.  Only a mark of a higher class can still reach the letter. -/
def join (letter : Char) (kept : List Char) (highest : Nat) : List Char → List Char
  | [] => letter :: kept.reverse
  | c :: rest =>
    let k := combiningClass c
    let joined? :=
      if kept.isEmpty ∨ highest < k then (syllableOf? letter c).or (markedWith? letter c) else none
    match joined? with
    | some joined => join joined kept highest rest
    | none =>
      -- a letter of its own, or a mark that keeps the marks of its class and below away
      if k = 0 then letter :: kept.reverse ++ join c [] 0 rest
      else join letter (c :: kept) k rest

/-- Joins each letter with what follows it.  Marks in front of the first letter stay. -/
def joinAll : List Char → List Char
  | [] => []
  | c :: rest => if combiningClass c = 0 then join c [] 0 rest else c :: joinAll rest

/-- Text in composed form. -/
def composed (cs : List Char) : List Char :=
  joinAll (orderMarks (cs.flatMap (decomposed maxMarks)))

end CallWatch.Text
