/-!
# Tables of scripts

The scripts of the Unicode standard, in its last edition but one: their names, where each begins,
and the characters that several of them share.
-/

namespace Intake.Text.Script

/-- The names of each script, its code first. -/
def names : List (List String) :=
  [["adlm", "adlam"], ["aghb", "caucasianalbanian"], ["ahom"], ["arab", "arabic"],
    ["armi", "imperialaramaic"], ["armn", "armenian"], ["avst", "avestan"], ["bali", "balinese"],
    ["bamu", "bamum"], ["bass", "bassavah"], ["batk", "batak"], ["beng", "bengali"],
    ["bhks", "bhaiksuki"], ["bopo", "bopomofo"], ["brah", "brahmi"], ["brai", "braille"],
    ["bugi", "buginese"], ["buhd", "buhid"], ["cakm", "chakma"], ["cans", "canadianaboriginal"],
    ["cari", "carian"], ["cham"], ["cher", "cherokee"], ["chrs", "chorasmian"],
    ["copt", "coptic", "qaac"], ["cpmn", "cyprominoan"], ["cprt", "cypriot"], ["cyrl", "cyrillic"],
    ["deva", "devanagari"], ["diak", "divesakuru"], ["dogr", "dogra"], ["dsrt", "deseret"],
    ["dupl", "duployan"], ["egyp", "egyptianhieroglyphs"], ["elba", "elbasan"], ["elym", "elymaic"],
    ["ethi", "ethiopic"], ["gara", "garay"], ["geor", "georgian"], ["glag", "glagolitic"],
    ["gong", "gunjalagondi"], ["gonm", "masaramgondi"], ["goth", "gothic"], ["gran", "grantha"],
    ["grek", "greek"], ["gujr", "gujarati"], ["gukh", "gurungkhema"], ["guru", "gurmukhi"],
    ["hang", "hangul"], ["hani", "han"], ["hano", "hanunoo"], ["hatr", "hatran"],
    ["hebr", "hebrew"], ["hira", "hiragana"], ["hluw", "anatolianhieroglyphs"],
    ["hmng", "pahawhhmong"], ["hmnp", "nyiakengpuachuehmong"], ["hung", "oldhungarian"],
    ["ital", "olditalic"], ["java", "javanese"], ["kali", "kayahli"], ["kana", "katakana"],
    ["kawi"], ["khar", "kharoshthi"], ["khmr", "khmer"], ["khoj", "khojki"],
    ["kits", "khitansmallscript"], ["knda", "kannada"], ["krai", "kiratrai"], ["kthi", "kaithi"],
    ["lana", "taitham"], ["laoo", "lao"], ["latn", "latin"], ["lepc", "lepcha"], ["limb", "limbu"],
    ["lina", "lineara"], ["linb", "linearb"], ["lisu"], ["lyci", "lycian"], ["lydi", "lydian"],
    ["mahj", "mahajani"], ["maka", "makasar"], ["mand", "mandaic"], ["mani", "manichaean"],
    ["marc", "marchen"], ["medf", "medefaidrin"], ["mend", "mendekikakui"],
    ["merc", "meroiticcursive"], ["mero", "meroitichieroglyphs"], ["mlym", "malayalam"], ["modi"],
    ["mong", "mongolian"], ["mroo", "mro"], ["mtei", "meeteimayek"], ["mult", "multani"],
    ["mymr", "myanmar"], ["nagm", "nagmundari"], ["nand", "nandinagari"],
    ["narb", "oldnortharabian"], ["nbat", "nabataean"], ["newa"], ["nkoo", "nko"],
    ["nshu", "nushu"], ["ogam", "ogham"], ["olck", "olchiki"], ["onao", "olonal"],
    ["orkh", "oldturkic"], ["orya", "oriya"], ["osge", "osage"], ["osma", "osmanya"],
    ["ougr", "olduyghur"], ["palm", "palmyrene"], ["pauc", "paucinhau"], ["perm", "oldpermic"],
    ["phag", "phagspa"], ["phli", "inscriptionalpahlavi"], ["phlp", "psalterpahlavi"],
    ["phnx", "phoenician"], ["plrd", "miao"], ["prti", "inscriptionalparthian"], ["rjng", "rejang"],
    ["rohg", "hanifirohingya"], ["runr", "runic"], ["samr", "samaritan"],
    ["sarb", "oldsoutharabian"], ["saur", "saurashtra"], ["sgnw", "signwriting"],
    ["shaw", "shavian"], ["shrd", "sharada"], ["sidd", "siddham"], ["sind", "khudawadi"],
    ["sinh", "sinhala"], ["sogd", "sogdian"], ["sogo", "oldsogdian"], ["sora", "sorasompeng"],
    ["soyo", "soyombo"], ["sund", "sundanese"], ["sunu", "sunuwar"], ["sylo", "sylotinagri"],
    ["syrc", "syriac"], ["tagb", "tagbanwa"], ["takr", "takri"], ["tale", "taile"],
    ["talu", "newtailue"], ["taml", "tamil"], ["tang", "tangut"], ["tavt", "taiviet"],
    ["telu", "telugu"], ["tfng", "tifinagh"], ["tglg", "tagalog"], ["thaa", "thaana"], ["thai"],
    ["tibt", "tibetan"], ["tirh", "tirhuta"], ["tnsa", "tangsa"], ["todr", "todhri"], ["toto"],
    ["tutg", "tulutigalari"], ["ugar", "ugaritic"], ["vaii", "vai"], ["vith", "vithkuqi"],
    ["wara", "warangciti"], ["wcho", "wancho"], ["xpeo", "oldpersian"], ["xsux", "cuneiform"],
    ["yezi", "yezidi"], ["yiii", "yi"], ["zanb", "zanabazarsquare"], ["zinh", "inherited", "qaai"],
    ["zyyy", "common"]]

/-- Part 1 of the table below. -/
def starts1 : List (Nat × String) :=
  [(0x0, "zyyy"), (0x41, "latn"), (0x5B, "zyyy"), (0x61, "latn"), (0x7B, "zyyy"), (0xAA, "latn"),
    (0xAB, "zyyy"), (0xBA, "latn"), (0xBB, "zyyy"), (0xC0, "latn"), (0xD7, "zyyy"), (0xD8, "latn"),
    (0xF7, "zyyy"), (0xF8, "latn"), (0x2B9, "zyyy"), (0x2E0, "latn"), (0x2E5, "zyyy"),
    (0x2EA, "bopo"), (0x2EC, "zyyy"), (0x300, "zinh"), (0x370, "grek"), (0x374, "zyyy"),
    (0x375, "grek"), (0x37E, "zyyy"), (0x37F, "grek"), (0x385, "zyyy"), (0x386, "grek"),
    (0x387, "zyyy"), (0x388, "grek"), (0x3E2, "copt"), (0x3F0, "grek"), (0x400, "cyrl"),
    (0x485, "zinh"), (0x487, "cyrl"), (0x531, "armn"), (0x591, "hebr"), (0x600, "arab"),
    (0x605, "zyyy"), (0x606, "arab"), (0x60C, "zyyy"), (0x60D, "arab"), (0x61B, "zyyy"),
    (0x61C, "arab"), (0x61F, "zyyy"), (0x620, "arab"), (0x640, "zyyy"), (0x641, "arab"),
    (0x64B, "zinh"), (0x656, "arab"), (0x670, "zinh"), (0x671, "arab"), (0x6DD, "zyyy"),
    (0x6DE, "arab"), (0x700, "syrc"), (0x750, "arab"), (0x780, "thaa"), (0x7C0, "nkoo"),
    (0x800, "samr"), (0x840, "mand"), (0x860, "syrc"), (0x870, "arab"), (0x8E2, "zyyy"),
    (0x8E3, "arab"), (0x900, "deva"), (0x951, "zinh"), (0x955, "deva"), (0x964, "zyyy"),
    (0x966, "deva"), (0x980, "beng"), (0xA01, "guru"), (0xA81, "gujr"), (0xB01, "orya"),
    (0xB82, "taml"), (0xC00, "telu"), (0xC80, "knda"), (0xD00, "mlym"), (0xD81, "sinh"),
    (0xE01, "thai"), (0xE3F, "zyyy"), (0xE40, "thai"), (0xE81, "laoo"), (0xF00, "tibt"),
    (0xFD5, "zyyy"), (0xFD9, "tibt"), (0x1000, "mymr"), (0x10A0, "geor"), (0x10FB, "zyyy"),
    (0x10FC, "geor"), (0x1100, "hang"), (0x1200, "ethi"), (0x13A0, "cher"), (0x1400, "cans"),
    (0x1680, "ogam"), (0x16A0, "runr"), (0x16EB, "zyyy"), (0x16EE, "runr"), (0x1700, "tglg"),
    (0x1720, "hano"), (0x1735, "zyyy"), (0x1740, "buhd"), (0x1760, "tagb"), (0x1780, "khmr"),
    (0x1800, "mong"), (0x1802, "zyyy"), (0x1804, "mong"), (0x1805, "zyyy"), (0x1806, "mong"),
    (0x18B0, "cans"), (0x1900, "limb"), (0x1950, "tale"), (0x1980, "talu"), (0x19E0, "khmr"),
    (0x1A00, "bugi"), (0x1A20, "lana"), (0x1AB0, "zinh"), (0x1B00, "bali"), (0x1B80, "sund"),
    (0x1BC0, "batk"), (0x1C00, "lepc"), (0x1C50, "olck"), (0x1C80, "cyrl"), (0x1C90, "geor"),
    (0x1CC0, "sund"), (0x1CD0, "zinh"), (0x1CD3, "zyyy"), (0x1CD4, "zinh"), (0x1CE1, "zyyy"),
    (0x1CE2, "zinh"), (0x1CE9, "zyyy"), (0x1CED, "zinh"), (0x1CEE, "zyyy"), (0x1CF4, "zinh"),
    (0x1CF5, "zyyy"), (0x1CF8, "zinh"), (0x1CFA, "zyyy"), (0x1D00, "latn"), (0x1D26, "grek"),
    (0x1D2B, "cyrl"), (0x1D2C, "latn"), (0x1D5D, "grek"), (0x1D62, "latn"), (0x1D66, "grek"),
    (0x1D6B, "latn"), (0x1D78, "cyrl"), (0x1D79, "latn"), (0x1DBF, "grek"), (0x1DC0, "zinh"),
    (0x1E00, "latn"), (0x1F00, "grek"), (0x2000, "zyyy"), (0x200C, "zinh"), (0x200E, "zyyy"),
    (0x2071, "latn"), (0x2074, "zyyy"), (0x207F, "latn"), (0x2080, "zyyy"), (0x2090, "latn"),
    (0x20A0, "zyyy"), (0x20D0, "zinh"), (0x2100, "zyyy"), (0x2126, "grek"), (0x2127, "zyyy"),
    (0x212A, "latn"), (0x212C, "zyyy"), (0x2132, "latn"), (0x2133, "zyyy"), (0x214E, "latn"),
    (0x214F, "zyyy"), (0x2160, "latn"), (0x2189, "zyyy"), (0x2800, "brai"), (0x2900, "zyyy"),
    (0x2C00, "glag"), (0x2C60, "latn"), (0x2C80, "copt"), (0x2D00, "geor"), (0x2D30, "tfng"),
    (0x2D80, "ethi"), (0x2DE0, "cyrl"), (0x2E00, "zyyy"), (0x2E80, "hani"), (0x2FF0, "zyyy"),
    (0x3005, "hani"), (0x3006, "zyyy"), (0x3007, "hani"), (0x3008, "zyyy"), (0x3021, "hani"),
    (0x302A, "zinh"), (0x302E, "hang"), (0x3030, "zyyy"), (0x3038, "hani"), (0x303C, "zyyy"),
    (0x3041, "hira"), (0x3099, "zinh"), (0x309B, "zyyy"), (0x309D, "hira"), (0x30A0, "zyyy"),
    (0x30A1, "kana"), (0x30FB, "zyyy"), (0x30FD, "kana"), (0x3105, "bopo"), (0x3131, "hang"),
    (0x3190, "zyyy"), (0x31A0, "bopo"), (0x31C0, "zyyy"), (0x31F0, "kana"), (0x3200, "hang"),
    (0x3220, "zyyy"), (0x3260, "hang"), (0x327F, "zyyy"), (0x32D0, "kana"), (0x32FF, "zyyy"),
    (0x3300, "kana"), (0x3358, "zyyy"), (0x3400, "hani"), (0x4DC0, "zyyy"), (0x4E00, "hani")]

/-- Part 2 of the table below. -/
def starts2 : List (Nat × String) :=
  [(0xA000, "yiii"), (0xA4D0, "lisu"), (0xA500, "vaii"), (0xA640, "cyrl"), (0xA6A0, "bamu"),
    (0xA700, "zyyy"), (0xA722, "latn"), (0xA788, "zyyy"), (0xA78B, "latn"), (0xA800, "sylo"),
    (0xA830, "zyyy"), (0xA840, "phag"), (0xA880, "saur"), (0xA8E0, "deva"), (0xA900, "kali"),
    (0xA92E, "zyyy"), (0xA92F, "kali"), (0xA930, "rjng"), (0xA960, "hang"), (0xA980, "java"),
    (0xA9CF, "zyyy"), (0xA9D0, "java"), (0xA9E0, "mymr"), (0xAA00, "cham"), (0xAA60, "mymr"),
    (0xAA80, "tavt"), (0xAAE0, "mtei"), (0xAB01, "ethi"), (0xAB30, "latn"), (0xAB5B, "zyyy"),
    (0xAB5C, "latn"), (0xAB65, "grek"), (0xAB66, "latn"), (0xAB6A, "zyyy"), (0xAB70, "cher"),
    (0xABC0, "mtei"), (0xAC00, "hang"), (0xF900, "hani"), (0xFB00, "latn"), (0xFB13, "armn"),
    (0xFB1D, "hebr"), (0xFB50, "arab"), (0xFD3E, "zyyy"), (0xFD40, "arab"), (0xFE00, "zinh"),
    (0xFE10, "zyyy"), (0xFE20, "zinh"), (0xFE2E, "cyrl"), (0xFE30, "zyyy"), (0xFE70, "arab"),
    (0xFEFF, "zyyy"), (0xFF21, "latn"), (0xFF3B, "zyyy"), (0xFF41, "latn"), (0xFF5B, "zyyy"),
    (0xFF66, "kana"), (0xFF70, "zyyy"), (0xFF71, "kana"), (0xFF9E, "zyyy"), (0xFFA0, "hang"),
    (0xFFE0, "zyyy"), (0x10000, "linb"), (0x10100, "zyyy"), (0x10140, "grek"), (0x10190, "zyyy"),
    (0x101A0, "grek"), (0x101D0, "zyyy"), (0x101FD, "zinh"), (0x10280, "lyci"), (0x102A0, "cari"),
    (0x102E0, "zinh"), (0x102E1, "zyyy"), (0x10300, "ital"), (0x10330, "goth"), (0x10350, "perm"),
    (0x10380, "ugar"), (0x103A0, "xpeo"), (0x10400, "dsrt"), (0x10450, "shaw"), (0x10480, "osma"),
    (0x104B0, "osge"), (0x10500, "elba"), (0x10530, "aghb"), (0x10570, "vith"), (0x105C0, "todr"),
    (0x10600, "lina"), (0x10780, "latn"), (0x10800, "cprt"), (0x10840, "armi"), (0x10860, "palm"),
    (0x10880, "nbat"), (0x108E0, "hatr"), (0x10900, "phnx"), (0x10920, "lydi"), (0x10980, "mero"),
    (0x109A0, "merc"), (0x10A00, "khar"), (0x10A60, "sarb"), (0x10A80, "narb"), (0x10AC0, "mani"),
    (0x10B00, "avst"), (0x10B40, "prti"), (0x10B60, "phli"), (0x10B80, "phlp"), (0x10C00, "orkh"),
    (0x10C80, "hung"), (0x10D00, "rohg"), (0x10D40, "gara"), (0x10E60, "arab"), (0x10E80, "yezi"),
    (0x10EC2, "arab"), (0x10F00, "sogo"), (0x10F30, "sogd"), (0x10F70, "ougr"), (0x10FB0, "chrs"),
    (0x10FE0, "elym"), (0x11000, "brah"), (0x11080, "kthi"), (0x110D0, "sora"), (0x11100, "cakm"),
    (0x11150, "mahj"), (0x11180, "shrd"), (0x111E1, "sinh"), (0x11200, "khoj"), (0x11280, "mult"),
    (0x112B0, "sind"), (0x11300, "gran"), (0x1133B, "zinh"), (0x1133C, "gran"), (0x11380, "tutg"),
    (0x11400, "newa"), (0x11480, "tirh"), (0x11580, "sidd"), (0x11600, "modi"), (0x11660, "mong"),
    (0x11680, "takr"), (0x116D0, "mymr"), (0x11700, "ahom"), (0x11800, "dogr"), (0x118A0, "wara"),
    (0x11900, "diak"), (0x119A0, "nand"), (0x11A00, "zanb"), (0x11A50, "soyo"), (0x11AB0, "cans"),
    (0x11AC0, "pauc"), (0x11B00, "deva"), (0x11BC0, "sunu"), (0x11C00, "bhks"), (0x11C70, "marc"),
    (0x11D00, "gonm"), (0x11D60, "gong"), (0x11EE0, "maka"), (0x11F00, "kawi"), (0x11FB0, "lisu"),
    (0x11FC0, "taml"), (0x12000, "xsux"), (0x12F90, "cpmn"), (0x13000, "egyp"), (0x14400, "hluw"),
    (0x16100, "gukh"), (0x16800, "bamu"), (0x16A40, "mroo"), (0x16A70, "tnsa"), (0x16AD0, "bass"),
    (0x16B00, "hmng"), (0x16D40, "krai"), (0x16E40, "medf"), (0x16F00, "plrd"), (0x16FE0, "tang"),
    (0x16FE1, "nshu"), (0x16FE2, "hani"), (0x16FE4, "kits"), (0x16FF0, "hani"), (0x17000, "tang"),
    (0x18B00, "kits"), (0x18D00, "tang"), (0x1AFF0, "kana"), (0x1B001, "hira"), (0x1B120, "kana"),
    (0x1B132, "hira"), (0x1B155, "kana"), (0x1B170, "nshu"), (0x1BC00, "dupl"), (0x1BCA0, "zyyy"),
    (0x1CF00, "zinh"), (0x1CF50, "zyyy"), (0x1D167, "zinh"), (0x1D16A, "zyyy"), (0x1D17B, "zinh"),
    (0x1D183, "zyyy"), (0x1D185, "zinh"), (0x1D18C, "zyyy"), (0x1D1AA, "zinh"), (0x1D1AE, "zyyy"),
    (0x1D200, "grek"), (0x1D2C0, "zyyy"), (0x1D800, "sgnw"), (0x1DF00, "latn"), (0x1E000, "glag"),
    (0x1E030, "cyrl"), (0x1E100, "hmnp"), (0x1E290, "toto"), (0x1E2C0, "wcho"), (0x1E4D0, "nagm"),
    (0x1E5D0, "onao"), (0x1E7E0, "ethi"), (0x1E800, "mend"), (0x1E900, "adlm"), (0x1EC71, "zyyy"),
    (0x1EE00, "arab"), (0x1F000, "zyyy"), (0x1F200, "hira"), (0x1F201, "zyyy"), (0x20000, "hani"),
    (0xE0001, "zyyy"), (0xE0100, "zinh")]

/-- The code points from which on characters belong to a script, up to the next one listed. Code
points that belong to none are passed over. -/
def starts : List (Nat × String) :=
  starts1 ++ starts2

/-- Characters that have scripts of their own choice beside or in place of their script. -/
def shared : List (Nat × Nat × List String) :=
  [(0xB7, 0xB7, ["avst", "cari", "copt", "dupl", "elba", "geor", "glag", "gong", "goth", "grek",
    "hani", "latn", "lydi", "mahj", "perm", "shaw"]), (0x2BC, 0x2BC, ["beng", "cyrl", "deva",
    "latn", "lisu", "thai", "toto"]), (0x2C7, 0x2C7, ["bopo", "latn"]),
    (0x2C9, 0x2CB, ["bopo", "latn"]), (0x2CD, 0x2CD, ["latn", "lisu"]),
    (0x2D7, 0x2D7, ["latn", "thai"]), (0x2D9, 0x2D9, ["bopo", "latn"]), (0x300, 0x300, ["cher",
    "copt", "cyrl", "grek", "latn", "perm", "sunu", "tale"]), (0x301, 0x301, ["cher", "cyrl",
    "grek", "latn", "osge", "sunu", "tale", "todr"]),
    (0x302, 0x302, ["cher", "cyrl", "latn", "tfng"]),
    (0x303, 0x303, ["glag", "latn", "sunu", "syrc", "thai"]), (0x304, 0x304, ["aghb", "cher",
    "copt", "cyrl", "goth", "grek", "latn", "osge", "syrc", "tfng", "todr"]),
    (0x305, 0x305, ["copt", "elba", "glag", "goth", "kana", "latn"]),
    (0x306, 0x306, ["cyrl", "grek", "latn", "perm", "tfng"]), (0x307, 0x307, ["copt", "dupl",
    "hebr", "latn", "perm", "syrc", "tale", "tfng", "todr"]), (0x308, 0x308, ["armn", "cyrl",
    "dupl", "goth", "grek", "hebr", "latn", "perm", "syrc", "tale", "tfng"]),
    (0x309, 0x309, ["latn", "tfng"]), (0x30A, 0x30A, ["dupl", "latn", "syrc"]),
    (0x30B, 0x30B, ["cher", "cyrl", "latn", "osge"]), (0x30C, 0x30C, ["cher", "latn", "tale"]),
    (0x30D, 0x30D, ["latn", "sunu"]), (0x30E, 0x30E, ["ethi", "latn"]),
    (0x310, 0x310, ["latn", "sunu"]), (0x311, 0x311, ["cyrl", "latn", "todr"]),
    (0x313, 0x313, ["grek", "latn", "perm", "todr"]),
    (0x323, 0x323, ["cher", "dupl", "kana", "latn", "syrc", "tfng"]),
    (0x324, 0x324, ["cher", "dupl", "latn", "syrc"]), (0x325, 0x325, ["latn", "syrc"]),
    (0x32D, 0x32D, ["latn", "sunu", "syrc"]), (0x32E, 0x32E, ["latn", "syrc"]),
    (0x330, 0x330, ["cher", "latn", "syrc"]), (0x331, 0x331, ["aghb", "cher", "goth", "latn",
    "sunu", "syrc", "thai"]), (0x342, 0x342, ["grek"]), (0x345, 0x345, ["grek"]),
    (0x358, 0x358, ["latn", "osge"]), (0x35E, 0x35E, ["aghb", "latn", "todr"]),
    (0x363, 0x36F, ["latn"]), (0x374, 0x375, ["copt", "grek"]), (0x483, 0x483, ["cyrl", "perm"]),
    (0x484, 0x484, ["cyrl", "glag"]), (0x485, 0x486, ["cyrl", "latn"]),
    (0x487, 0x487, ["cyrl", "glag"]), (0x589, 0x589, ["armn", "geor", "glag"]), (0x60C, 0x60C,
    ["arab", "gara", "nkoo", "rohg", "syrc", "thaa", "yezi"]), (0x61B, 0x61B, ["arab", "gara",
    "nkoo", "rohg", "syrc", "thaa", "yezi"]), (0x61C, 0x61C, ["arab", "syrc", "thaa"]), (0x61F,
    0x61F, ["adlm", "arab", "gara", "nkoo", "rohg", "syrc", "thaa", "yezi"]), (0x640, 0x640,
    ["adlm", "arab", "mand", "mani", "ougr", "phlp", "rohg", "sogd", "syrc"]),
    (0x64B, 0x655, ["arab", "syrc"]), (0x660, 0x669, ["arab", "thaa", "yezi"]),
    (0x670, 0x670, ["arab", "syrc"]), (0x6D4, 0x6D4, ["arab", "rohg"]), (0x951, 0x951, ["beng",
    "deva", "gran", "gujr", "guru", "knda", "latn", "mlym", "nand", "newa", "orya", "shrd", "taml",
    "telu", "tirh"]), (0x952, 0x952, ["beng", "deva", "gran", "gujr", "guru", "knda", "latn",
    "mlym", "newa", "orya", "taml", "telu", "tirh"]), (0x964, 0x964, ["beng", "deva", "dogr",
    "gong", "gonm", "gran", "gujr", "guru", "knda", "mahj", "mlym", "nand", "onao", "orya", "sind",
    "sinh", "sylo", "takr", "taml", "telu", "tirh"]), (0x965, 0x965, ["beng", "deva", "dogr",
    "gong", "gonm", "gran", "gujr", "gukh", "guru", "knda", "limb", "mahj", "mlym", "nand", "onao",
    "orya", "sind", "sinh", "sylo", "takr", "taml", "telu", "tirh"]),
    (0x966, 0x96F, ["deva", "dogr", "kthi", "mahj"]), (0x9E6, 0x9EF, ["beng", "cakm", "sylo"]),
    (0xA66, 0xA6F, ["guru", "mult"]), (0xAE6, 0xAEF, ["gujr", "khoj"]),
    (0xBE6, 0xBF3, ["gran", "taml"]), (0xCE6, 0xCEF, ["knda", "nand", "tutg"]),
    (0x1040, 0x1049, ["cakm", "mymr", "tale"]), (0x10FB, 0x10FB, ["geor", "glag", "latn"]),
    (0x16EB, 0x16ED, ["runr"]), (0x1735, 0x1736, ["buhd", "hano", "tagb", "tglg"]),
    (0x1802, 0x1803, ["mong", "phag"]), (0x1805, 0x1805, ["mong", "phag"]),
    (0x1CD0, 0x1CD0, ["beng", "deva", "gran", "knda"]), (0x1CD1, 0x1CD1, ["deva"]),
    (0x1CD2, 0x1CD2, ["beng", "deva", "gran", "knda"]), (0x1CD3, 0x1CD3, ["deva", "gran", "knda"]),
    (0x1CD4, 0x1CD4, ["deva"]), (0x1CD5, 0x1CD5, ["beng", "deva", "newa", "telu", "tirh"]),
    (0x1CD6, 0x1CD6, ["beng", "deva", "telu"]), (0x1CD7, 0x1CD7, ["deva", "newa", "shrd"]),
    (0x1CD8, 0x1CD8, ["beng", "deva", "newa", "telu"]), (0x1CD9, 0x1CD9, ["deva", "shrd"]),
    (0x1CDA, 0x1CDA, ["deva", "knda", "mlym", "orya", "taml", "telu"]), (0x1CDB, 0x1CDB, ["deva"]),
    (0x1CDC, 0x1CDD, ["deva", "shrd"]), (0x1CDE, 0x1CDF, ["deva"]),
    (0x1CE0, 0x1CE0, ["deva", "shrd"]), (0x1CE1, 0x1CE1, ["beng", "deva"]),
    (0x1CE2, 0x1CE2, ["deva", "newa", "tirh"]), (0x1CE3, 0x1CE8, ["deva"]),
    (0x1CE9, 0x1CE9, ["deva", "nand", "newa"]), (0x1CEA, 0x1CEA, ["beng", "deva", "shrd"]),
    (0x1CEB, 0x1CEB, ["deva", "newa"]), (0x1CEC, 0x1CEC, ["deva"]),
    (0x1CED, 0x1CED, ["beng", "deva", "newa", "shrd"]), (0x1CEE, 0x1CF1, ["deva"]), (0x1CF2, 0x1CF2,
    ["beng", "deva", "gran", "knda", "mlym", "nand", "orya", "sinh", "telu", "tirh", "tutg"]),
    (0x1CF3, 0x1CF3, ["deva", "gran"]), (0x1CF4, 0x1CF4, ["deva", "gran", "knda", "tutg"]),
    (0x1CF5, 0x1CF6, ["beng", "deva"]), (0x1CF7, 0x1CF7, ["beng"]),
    (0x1CF8, 0x1CF9, ["deva", "gran"]), (0x1CFA, 0x1CFA, ["nand"]), (0x1DC0, 0x1DC1, ["grek"]),
    (0x1DF8, 0x1DF8, ["cyrl", "latn", "syrc"]), (0x1DFA, 0x1DFA, ["syrc"]),
    (0x202F, 0x202F, ["latn", "mong", "phag"]), (0x204F, 0x204F, ["adlm", "arab"]),
    (0x205A, 0x205A, ["cari", "geor", "glag", "hung", "lyci", "orkh"]),
    (0x205D, 0x205D, ["cari", "grek", "hung", "mero"]), (0x20F0, 0x20F0, ["deva", "gran", "latn"]),
    (0x2E17, 0x2E17, ["copt", "latn"]), (0x2E30, 0x2E30, ["avst", "orkh"]), (0x2E31, 0x2E31,
    ["avst", "cari", "geor", "hung", "kthi", "lydi", "samr"]), (0x2E3C, 0x2E3C, ["dupl"]),
    (0x2E41, 0x2E41, ["adlm", "arab", "hung"]), (0x2E43, 0x2E43, ["cyrl", "glag"]),
    (0x2FF0, 0x2FFF, ["hani", "tang"]), (0x3001, 0x3001, ["bopo", "hang", "hani", "hira", "kana",
    "mong", "yiii"]), (0x3002, 0x3002, ["bopo", "hang", "hani", "hira", "kana", "mong", "phag",
    "yiii"]), (0x3003, 0x3003, ["bopo", "hang", "hani", "hira", "kana"]),
    (0x3006, 0x3006, ["hani"]), (0x3008, 0x3009, ["bopo", "hang", "hani", "hira", "kana", "mong",
    "tibt", "yiii"]), (0x300A, 0x300B, ["bopo", "hang", "hani", "hira", "kana", "lisu", "mong",
    "tibt", "yiii"]), (0x300C, 0x3011, ["bopo", "hang", "hani", "hira", "kana", "yiii"]),
    (0x3013, 0x3013, ["bopo", "hang", "hani", "hira", "kana"]),
    (0x3014, 0x301B, ["bopo", "hang", "hani", "hira", "kana", "yiii"]),
    (0x301C, 0x301F, ["bopo", "hang", "hani", "hira", "kana"]), (0x302A, 0x302D, ["bopo", "hani"]),
    (0x3030, 0x3030, ["bopo", "hang", "hani", "hira", "kana"]), (0x3031, 0x3035, ["hira", "kana"]),
    (0x3037, 0x3037, ["bopo", "hang", "hani", "hira", "kana"]),
    (0x303C, 0x303D, ["hani", "hira", "kana"]), (0x303E, 0x303F, ["hani"]),
    (0x3099, 0x309C, ["hira", "kana"]), (0x30A0, 0x30A0, ["hira", "kana"]),
    (0x30FB, 0x30FB, ["bopo", "hang", "hani", "hira", "kana", "yiii"]),
    (0x30FC, 0x30FC, ["hira", "kana"]), (0x3190, 0x319F, ["hani"]), (0x31C0, 0x31E5, ["hani"]),
    (0x31EF, 0x31EF, ["hani", "tang"]), (0x3220, 0x3247, ["hani"]), (0x3280, 0x32B0, ["hani"]),
    (0x32C0, 0x32CB, ["hani"]), (0x32FF, 0x32FF, ["hani"]), (0x3358, 0x3370, ["hani"]),
    (0x337B, 0x337F, ["hani"]), (0x33E0, 0x33FE, ["hani"]), (0xA66F, 0xA66F, ["cyrl", "glag"]),
    (0xA700, 0xA707, ["hani", "latn"]), (0xA830, 0xA832, ["deva", "dogr", "gujr", "guru", "khoj",
    "knda", "kthi", "mahj", "mlym", "modi", "nand", "shrd", "sind", "takr", "tirh", "tutg"]),
    (0xA833, 0xA835, ["deva", "dogr", "gujr", "guru", "khoj", "knda", "kthi", "mahj", "modi",
    "nand", "shrd", "sind", "takr", "tirh", "tutg"]), (0xA836, 0xA837, ["deva", "dogr", "gujr",
    "guru", "khoj", "kthi", "mahj", "modi", "sind", "takr", "tirh"]), (0xA838, 0xA838, ["deva",
    "dogr", "gujr", "guru", "khoj", "kthi", "mahj", "modi", "shrd", "sind", "takr", "tirh"]),
    (0xA839, 0xA839, ["deva", "dogr", "gujr", "guru", "khoj", "kthi", "mahj", "modi", "sind",
    "takr", "tirh"]), (0xA8F1, 0xA8F1, ["beng", "deva", "tutg"]),
    (0xA8F3, 0xA8F3, ["deva", "taml"]), (0xA92E, 0xA92E, ["kali", "latn", "mymr"]),
    (0xA9CF, 0xA9CF, ["bugi", "java"]), (0xFD3E, 0xFD3F, ["arab", "nkoo"]),
    (0xFDF2, 0xFDF2, ["arab", "thaa"]), (0xFDFD, 0xFDFD, ["arab", "thaa"]),
    (0xFE45, 0xFE46, ["bopo", "hang", "hani", "hira", "kana"]),
    (0xFF61, 0xFF65, ["bopo", "hang", "hani", "hira", "kana", "yiii"]),
    (0xFF70, 0xFF70, ["hira", "kana"]), (0xFF9E, 0xFF9F, ["hira", "kana"]),
    (0x10100, 0x10101, ["cpmn", "cprt", "linb"]), (0x10102, 0x10102, ["cprt", "linb"]),
    (0x10107, 0x10133, ["cprt", "lina", "linb"]), (0x10137, 0x1013F, ["cprt", "linb"]),
    (0x102E0, 0x102FB, ["arab", "copt"]), (0x10AF2, 0x10AF2, ["mani", "ougr"]),
    (0x11301, 0x11301, ["gran", "taml"]), (0x11303, 0x11303, ["gran", "taml"]),
    (0x1133B, 0x1133C, ["gran", "taml"]), (0x11FD0, 0x11FD1, ["gran", "taml"]),
    (0x11FD3, 0x11FD3, ["gran", "taml"]), (0x1BCA0, 0x1BCA3, ["dupl"]),
    (0x1D360, 0x1D371, ["hani"]), (0x1F250, 0x1F251, ["hani"])]

end Intake.Text.Script
