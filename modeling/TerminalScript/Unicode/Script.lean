import TerminalScript.Unicode.RangeSet

/-!
Scripts: the script each code point belongs to, and the scripts it is used in.
-/

namespace TerminalScript.Unicode

def scriptNames : List (List String) := [
  ["adlm", "adlam"], ["aghb", "caucasianalbanian"], ["ahom"], ["arab", "arabic"],
  ["armi", "imperialaramaic"], ["armn", "armenian"], ["avst", "avestan"], ["bali", "balinese"],
  ["bamu", "bamum"], ["bass", "bassavah"], ["batk", "batak"], ["beng", "bengali"],
  ["bhks", "bhaiksuki"], ["bopo", "bopomofo"], ["brah", "brahmi"], ["brai", "braille"],
  ["bugi", "buginese"], ["buhd", "buhid"], ["cakm", "chakma"], ["cans", "canadianaboriginal"],
  ["cari", "carian"], ["cham"], ["cher", "cherokee"], ["chrs", "chorasmian"],
  ["copt", "coptic", "qaac"], ["cpmn", "cyprominoan"], ["cprt", "cypriot"], ["cyrl", "cyrillic"],
  ["deva", "devanagari"], ["diak", "divesakuru"], ["dogr", "dogra"], ["dsrt", "deseret"],
  ["dupl", "duployan"], ["egyp", "egyptianhieroglyphs"], ["elba", "elbasan"], ["elym", "elymaic"],
  ["ethi", "ethiopic"], ["geor", "georgian"], ["glag", "glagolitic"], ["gong", "gunjalagondi"],
  ["gonm", "masaramgondi"], ["goth", "gothic"], ["gran", "grantha"], ["grek", "greek"],
  ["gujr", "gujarati"], ["guru", "gurmukhi"], ["hang", "hangul"], ["hani", "han"],
  ["hano", "hanunoo"], ["hatr", "hatran"], ["hebr", "hebrew"], ["hira", "hiragana"],
  ["hluw", "anatolianhieroglyphs"], ["hmng", "pahawhhmong"], ["hmnp", "nyiakengpuachuehmong"],
  ["hung", "oldhungarian"], ["ital", "olditalic"], ["java", "javanese"], ["kali", "kayahli"],
  ["kana", "katakana"], ["kawi"], ["khar", "kharoshthi"], ["khmr", "khmer"], ["khoj", "khojki"],
  ["kits", "khitansmallscript"], ["knda", "kannada"], ["kthi", "kaithi"], ["lana", "taitham"],
  ["laoo", "lao"], ["latn", "latin"], ["lepc", "lepcha"], ["limb", "limbu"], ["lina", "lineara"],
  ["linb", "linearb"], ["lisu"], ["lyci", "lycian"], ["lydi", "lydian"], ["mahj", "mahajani"],
  ["maka", "makasar"], ["mand", "mandaic"], ["mani", "manichaean"], ["marc", "marchen"],
  ["medf", "medefaidrin"], ["mend", "mendekikakui"], ["merc", "meroiticcursive"],
  ["mero", "meroitichieroglyphs"], ["mlym", "malayalam"], ["modi"], ["mong", "mongolian"],
  ["mroo", "mro"], ["mtei", "meeteimayek"], ["mult", "multani"], ["mymr", "myanmar"],
  ["nagm", "nagmundari"], ["nand", "nandinagari"], ["narb", "oldnortharabian"],
  ["nbat", "nabataean"], ["newa"], ["nkoo", "nko"], ["nshu", "nushu"], ["ogam", "ogham"],
  ["olck", "olchiki"], ["orkh", "oldturkic"], ["orya", "oriya"], ["osge", "osage"],
  ["osma", "osmanya"], ["ougr", "olduyghur"], ["palm", "palmyrene"], ["pauc", "paucinhau"],
  ["perm", "oldpermic"], ["phag", "phagspa"], ["phli", "inscriptionalpahlavi"],
  ["phlp", "psalterpahlavi"], ["phnx", "phoenician"], ["plrd", "miao"],
  ["prti", "inscriptionalparthian"], ["rjng", "rejang"], ["rohg", "hanifirohingya"],
  ["runr", "runic"], ["samr", "samaritan"], ["sarb", "oldsoutharabian"], ["saur", "saurashtra"],
  ["sgnw", "signwriting"], ["shaw", "shavian"], ["shrd", "sharada"], ["sidd", "siddham"],
  ["sind", "khudawadi"], ["sinh", "sinhala"], ["sogd", "sogdian"], ["sogo", "oldsogdian"],
  ["sora", "sorasompeng"], ["soyo", "soyombo"], ["sund", "sundanese"], ["sylo", "sylotinagri"],
  ["syrc", "syriac"], ["tagb", "tagbanwa"], ["takr", "takri"], ["tale", "taile"],
  ["talu", "newtailue"], ["taml", "tamil"], ["tang", "tangut"], ["tavt", "taiviet"],
  ["telu", "telugu"], ["tfng", "tifinagh"], ["tglg", "tagalog"], ["thaa", "thaana"], ["thai"],
  ["tibt", "tibetan"], ["tirh", "tirhuta"], ["tnsa", "tangsa"], ["toto"], ["ugar", "ugaritic"],
  ["vaii", "vai"], ["vith", "vithkuqi"], ["wara", "warangciti"], ["wcho", "wancho"],
  ["xpeo", "oldpersian"], ["xsux", "cuneiform"], ["yezi", "yezidi"], ["yiii", "yi"],
  ["zanb", "zanabazarsquare"], ["zinh", "inherited", "qaai"], ["zyyy", "common"],
  ["zzzz", "unknown"]
]

def scripts : Partition := Partition.decode
  (String.join [
  "iFgClCZiFFlCZiFuBlCAiFOlCAiFElCWiFAlCeiFAlCgOiFmBlCEiFENBiFThFvDrBDiFArBCjFBrBDiFArBAjFDrBAiFArB",
  "AiFArBCjFArBAjFArBTjFArB+BYNrBPbkEhFBboFjFAFlBjFBFxBjFBFCjFAyB2BjFHyBajFDyBFjFKDEiFADFiFADNiFADC",
  "iFADfiFADJhFKDZhFADrDiFADhBmENjFAmE7BjFBmECDvBxExBjFNiD6BjFBiDC3DtBjFB3DOjFAvCbjFBvCAjFAmEKjFEDe",
  "jFADBjFFDpCiFADccwChFDcOiFBcZLDjFALHjFBLBjFBLVjFALGjFALAjFCLDjFBLIjFBLBjFBLDjFHLAjFDLBjFALEjFBLY",
  "jFBtBCjFAtBFjFDtBBjFBtBVjFAtBGjFAtBBjFAtBBjFAtBBjFBtBAjFAtBEjFDtBBjFBtBCjFCtBAjFGtBDjFAtBAjFGtBQ",
  "jFJsBCjFAsBIjFAsBCjFAsBVjFAsBGjFAsBBjFAsBEjFBsBJjFAsBCjFAsBCjFBsBAjFOsBDjFBsBLjFGsBGjFAnDCjFAnDH",
  "jFBnDBjFBnDVjFAnDGjFAnDBjFAnDEjFBnDIjFBnDBjFBnDCjFGnDCjFDnDBjFAnDEjFBnDRjFJrEBjFArEFjFCrECjFArED",
  "jFCrEBjFArEAjFArEBjFCrEBjFCrECjFCrELjFDrEEjFCrECjFArEDjFBrEAjFFrEAjFNrEUjFEuEMjFAuECjFAuEWjFAuEP",
  "jFBuEIjFAuECjFAuEDjFGuEBjFAuECjFBuEAjFBuEDjFBuEJjFGuEIhCMjFAhCCjFAhCWjFAhCJjFAhCEjFBhCIjFAhCCjFA",
  "hCDjFGhCBjFFhCBjFAhCDjFBhCJjFAhCCjFL2CMjFA2CCjFA2CyBjFA2CCjFA2CFjFD2CPjFB2CZjFA-DCjFA-DRjFC-DXjF",
  "A-DIjFA-DAjFB-DGjFC-DAjFD-DFjFA-DAjFA-DHjFF-DJjFB-DCjFLyE5BjFDiFAyEbjFkBkCBjFAkCAjFAkCEjFAkCXjFA",
  "kCAjFAkCWjFBkCEjFAkCAjFAkCGjFAkCJjFBkCDjFfzEnCjFAzEjBjFDzEmBjFAzEjBjFAzEOjFAzEGiFDzEBjFkB8C-ElBl",
  "BjFAlBAjFElBAjFBlBqBiFAlBDuB-HkBoCjFAkBDjFBkBGjFAkBAjFAkBDjFBkBoBjFAkBDjFBkBgBjFAkBDjFBkBGjFAkBA",
  "jFAkBDjFBkBOjFAkB4BjFAkBDjFBkBiCjFBkBfjFCkBZjFFW1CjFBWFjFBT-TkDcjFC2DqCiFC2DKjFGwEVjFIwEAwBUiFBj",
  "FIRTjFLnEMjFAnECjFAnEBjFL+B9CjFB+BJjFF+BJjFF4CBiFB4CAiFA4CTjFF4C4CjFG4CqBjFETlCjFJnCejFAnCLjFDnC",
  "LjFDnCAjFCnCLpEdjFBpEEjFKqErBjFDqEZjFFqEKjFCqEB+BfQbjFBQBjC+BjFAjCcjFBjCKjFFjCJjFFjCNjFBhFejFwBH",
  "sCjFCHuBjFAkE-BKzBjFHKDmC3BjFCmCOjFCmCClDvBbIjFGlBqBjFBlBCkEHjFHhFCiFAhFMiFAhFGiFDhFAiFFhFAiFChF",
  "BiFAjFElClBrBEbAlCwBrBElCDrBElCMbAlClCrBAhF-BlC-HrBVjFBrBFjFBrBlBjFBrBFjFBrBHjFArBAjFArBAjFArBAj",
  "FArBejFBrB0BjFArBOjFArBNjFBrBFjFArBSjFBrBCjFArBIjFAiFLhFBiF2CjFAiFKlCAjFBiFKlCAiFOjFAlCMjFCiFgBj",
  "FOhFgBjFOiFlBrBAiFClCBiFFlCAiFalCAiFQlCoBiFCjFDiF2UjFYiFKjFUiF-cP-HiFzTjFBiFfjFAiFoDmB-ClCfYzDjF",
  "EYGlBlBjFAlBAjFElBAjFBvE3BjFGvEBjFNvEAkBWjFIkBGjFAkBGjFAkBGjFAkBGjFAkBGjFAkBGjFAkBGjFAkBGjFAbfiF",
  "9CjFhBvBZjFAvB4CjFLvB1GjFZiFLjFDiFEvBAiFAvBAiFYvBIhFDuBBiFHvBDiFDjFAzB1CjFBhFBiFBzBCiFA7B5CiFB7B",
  "CjFENqBjFAuB9CjFAiFPNfiFjBjFL7BPuBejFAiF-BuBeiFwC7BuBiFA7B3CiFnFvB-tGiF-BvB-vU-EskBjFC-E2BjFIqCv",
  "B4ErJjFTb-CI3CjFHiFhBlClDiFClC-BjFElCBjFAlCAjFAlCEjFXlCNlEsBjFCiFJjFFuD3BjFH5DlCjFH5DLjFFcf6BtBi",
  "FA6BA0DjBjFK0DAuBcjFC5BtCjFAiFA5BJjFD5BB8CejFAV2BjFIVNjFBVJjFBVD8CftEiCjFXtEE6CWjFJkBFjFBkBFjFBk",
  "BFjFIkBGjFAkBGjFAlCqBiFAlCIrBAlCDiFBjFDWvC6CtBjFB6CJjFFuBj9KjFLuBWjFDuBwBjFjoIvBtLjFBvBpDjFlBlCG",
  "jFLFEjFEyBZjFAyBEjFAyBAjFAyBBjFAyBBjFAyBJDyDjFPDqLiFBDvCjFBD1BjFGDAjFfDPhFPiFJjFFhFNbBiFiBjFAiFS",
  "jFAiFDjFDDEjFADmEjFBiFAjFAiFflCZiFFlCZiFK7BJiFA7BsBiFBuBejFCuBFjFBuBFjFBuBFjFBuBCjFCiFGjFAiFGjFJ",
  "iFEjFBpCLjFApCZjFApCSjFApCBjFApCOjFBpCNjFhBpC6DjFEiFCjFDiFsBjFCiFIrBuCjFAiFMjFCrBAjFuBiFsBhFAjFh",
  "ErCcjFCUwBjFOhFAiFajFD4BjBjFI4BCpBajFEtDqBjFE3EdjFA3EA8EjBjFD8ENjFpBfvC7DvBpDdjFBpDJjFFoDjBjFDoD",
  "jBjFDiBnBjFHBzBjFKBA5EKjFA5EOjFA5EGjFA5EBjFA5EKjFA5EOjFA5EGjFA5EBjFiCoC2JjFIoCVjFJoCHjFXlCFjFAlC",
  "pBjFAlCIjFkCaFjFBaAjFAarBjFAaBjFCaAjFBaAEVjFAEIrDfgDejFHgDIjFvBxBSjFAxBBjFExBExDbjFCxDAsCZjFEsCA",
  "jF-B1Cf0CXjFD0CTjFB0CtB9BDjFA9BBjFE9BHjFA9BCjFA9BcjFB9BCjFD9BJjFG9BIjFG4Df-CfjFfwCmBjFDwCLjFIG1B",
  "jFCGGzDVjFBzDHvDSjFEvDHwDRjFGwDDjFLwDGjFvCmDoCjF2B3ByBjFM3ByBjFG3BF1DnBjFH1DJjFlJDejFA+EpBjFA+EC",
  "jFB+EBjFqCDChEnBjFHgEpBjFVqDZjFlBXbjFTjBWjFIOtCjFDOjBjFIOAiCiCjFJiCAjFBiEYjFGiEJjFFS0BjFASRjFHtC",
  "mBjFI8D-CjFA-DTjFK-BRjFA-BuBjF9B7CGjFA7CAjFA7CDjFA7COjFA7CKjFF+D6BjFE+DJjFFqBDjFAqBHjFBqBBjFBqBV",
  "jFAqBGjFAqBBjFAqBEjFAhFAqBIjFBqBBjFBqBCjFBqBAjFFqBAjFEqBGjFBqBGjFCqBEjFqEhD7CjFAhDEjFd0EnCjFH0EJ",
  "jFlF9D1BjFB9DlBjFhB3CkCjFK3CJjFF4CMjFSoE5BjFFoEJjF1BCajFBCOjFDCWjF4Fe7BjFjD6EyCjFL6EAdGjFBdAjFBd",
  "HjFAdBjFAddjFAdBjFBdLjFIdJjFlC+CHjFB+CtBjFB+CKjFagFnCjFHjEyCjFMTPsD4BjFGcJjF1HMIjFAMsBjFAMNjFJMc",
  "jFCxCfjFBxCVjFAxCNjFoCoBGjFAoBBjFAoBrBjFCoBAjFAoBBjFAoBIjFHoBJjFFnBFjFAnBBjFAnBkBjFAnBBjFAnBFjFG",
  "nBJjF1JuCYjFG8BQjFA8BoBjFC8BbjF1CqCAjFOrExBjFMrEA9E5cjFlD9EuDjFA9EEjFK9EjGjFryCZiDjFMhB1iBjFp9D0",
  "BmSjF4tII4RjFG5CejFA5CJjFD5CB1EuCjFA1EJjFFJdjFBJFjFJ1BlCjFJ1BJjFA1BGjFA1BUjFE1BSjFvVyC6CjFkDyDqC",
  "jFDyD4BjFGyDQjF-BsEAjDAvBBgCAjFKvBBjFNsE3-FjFHsE-XgC1OjFpBsEIjFm3I7BDjFA7BGjFA7BBjFA7BAzB+I7BCjF",
  "OzBAjFczBCjFB7BAjFN7BDjFHjDrMjFjoCgBqDjFEgBMjFCgBIjFGgBJjFBgBDiFDjF7yEhFtBjFBhFWjFIiFzDjF7BiF1Hj",
  "FJiFmBjFBiF9BhFCiFQhFHiFBhFGiFdhFDiF8BjFUrBlCjF5DiFTjFLiFTjFLiF2CjFIiFYjFmEiF0CjFAiFmCjFAiFBjFBi",
  "FAjFBiFBjFBiFDjFAiFLjFAiFAjFAiFGjFAiFgCjFAiFDjFBiFHjFAiFGjFAiFbjFAiFDjFAiFEjFAiFAjFCiFGjFAiFzKjF",
  "BiFjJjFBiFxB6DrUjFO6DEjFA6DOjFviBlCejFFlCFjF0GmBGjFAmBQjFBmBGjFAmBBjFAmBEjFEb9BjFgBbAjFvD2BsBjFC",
  "2BNjFB2BJjFD2BBjF-J2EejFQ7E5BjFE7EAjFvO9CpBjFlXkBGjFAkBDjFAkBBjFAkBOjFAzCkGjFBzCPjFoBArCjFDAJjFD",
  "ABjFwYiFjCjFrCiF8BjFhGDDjFADajFADBjFADAjFBDAjFADJjFADDjFADAjFADAjFFDAjFDDAjFADAjFADAjFADCjFADBjF",
  "ADAjFBDAjFADAjFADAjFADAjFADAjFADBjFADAjFBDDjFADGjFADDjFADDjFADAjFADJjFADQjFEDCjFADEjFADQjFzBDBjF",
  "tIiFrBjFDiFjDjFLiFOjFBiFOjFAiFOjFAiFkBjFJiFtFjF3BiFZzBAiFBjFMiFrBjFDiFIjFGiFBjFNiFFjF5EiF3ejFDiF",
  "QjFCiFMjFCiF2DjFDiF+CjFFiFLjFDiFAjFOiFLjFDiF3BjFHiFJjFFiFnBjFHiFdjFBiFBjFtCiFzKjFLiFNjFBiFMjFCiF",
  "IjFGiFtBjFAiFGjFHiFNjFDiFIjFGiFIjFGiFyEjFAiF2BjFkBiFJjFlgBvB-2pBjFfvB5hEjFFvB9GjFBvBh0FjFNvBwpHj",
  "F+gDvB9QjFhvBvBq6EjFEvB-iEjFwi3ViFAjFdiF-CjF-DhFvHjFvw-F"])

def scriptSets : Array (List Nat) := #[
  [0], [0, 3, 79, 80, 106, 112, 117, 128, 134], [0, 3, 98, 117, 134, 145, 158], [2], [52], [3],
  [3, 24], [3, 117], [3, 98], [3, 98, 117, 134, 145, 158], [3, 134], [3, 134, 145], [3, 145],
  [3, 145, 158], [5], [6], [7], [8], [9], [10], [11], [11, 18, 133], [11, 28],
  [11, 28, 30, 39, 40, 42, 44, 45, 65, 71, 77, 86, 94, 103, 126, 127, 133, 136, 139, 142, 148],
  [11, 28, 30, 39, 40, 42, 44, 45, 65, 77, 86, 94, 103, 126, 127, 133, 136, 139, 142, 148],
  [11, 28, 42, 44, 45, 65, 69, 86, 103, 124, 139, 142, 148],
  [11, 28, 42, 44, 45, 65, 69, 86, 103, 139, 142, 148], [11, 28, 42, 65],
  [11, 28, 42, 65, 94, 103, 142, 148], [12], [13], [13, 47], [13, 46, 47, 51, 59],
  [13, 46, 47, 51, 59, 159], [14], [15], [16], [16, 57], [17], [17, 48, 135, 144], [19], [20],
  [1], [18], [18, 92, 137], [21], [22], [23], [162], [24], [157], [26], [26, 72, 73], [26, 73],
  [25], [25, 26, 73], [27], [27, 38], [27, 69], [27, 109], [27, 134], [31], [28],
  [28, 30, 44, 45, 63, 66, 77, 87, 126, 136, 148],
  [28, 30, 44, 45, 63, 65, 66, 77, 86, 87, 94, 126, 136, 148],
  [28, 30, 44, 45, 63, 65, 66, 77, 87, 94, 126, 136, 148], [28, 30, 66, 77], [28, 42],
  [28, 42, 65], [28, 42, 69], [28, 65, 86, 103, 139, 142], [28, 94], [28, 124], [28, 139], [29],
  [30], [32], [33], [34], [35], [36], [37], [37, 69], [38], [41], [42], [42, 139], [43], [44],
  [44, 63], [39], [45], [45, 91], [47], [47, 51, 59], [47, 69], [46], [117], [48], [49], [50],
  [51], [51, 59], [4], [161], [111], [115], [57], [66], [65], [65, 94], [59], [60], [58],
  [58, 69, 92], [61], [64], [62], [63], [126], [68], [69], [69, 88], [70], [71], [72], [73],
  [74], [75], [76], [77], [78], [86], [79], [80], [80, 106], [81], [40], [82], [90], [83], [84],
  [85], [114], [87], [88], [88, 110], [89], [91], [92], [96], [93], [94], [138], [97], [98],
  [99], [54], [100], [101], [55], [56], [95], [109], [156], [129], [120], [102], [106], [103],
  [104], [105], [53], [107], [108], [110], [113], [112], [116], [118], [119], [121], [124],
  [123], [125], [122], [127], [128], [130], [131], [132], [133], [134], [144], [135], [137],
  [67], [141], [136], [139], [149], [140], [142], [145], [146], [147], [143], [148], [150],
  [151], [163], [152], [153], [155], [154], [158], [159], [160]
]

def scriptUses : Partition := Partition.decode
  (String.join [
  "wBgC5DZwBF5DZwBuB5DAwBO5DAwBE5DWwBA5DewBA5DgOwBmB5DEwBEeBwBToDhC3CAoDB3CAoDc5DM3CDwBA3CCyGB3CDwB",
  "A3CAyGD3CAwBA3CAwBA3CCyGA3CAyGA3CTyGA3C+BxBN3CP4BiE7BA5BA6BB5BA4BnFyGAOlByGBOxByGBOCyGAkD2ByGHkD",
  "ayGDkDFyGKFEwBAFFJAFNJALAFBCAFfBAFJKKFJNJFFKAFiDHAFHwBAFhBgGNyGAgG7ByGBgGCFvBrGxByGN7E6ByGB7EC0F",
  "tByGB0FOyGAlEbyGBlEAyGAgGKyGEFeyGAFByGFFpCwBAFc+BwCZAaAoDB+BOYAXAiCJ+BPUDyGAUHyGBUByGBUVyGAUGyGA",
  "UAyGCUDyGBUIyGBUByGBUDyGHUAyGDUByGAUEyGBVJUOyGB7CCyGA7CFyGD7CByGB7CVyGA7CGyGA7CByGA7CByGA7CByGB7",
  "CAyGA7CEyGD7CByGB7CCyGC7CAyGG7CDyGA7CAyGG8CJ7CGyGJ4CCyGA4CIyGA4CCyGA4CVyGA4CGyGA4CByGA4CEyGB4CJy",
  "GA4CCyGA4CCyGB4CAyGO4CDyGB5CJ4CByGG4CGyGApFCyGApFHyGBpFByGBpFVyGApFGyGApFByGApFEyGBpFIyGBpFByGBp",
  "FCyGGpFCyGDpFByGApFEyGBpFRyGJnGByGAnGFyGCnGCyGAnGDyGCnGByGAnGAyGAnGByGCnGByGCnGCyGCnGLyGDnGEyGCn",
  "GCyGAnGDyGBnGAyGFnGAyGN2CNnGGyGEqGMyGAqGCyGAqGWyGAqGPyGBqGIyGAqGCyGAqGDyGGqGByGAqGCyGBqGAyGBqGDy",
  "GBqGJyGGqGItDMyGAtDCyGAtDWyGAtDJyGAtDEyGBtDIyGAtDCyGAtDDyGGtDByGFtDByGAtDDyGBuDJyGAtDCyGLkEMyGAk",
  "ECyGAkEyByGAkECyGAkEFyGDkEPyGBkEZyGA6FCyGA6FRyGC6FXyGA6FIyGA6FAyGB6FGyGC6FAyGD6FFyGA6FAyGA6FHyGF",
  "6FJyGB6FCyGLsG5ByGDwBAsGbyGkB4DByGA4DAyGA4DEyGA4DXyGA4DAyGA4DWyGB4DEyGA4DAyGA4DGyGA4DJyGB4DDyGft",
  "GnCyGAtGjByGDtGmByGAtGjByGAtGOyGAtGGwBDtGByGkB1E-BsBJ1E1CxClByGAxCAyGExCAyGBxCqByCAxCDgD-HwCoCyG",
  "AwCDyGBwCGyGAwCAyGAwCDyGBwCoByGAwCDyGBwCgByGAwCDyGBwCGyGAwCAyGAwCDyGBwCOyGAwC4ByGAwCDyGBwCiCyGBw",
  "CfyGCwCZyGFuB1CyGBuBFyGBoB-T+EcyGCzFqCwBCzFKyGGhGVyGIhGAiDUnBByGImBTyGLiGMyGAiGCyGAiGByGL1D9CyGB",
  "1DJyGF1DJyGFxEByEBxEAyEAxETyGFxE4CyGGxEqByGEoBlCyGJ8DeyGA8DLyGD8DLyGD8DAyGC8DLjGdyGBjGEyGK5ErByG",
  "D5EZyGF5EKyGC5EB1DfkBbyGBkBBkG+ByGAkGcyGBkGKyGFkGJyGFkGNyGBoDeyGwBQsCyGCQuByGA+F-BTzByGHTD7D3ByG",
  "C7DOyGC7DC-EvB4BIyGGxCqByGBxCC+FHyGHbA+BAbAjCA+BAWBoCAWAoCAmCA+BAoCB+BBoCAWA+BGnCAWA+BBWA+BDcAjC",
  "AkCAWBUAjCB4EAyGE5DlB3CE4BA5DwB3CE5DD3CE5DM4BA5DlC3CCoD1B8BAoDAgGAoDE5D-H3CVyGB3CFyGB3ClByGB3CFy",
  "GB3CHyGA3CAyGA3CAyGA3CAyGA3CeyGB3C0ByGA3COyGA3CNyGB3CFyGA3CSyGB3CCyGA3CIyGAwBLoDBwBgB6DAwB0ByGAw",
  "BK5DAyGBwBK5DAwBOyGA5DMyGCwBgByGOoDflCAyGOwBlB3CAwBC5DBwBF5DAwBa5DAwBQ5DoBwBCyGDwB2UyGYwBKyGUwB-",
  "cjB-HwBzTyGBwBfyGAwBoDzC-C5DfxBzDyGExBGxClByGAxCAyGExCAyGBuG3ByGGuGByGNuGAwCWyGIwCGyGAwCGyGAwCGy",
  "GAwCGyGAwCGyGAwCGyGAwCGyGAwCGyGA4BfwBiC5BAwBZyGhB9CZyGA9C4CyGL9C1GyGZwBLyGDwBAhBBgBAwBA9CChBJwBA",
  "gBAhBHgBDwBA9CIfDgDBgBAmDEwBAgBA9CD+CB9CByGAlD1CyGBmDDlDCmDAvD5ChBAmDAvDCyGEeqByGAgD9CyGA9CPef9C",
  "jByGLvDPgDeyGA9CnBwBXgDewBA9CwBwBO9CLwBDvDuB9CAvD3C9CYwBJ9CEwB-C9CewBA9C-tGwB-B9C-vU4GskByGC4G2B",
  "yGI-DvBzGrJyGT4BuB5BA4BvBR3CyGH-CHwBZ5DlDwBC5D-ByGE5DByGA5DAyGA5DEyGX5DN-FsByGCgCChCC-BDyGFvF3By",
  "GH1FlCyGH1FLyGF+BQWA+BApCA+BLxDtByDAxDAyFjByGKyFAgDcyGCrDtCyGAlBArDJyGDrDB1EeyGAtB2ByGItBNyGBtBJ",
  "yGBtBD1EflGiCyGXlGErEWyGJwCFyGBwCFyGBwCFyGIwCGyGAwCGyGA5DqBwBA5DI3CA5DDwBByGDuBvCrEtByGBrEJyGFgD",
  "j9KyGLgDWyGDgDwByGjoI9CtLyGB9CpDyGlB5DGyGLOEyGEkDZyGAkDEyGAkDAyGAkDByGAkDByGAkDJFyDyGPFqLIBFvCyG",
  "BF1ByGGFAyGfFBMAFJMAFBoDPwBJyGFoDN4BBwBUgBBwBLyGAwBSyGAwBDyGDFEyGAFmEyGBwBAyGAwBf5DZwBF5DZwBFhBE",
  "vDJmDAvDsBmDBgDeyGCgDFyGBgDFyGBgDFyGBgDCyGCwBGyGAwBGyGJwBEyGB+DLyGA+DZyGA+DSyGA+DByGA+DOyGB+DNyG",
  "hB+D6DyGE3BB1BAyGD0BsByGC1BI3CuCyGAwBMyGC3CAyGuBwBsBoDAyGhEgEcyGCpBwByGOGbyGDhFjByGIhFC0CayGEjFq",
  "ByGExGdyGAxGAkFjByGDkFNyGpB9BvC3FvBrFdyGBrFJyGFqFjByGDqFjByGDuCnByGHqBzByGKqBA0GKyGA0GOyGA0GGyGA",
  "0GByGA0GKyGA0GOyGA0GGyGA0GByGiC9D2JyGI9DVyGJ9DHyGX5DFyGA5DpByGA5DIyGkCzBFyGBzBAyGAzBrByGAzBByGCz",
  "BAyGBzBAnDVyGAnDItFf2EeyGH2EIyGvBjDSyGAjDByGEjDEwFbyGCwFAhEZyGEhEAyG-BuEftEXyGDtETyGBtEtBzDDyGAz",
  "DByGEzDHyGAzDCyGAzDcyGBzDCyGDzDJyGGzDIyGGmFfiFfyGfmEmByGDmEGnEAmEDyGIP1ByGCPGqDVyGBqDHpDSyGEpDHx",
  "FRyGGxFDyGLxFGyGvCnFoCyG2BgFyByGMgFyByGGgFFhDnByGHhDJyGlJFeyGA3GpByGA3GCyGB3GByGqCFClFnByGH7FpBy",
  "GVoFZyGlBvBbyGTvCWyGIiBtCyGDiBjByGIiBAsDiCyGJsDAyGB8FYyGG8FJyGFrB0ByGArBRyGHiEmByGI2F-CyGA6FTyGK",
  "2DRyGA2DuByG9B0EGyGA0EAyGA0EDyGA0EOyGA0EKyGF3D6ByGE3DJyGF1CA2CA1CA2CAyGA1CHyGB1CByGB1CVyGA1CGyGA",
  "1CByGA1CEyGA2CB1CHyGB1CByGB1CCyGB1CAyGF1CAyGE1CGyGB1CGyGC1CEyGqE6E7CyGA6EEyGdvGnCyGHvGJyGlF4F1By",
  "GB4FlByGhBwEkCyGKwEJyGFxEMyGSmG5ByGFmGJyG1BDayGBDOyGDDWyG4FrC7ByGjD2GyCyGL2GAqCGyGBqCAyGBqCHyGAq",
  "CByGAqCdyGAqCByGBqCLyGIqCJyGlC4EHyGB4EtByGB4EKyGa5GnCyGH9FyCyGMoBPuF4ByGG+BJyG1HdIyGAdsByGAdNyGJ",
  "dcyGCoEfyGBoEVyGAoENyGoCpEGyGApEByGApErByGCpEAyGApEByGApEIyGHpEJyGF6CFyGA6CByGA6CkByGA6CByGA6CFy",
  "GG6CJyG1JjEYyGGwDQyGAwDoByGCwDbyG1C-DAyGOnGP2CBnGA2CAnGdyGMnGAyB5cyGlDyBuDyGAyBEyGKyBjGyGryC2BiD",
  "yGMtC1iByGp9DEmSyG4tIR4RyGGzEeyGAzEJyGDzEBoGuCyGAoGJyGFSdyGBSFyGJsFlCyGJsFJyGAsFGyGAsFUyGEsFSyGv",
  "VqE6CyGkDvEqCyGDvE4ByGGvEQyG-BpGA8EA9CB0DAyGK9CByGNpG3-FyGHpG-X0D1OyGpBpGIyGm3IvDDyGAvDGyGAvDByG",
  "AvDAlD+IvDCyGOlDAyGclDCyGBvDAyGNvDDyGH8ErMyGjoCsCqDyGEsCMyGCsCIyGGsCJyGBsCHyG7yEoDtByGBoDWyGIwBz",
  "DyG7BwB1HyGJwBmByGBwB9BoDCwBQoDHwBBoDGwBdoDDwB8ByGU3ClCyG5DwBTyGLwBTyGLwB2CyGI9CRwBGyGmEwB0CyGAw",
  "BmCyGAwBByGBwBAyGBwBByGBwBDyGAwBLyGAwBAyGAwBGyGAwBgCyGAwBDyGBwBHyGAwBGyGAwBbyGAwBDyGAwBEyGAwBAyG",
  "CwBGyGAwBzKyGBwBjJyGBwBxB5FrUyGO5FEyGA5FOyGviB5DeyGF5DFyG0GzCGyGAzCQyGBzCGyGAzCByGAzCEyGE4B9ByGg",
  "B4BAyGvD9EsByGC9ENyGB9EJyGD9EByG-JwGeyGQ1G5ByGE1GAyGvO3EpByGlXwCGyGAwCDyGAwCByGAwCOyGAsEkGyGBsEP",
  "yGoBArCyGDAJyGDAByGwYwBjCyGrCwB8ByGhGFDyGAFayGAFByGAFAyGBFAyGAFJyGAFDyGAFAyGAFAyGFFAyGDFAyGAFAyG",
  "AFAyGAFCyGAFByGAFAyGBFAyGAFAyGAFAyGAFAyGAFAyGAFByGAFAyGBFDyGAFGyGAFDyGAFDyGAFAyGAFJyGAFQyGEFCyGA",
  "FEyGAFQyGzBFByGtIwBrByGDwBjDyGLwBOyGBwBOyGAwBOyGAwBkByGJwBtFyG3BwBZlDAwBByGMwBrByGDwBIyGG9CByGNw",
  "BFyG5EwB3eyGDwBQyGCwBMyGCwB2DyGDwB+CyGFwBLyGDwBAyGOwBLyGDwB3ByGHwBJyGFwBnByGHwBdyGBwBByGtCwBzKyG",
  "LwBNyGBwBMyGCwBIyGGwBtByGAwBGyGHwBNyGDwBIyGGwBIyGGwByEyGAwB2ByGkBwBJyGlgB9C-2pByGf9C5hEyGF9C9GyG",
  "B9Ch0FyGN9CwpHyG+gD9C9QyGhvB9Cq6EyGE9C-iEyGwi3VwBAyGdwB-CyG-DoDvHyGvw-F"])

end TerminalScript.Unicode
