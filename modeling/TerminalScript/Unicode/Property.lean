import TerminalScript.Unicode.RangeSet

/-!
Yes-or-no properties of code points, each with its names.
-/

namespace TerminalScript.Unicode

def propertyNames : List (List String) := [
  ["ahex", "asciihexdigit"], ["alpha", "alphabetic"], ["bidic", "bidicontrol"],
  ["bidim", "bidimirrored"], ["ci", "caseignorable"], ["cased"],
  ["cwcf", "changeswhencasefolded"], ["cwcm", "changeswhencasemapped"],
  ["cwl", "changeswhenlowercased"], ["cwt", "changeswhentitlecased"],
  ["cwu", "changeswhenuppercased"], ["dash"], ["di", "defaultignorablecodepoint"],
  ["dep", "deprecated"], ["dia", "diacritic"], ["emoji"], ["ecomp", "emojicomponent"],
  ["emod", "emojimodifier"], ["ebase", "emojimodifierbase"], ["epres", "emojipresentation"],
  ["extpict", "extendedpictographic"], ["ext", "extender"], ["grbase", "graphemebase"],
  ["grext", "graphemeextend"], ["hex", "hexdigit"], ["idsb", "idsbinaryoperator"],
  ["idst", "idstrinaryoperator"], ["idc", "idcontinue"], ["ids", "idstart"],
  ["ideo", "ideographic"], ["joinc", "joincontrol"], ["loe", "logicalorderexception"],
  ["lower", "lowercase"], ["math"], ["nchar", "noncharactercodepoint"],
  ["patsyn", "patternsyntax"], ["patws", "patternwhitespace"],
  ["pcm", "prependedconcatenationmark"], ["qmark", "quotationmark"], ["radical"],
  ["ri", "regionalindicator"], ["sterm", "sentenceterminal"], ["sd", "softdotted"],
  ["term", "terminalpunctuation"], ["uideo", "unifiedideograph"], ["upper", "uppercase"],
  ["vs", "variationselector"], ["wspace", "whitespace", "space"], ["xidc", "xidcontinue"],
  ["xids", "xidstart"]
]

def alphabetic : RangeSet := RangeSet.decode
  (String.join [
  "hCZGZvBAKAEAFWBeBpOELOEHABA2CAqBEBBCDBAGABCBABTByCBqEIlFBlBCAGoBnBNBABBBBBAIaEDdKF3BBGOlDBHEHECK",
  "CCAQvBNkDYgBJBEAFXCSTYHKFXBFRpBKLDGGrCBPBCEONSBHCBCVBGBADDDHCBCBBAIAEBBEMBKAECBFEBCVBGBBBBBBEEEB",
  "CBEAHDBARFLCBIBCBVBGBBBEDIBCBBDAPDVDECBHCBCVBGBBBEDHCBCBJBEBBENAQBBFDCBDDBBABBDBDCDLEEDCBCDAGAoB",
  "MBCBWBPDHBCBCIBBCCACDcDBHBCBWBJBEDHBCBCIBGBBDNCMMBCBoBCHBCBCBAFDHEWFBCBRDXBIBACGIFBABHSBN5BFGGAz",
  "BBBABEBXBABSBCCEBAGAODgBA-BHBjBESEPBjBjC2BBACEQ-BKDClBBAFACqBBsKBDCGBABDCoBBDCgBBDCGBABDCOB4BBDC",
  "iClBPQ1CCFDrTCQBZFqCDKHTLUMTMMBCBBMzBCSOAEAjC4CHqBFlCKeBLEIXdCELrBEZ2BbE+BCTyBAXBLCxBzBBOBHzBpBC",
  "DKrBBKO2BWCKjBCIHqBCCpBDBFBBDAF-FnBNL1ICFClBCFCHBABABABeC0BBGBADCBGDDCFEMFCBG0DANAQMlDAEACJBADEG",
  "ABABABDBKCDFEEARoBtZzB24BkHGDDBMlBBAFAC3BHAQWJGBGBGBGBGBGBGBGBfvBA1OCZIHECEE1CGCB5CBDFqBB9CRfwBP",
  "gQ-tGgCs0VjCtBCsIDPKBUuBFHDwDnBICmDC-BFBBABEYTBgBYzBMjCBAsBFDABCKgBFiBNcDyBBLPAQPKEB2BJNSWDkCBAB",
  "AYCCPCDLFCFCFJGBGBqBBNG6DVj9KMWEwBkoItLCpDmBGMEFLBMBEBABBBBBrDhBqLS-BC1BoBL0DEBmEkBZGZL4CDFCFCFC",
  "CjBLBZBSBBBOCNiB6DlC0BrIcDwBvBfNdFqBFdCjBEHBEqB9ESjBEjBEnBIzBMKBOBGBBBKBOBGBBjC2JJVKHYFBpBBIlCFC",
  "ABrBBBDACWKWJehCSBBKVKZmC3BGBgCDBBFHBCBcqBcDcjBHBbb1BKVKSNRuDoC3ByBNyBNnB4KpBBBDBuCcKAIVqBRuBUbW",
  "JlCrBEK4BJANYXyBRDIiBDAJ-BBDJBKABAjBRBhBCAGD+BGBABDBOBJH4BXDBHCBCVBGBBBEDHCBCBDAGAFG8EhCBCBDUCeh",
  "CCBBA4F1BCGZFiB+BBADA7B1BCAnCaCNVG5F4BnD-BfHCACHBBBdBBCBCD9CHCtBCFBABBbyBCJRnCFASoCnIIBsBBGBAxBd",
  "CVBNpCGBBBrBDABBBCBACBYFBBBkBBBBDBAnKWJQBoBDCvDAvC5cmDuDRjGsyCgDPvhBRF59DmS5tI4RHeRuCRdSvBQDfUFS",
  "wV-BgEqCE4BHQgCBBAMBO3-FI1mBqBIn3IDBGBBBiJPAdCCAODIrMkoCqDFMDIHJEAh7F0CBmCBBCACBCDBLBABGBgCBDCHB",
  "GBbBDBEBADGBzKCYBYBeBYBeBYBeBYBeBYBH05BeGF1GGBQCGBBBEF9BhBAwDsBKGQAhKdSrBkPb0XGBDBBBOBkG7BjCDADA",
  "0lBDBaBBBACABJBDBABAGAEABABABCBBBACABABABABABBBACDBGBDBDBABJBQFCBEBQ0TZGZGZ2zD-2pBgB5hEG9GCh0FOw",
  "pH-gD9QivBq6EF-iE"])

def defaultIgnorable : RangeSet := RangeSet.decode
  (String.join [
  "tFAhVAsWAi6CBzyBB1CE7-BEaExBP0nEA7kzBPvHAgFAvCInlvBDvmFHl0rY--D"])

def graphemeExtend : RangeSet := RangeSet.decode
  (String.join [
  "gYvDzIGnIsBBABBBBBAoCKwBUQAlDGCFCBBDjBAea7CK6BIJAYDBIBCBErBC8BHqBXBf3BABAEHEADGKBdA6BABACDIAJAKB",
  "aACB5BAEBEBCCDAeBDALB5BAEEBBEAUBWFBA6BABBBDIAHCKBeA7BABAMAJAoBADA3BABCFCBDHBLBdA6BACACADAFBHBLBc",
  "B5BBBACDIAJAKBdAoCAEACCBAIAxCACGMHiDACILGpCBbABABA3BNBEBBFKBjBJAmDDBFBBCBZBECQDNACBGAPA-VCydCdBe",
  "BeBgCBBGIACKJAtBCBA1DBiBA2DCEBJAGC7GBCA6BABGBABACHGJCAwBexBDwBGBAFAoBIMBgBDCBBC4BABBDABC6BHCB4EC",
  "BMBGEAGADBmG-BsQAjGgB+-CCtEAgDfqRFpDB0udDBJgBBwCBwIADAEAZBFA3EBaRNAmBHZKuBCwBACDCBnBAjCFCBCBMAIA",
  "vBAzBABCCBFBBAqBBIAuHACAEAw5TAhXPQPuLB9SAiHA1EEm0BCBBFDoBCEAlFB9RDjMBwCCmCKxBD7DA2BOpBACBKCxBDCB",
  "HA9BCkBEBH+BAMB0BIKDCA-CCCABBGACA9EADHVB5BBBABAWAOGDEjGHCCBAXAxCACFBACABBBBrHACDGBBBbB1CHCABBqDA",
  "BACFBAlDCCDBEjIIBB1HAKBBAEAwEDCBEAgBJoBFCDIAJFCCuBMBB2MGBFBAyCVCGBBBB6DFDABBBGBAoCBDABA7KBLB0BEF",
  "ABA9nFAGO60NE7BG4gBA-BDxCA4lTBhzEtBCW+QABCEEIHCGeD0EC79B2BExBIAOAWEBOwqBGBQCGBBBEkDAgFG3LA9BD8PD",
  "gfGtDG12lY-CgEvH"])

def joinControl : RangeSet := RangeSet.decode
  (String.join [
  "sgIB"])

def whiteSpace : RangeSet := RangeSet.decode
  (String.join [
  "JESAkDAaA-uFA-rCKdBFAvBAg9DA"])

def properties : Array RangeSet := #[
  RangeSet.decode (String.join [
    "wBJHFaF"]),
  alphabetic,
  RangeSet.decode (String.join [
    "8wBAxvGBaE3BD"]),
  RangeSet.decode (String.join [
    "oBBSABAcABAdABAtBAPA+zDD96BB8sCBKB2BBOBxFAgGDDFDADBDDBDBABAEIFABRFDJBBABHCeCDFAJBCSFBJECBEXCPIDU",
    "BHB9hBNqCACDBBBCFDFCDNzMVCFBNIAHFDAEEBBCEEABCCBKFCBMSBDCABACABDFBGCYBLBEDBBCBEqBCHBnBFABADEFCEAD",
    "EBAgIAjQDDBBBOBCJrBHrNJCH9xzBFFBiFBSABAcABAdABABBBB371BA5BA5BA5BA5BA"]),
  RangeSet.decode (String.join [
    "nBAGALAjBABAnCAEABAEACB3P-FEBEAJBBA7HGvGAFAxBsBBABBBBBAsBALFKKBAjBAKUQAlDHBJBDhBABAea7CK6BKEACAY",
    "XrBCsBAHBGHpB5B3BABAEHEADGKBNAPA6BAEDIAUBaACB5BAEBEBCCDAeBDALB5BAEEBBEAUBWFBA6BACABDIAHBLBeA9BAM",
    "AyBADA3BABCFCBDHBLBdA6BACAGAFBUBcB5BBEDIAUBdAoCAHCBA6CACGLIiDACIJABGpCBbABABA3BNBEBBFKBjBJAmDDBF",
    "BBCBZBECQDNACBGAPA+CAgTCydCdBeBeBgCBBGIACKDAFAtBEzBAhCBiBA2DCEBJAGC7GBCA6BABGBABACHGJCAnBAIexBDw",
    "BABEBAFAoBIMBgBDCBBC4BABBDABC6BHCBgCFyCCBMBGEAGADByB+BNAiBkD9NABCLCNCNCNBMEIBKACACExBEBJBANAQMzB",
    "gBr8CBxDC9DAPAgDfvBA1OAkBDDEFA9CF9CC24bAinBFuIAiDDBJBAcDwCBOhBuCAXCnDCDBIADAEAZBFA3EBaRNAmBHZKuB",
    "CwBACDCBRAVBiCFCBCBMAIAjBALAzBABCCBFBBAbAOBFBBAkDEJC5DACAEAw5TAzEQ9RPDAMPiBACApFAHAGALAjBABAvBAt",
    "BBjCAVChQAiHA1EElgBFBpBBImSCBBFDoBCEAlFB9RDjMBwCCmCKxBD7DA2BOpBACBKCxBDCBCAEAKAyBCkBEBH+BAMB0BIK",
    "DCA-CCCABBGACA9EADHVB5BBDAlBGDEjGHCCBAXA0CFBAEBBBuHDGBBBbB1CHCABBqDABACFBAlDCCDBEjIIBBgIBBAEAwED",
    "CBEAgBJoBFCDIAJFCCuBMBB2MGBFBAyCVCGBBBB6DFDABBBGBAoCBDABA7KBLB0BEFABAtnFQGO60NE7BGJDrgBA-BQgCBBB",
    "rgQDBGBB+kDBBD8yEtBCWgRCJPCGeD0EC79B2BExBIAOAWEBOwqBGBQCGBBBEF9BhBAgFNwLA9BD7PEgfGtDHv1CEhgjYAe-",
    "CgEvH"]),
  RangeSet.decode (String.join [
    "hCZGZvBAKAEAFWBeBiGBDEvGBjBHBeEgDAqBDCBCDBAGABCBABTByCBqEIlFBlBJoB34ClBBAFACqBBDgV1CCFikCIHqBCCg",
    "C-FgC1ICFClBCFCHBABABABeC0BBGBADCBGDDCFEMFCBG0DANAQMlDAEACJBADEGABABABDBFEACDFEEARfDBxZzB24BkHGD",
    "DBMlBBAFAyoetBSdkElDDDB6BFBBABEYEBC1ZqBBNGvCg6TGMEpgBZGZllBvCgDjBEjB0DKBOBGBBBKBOBGBBjOACCBpBBIl",
    "mByBNyBt9C-BgrV-BgsZ0CBmCBBCACBCDBLBABGBgCBDCHBGBbBDBEBADGBzKCYBYBeBYBeBYBeBYBeBYBH05BJBTGFlI9By",
    "kCjCs-BZGZGZ"]),
  RangeSet.decode (String.join [
    "hCZ6CAKWBHgBABABABABABABABABABABABABABABABABABABABABABABABABABABABACABABABABABABABABBBABABABABAB",
    "ABABABABABABABABABABABABABABABABABBBABABABBBABBBCCDBBBCDBBBBABABBBACABBBCBABBDAHBBBBBBABABABABAB",
    "ABABACABABABABABABABABACBBABCBABABABABABABABABABABABABABABABABABABABABABABABABABABABABAHBBBCABDB",
    "ABABABA2HAqBABADAIAGABCBABBBQBIWAMCDBBABABABABABABABABABABABABBCBBABBCyBwBABABABABABABABABABABAB",
    "ABABABABABAJABABABABABABABABABABABABABABABABABABABABABABABABABABABBBABABABABABACABABABABABABABAB",
    "ABABABABABABABABABABABABABABABABABABABABABABABABABABABABABABABABABABABABABABABAClBwBA44ClBBAFAqZ",
    "FikCIHqBCCgKABABABABABABABABABABABABABABABABABABABABABABABABABABABABABABABABABABABABABABABABABAB",
    "ABABABABABABABABABABABABABABABABABABABABABABABABABABABABABABABABAFBCABABABABABABABABABABABABABAB",
    "ABABABABABABABABABABABABABABABABABABABABABABABABABABABABABABABABABABAJHIFKHIHIFLABABABAIHQvBCCCF",
    "FCCFLDMEFCCFpJADBGAtBPTAyZZw5BvBwBABCCABABABDBACAICBABABABABABABABABABABABABABABABABABABABABABAB",
    "ABABABABABABABABABABABABABABABABABABABABABABABABABABAIABAEAtqeABABABABABABABABABABABABABABABABAB",
    "ABABABABABATABABABABABABABABABABABABABAnEABABABABABABADABABABABABABABABABABABABABABABABABABABABA",
    "BABABABABABABABABABAKABABBBABABABAEABACABADABABABABABABABABABABEBEBABABABABABABABDBAGAFABAcA6bvC",
    "g6TGMEpgBZlmBnBoEjB8EKBOBGBBq3ByBt-CfgsVfg1ehB"]),
  RangeSet.decode (String.join [
    "hCZGZ6BAKWBeB-BBzCBMBNCNCBBAE8CBRGaBBBABBDBBABBBECABBCAHACABBDFFAKBmFAqBDCBDCBAGABCBABTBuBDgBBEB",
    "kEIlFBlBKmB44ClBBAFACqBCCgV1CCFikCIHqBCC5FADAQAxD7ECAB1DCFClBCFCHBABABABeC0BBGBADCBGDDCFEMFCBGpJ",
    "ADBGAbARfDBxZzB24BwDBBBBHlDHDDBMlBBAFAyoetBSbmENC9BJODCCEBYBaFBEDbB8aAcvCg6TGMEpgBZGZllBvCgDjBEj",
    "B0DKBOBGBBBKBOBGBBj2ByBNyBt9C-BgrV-Bg0ejC"]),
  RangeSet.decode (String.join [
    "hCZlDWBGhBABABABABABABABABABABABABABABABABABABABABABABABABABABABACABABABABABABABACABABABABABABAB",
    "ABABABABABABABABABABABABABABABABBBABADBBABBBCCDBBBCDBBBBABABBBACABBBCBABBDAHBBBBBBABABABABABABAB",
    "ACABABABABABABABABACBBABCBABABABABABABABABABABABABABABABABABABABABABABABABABABABABAHBBBCABDBABAB",
    "ABAhJABADAIAGABCBABBBQBIjBAIABABABABABABABABABABABAFACABBCyBwBABABABABABABABABABABABABABABABABAJ",
    "ABABABABABABABABABABABABABABABABABABABABABABABABABABABBBABABABABABACABABABABABABABABABABABABABAB",
    "ABABABABABABABABABABABABABABABABABABABABABABABABABABABABABABABABABAClBp6ClBBAFAyW1C6kCqBCCgKABAB",
    "ABABABABABABABABABABABABABABABABABABABABABABABABABABABABABABABABABABABABABABABABABABABABABABABAB",
    "ABABABABABABABABABABABABABABABABABABABABABABABABAJABABABABABABABABABABABABABABABABABABABABABABAB",
    "ABABABABABABABABABABABABABABABABABABABABABABABABABAJHIFKHIHIFLABABABAIHYHIHIHIELELDMELEpJADBGAtB",
    "PTAyZZw5BvBwBABCCABABABDBACAICBABABABABABABABABABABABABABABABABABABABABABABABABABABABABABABABABA",
    "BABABABABABABABABABABABABABABABAIABAEAtqeABABABABABABABABABABABABABABABABABABABABABABATABABABABA",
    "BABABABABABABABABAnEABABABABABABADABABABABABABABABABABABABABABABABABABABABABABABABABABABABABABAK",
    "ABABBBABABABAEABACABADABABABABABABABABABABEBEBABABABABABABABDBAGAFABAcAr5VZlmBnBoEjB8EKBOBGBBq3B",
    "yBt-CfgsVfg1ehB"]),
  RangeSet.decode (String.join [
    "hDZ6BApBXBHBABABABABABABABABABABABABABABABABABABABABABABABABABABABACABABABABABABABBBABABABABABAB",
    "ABABABABABABABABABABABABABABABABACABABCCABACADAFACADBDACABABACAEACADABACADABAEABBBBBABABABABABAB",
    "ABABBBABABABABABABABABCBABADABABABABABABABABABABABABABABABABABABABADABABABABABABABABAIACBBAEABAB",
    "ABABFBBBABBDBBABBBECABBCAHACABBDFFAKBmFArBABADADCSAbiBBBDCBABABABABABABABABABABABEBACACA0BvBBABA",
    "BABABABABABABABABABABABABABABAJABABABABABABABABABABABABABABABABABABABABABABABABABABACABABABABABA",
    "BBBABABABABABABABABABABABABABABABABABABABABABABABABABABABABABABABABABABABABABABABABABABABABABABA",
    "BAxBmBwzDFikCIwHADAQAyDABABABABABABABABABABABABABABABABABABABABABABABABABABABABABABABABABABABABA",
    "BABABABABABABABABABABABABABABABABABABABABABABABABABABABABABABABABABABABABABGFABABABABABABABABABA",
    "BABABABABABABABABABABABABABABABABABABABABABABABABABABABABABABABABABABABABABIIFKHIHIFKHIHINCHIHIH",
    "IEBBGADCBBIDCBIHKCBB2KAhBPEAraZm6BvBBADBBABABAGACAKABABABABABABABABABABABABABABABABABABABABABABA",
    "BABABABABABABABABABABABABABABABABABABABABABABABABABABAIABAEAMlBBAFAzoeABABABABABABABABABABABABAB",
    "ABABABABABABABABABATABABABABABABABABABABABABABAnEABABABABABABADABABABABABABABABABABABABABABABABA",
    "BABABABABABABABABABABABABABAKABACABABABABAEAEABBCABABABABABABABABABALABABABABABABABAEABAGAFABAcA",
    "8aAcvCg6TGMEphBZtmBnBoEjB7EKBOBGBBj4ByBt+CfgsVfi1ehB"]),
  RangeSet.decode (String.join [
    "hDZ6BApBXBHBABABABABABABABABABABABABABABABABABABABABABABABABABABABACABABABABABABABBBABABABABABAB",
    "ABABABABABABABABABABABABABABABABACABABCCABACADAFACADBDACABABACAEACADABACADABAFBBBBBBABABABABABAB",
    "ABBBABABABABABABABABBBBBADABABABABABABABABABABABABABABABABABABABADABABABABABABABABAIACBBAEABABAB",
    "ABFBBBABBDBBABBBECABBCAHACABBDFFAKBmFArBABADADCSAbiBBBDCBABABABABABABABABABABABEBACACA0BvBBABABA",
    "BABABABABABABABABABABABABABAJABABABABABABABABABABABABABABABABABABABABABABABABABABACABABABABABABB",
    "BABABABABABABABABABABABABABABABABABABABABABABABABABABABABABABABABABABABABABABABABABABABABABABABA",
    "xBmBo6CqBCC4XFikCIwHADAQAyDABABABABABABABABABABABABABABABABABABABABABABABABABABABABABABABABABABA",
    "BABABABABABABABABABABABABABABABABABABABABABABABABABABABABABABABABABABABABABABABGFABABABABABABABA",
    "BABABABABABABABABABABABABABABABABABABABABABABABABABABABABABABABABABABABABABABABIIFKHIHIFKHIHINC0",
    "BBBEABADCBBEADDCBIHKCBBEAxKAhBPEAraZm6BvBBADBBABABAGACAKABABABABABABABABABABABABABABABABABABABAB",
    "ABABABABABABABABABABABABABABABABABABABABABABABABABABABABABAIABAEAMlBBAFAzoeABABABABABABABABABABA",
    "BABABABABABABABABABABABATABABABABABABABABABABABABABAnEABABABABABABADABABABABABABABABABABABABABAB",
    "ABABABABABABABABABABABABABABABABAKABACABABABABAEAEABBCABABABABABABABABABALABABABABABABABAEABAGAF",
    "ABAcA8aAcvCg6TGMEphBZtmBnBoEjB7EKBOBGBBj4ByBt+CfgsVfi1ehB"]),
  RangeSet.decode (String.join [
    "tBA8qBAzBAhyDAlgBApgCF9BAnBAPAmMAkgDACAfBEAcA+NATAvDAwszBBlBAKApFA-8DA"]),
  defaultIgnorable,
  RangeSet.decode (String.join [
    "pKAppBAjoCABAphCBlmCF5VB2m3bA"]),
  RangeSet.decode (String.join [
    "+CABAnCAGAEACB3P+EBHFFRBEAJB9HExGA3BQBaBABBBAmEHEBmEBEBDCjCa7CK6BKiBB+DHpBJQb9BAQADDcAqCAQAuDAQA",
    "uDAQAvBC8BAQAHA3DAuDAQAuDAQAtDBQA8DA8DFBArDANErCBbABABAEBiCCBB+BAwDABBoBBEEZGBAKBhWC0dBzFKJA7KC5",
    "JHCAwBOCKoDAPAmBI2BBqEBgCFyCYEAGACCyB+B5CLlBK9NABCLCNCNCNBwnDC9JA6PFpDD-CAyrdAMBBAcByCBOhBmDCtDB",
    "qGAbR5BDkBA-CAMAkBA1EChCDzBAkDEJCgEBw5TAhYPuIABAvBAtBBjCA8XA-kBFBpBBIqZB7RF1OCmCKxBDgGApBAoCB4DB",
    "+BAsCAJCoDByFBxCAQAYGDEtGADA7DB7HB+DA2DBzDAtIBiIBEA8EAzCASAxCAlNAiIABBxCAv1FO60NE7BG4iBQwCB+-PDB",
    "GBBh4HtBCWgRCDFIHCGeDi0D9BiGG3LA9BDgvBGtDCBC"]),
  RangeSet.decode (String.join [
    "jBAGAFJvDAEAt8HAMA4GAWA6CFPBvLBMAmFAZKECnGAnHBKAJA6BDBEJACACBCAEACABBCADADBICFABAFLLBCABBBASACBS",
    "FBABBDBFACBEBLBFBCAFBBABBUBFFBDCAEACACFBACABABAGADAGAKBPACAEABAECBALBwBCJAOAOA0LBvOCTBzBAEA6mBAM",
    "A5SABAqrvDAqGAgFBMBOACJrCZBBXAUACIVBuFhBCvDCBBCCyCCCBmIB+BLFBXHBCHMACDCAEBNBCAIBJAFCMCICCABAEAGA",
    "DAG1CwBlCFHCCEJDABBDACJjHLEA7IuBBJB4FwDMDIHtBBGINEIHI"]),
  RangeSet.decode (String.join [
    "jBAGAFJz+HA1GArp3BA2+8BZ7PEwtBDszhY-C"]),
  RangeSet.decode (String.join [
    "7-8DE"]),
  RangeSet.decode (String.join [
    "9wJA7GAQD3jzDA8BCCACC1DBCKVSDAECBCHABAYApGBEAVAEBuFCDEzCAQCJALA-RACAIHGAJJCC4BA9BBBBBARCBMlHCqBI"]),
  RangeSet.decode (String.join [
    "64IBtGDDACApQBVByBLrBATANAIBRBFBIAFAVAHBBAEACAHAEBcAjBABAECBA9BCYAOA7aBzBAEAulxDAqGA+FACJrCZBAYA",
    "UACEBCVBuFgBMIBlCBVMqBEEMQDADmCBAB6FC+BNDBXSAaBNA2C0CwBlCGADCCCEDLBHIjHLEA7IuBBJB4FwDMDIHtBBGINE",
    "IHI"]),
  RangeSet.decode (String.join [
    "pFAEAt8HAMA4GAWA6CFPBvLBMA-CAmCAZKECnGAnHBKAJA6BDBFBLBxDK1DCKBABAGADAGAKBPACAEABAECBALEtBCJAOAOA",
    "0LBvOCTBzBAEA6mBAMA5SABAmrvD-HNCfA8BFMBOACJS4BbOKAUACIBDJxNF9JIpIwB-D0DL1CqBMD4BHKFoBHexCMuBBJB4",
    "NgI9f"]),
  RangeSet.decode (String.join [
    "3FA4QBubA5NA6aAwXA-DAjqCA4BAjTAuMAkCAp8EArBEnDB9CC24bA2vBAieAWApEAsDAVB7jVAwgCB6+CAoTCvmBAplUB8k",
    "BBBA4qcBmgCC"]),
  RangeSet.decode (String.join [
    "gB+ChBMBxSwDHCFEGBABTB-GHlFBlBCxBCCuBABACACAJaEFRJLABtBVPBkDIAGBCAEfCABdd4CLAOqBJGDXEAJADAHOBYFA",
    "BKFeRpB5B2BBABDIDBCHJCcBBBHCBCVBGBADDDABBGBCBBANBBCEXFABFEBCVBGBBBBBBECYDBAHJCCBAMABIBCBVBGBBBED",
    "DIABBDAPBELHAIBBHCBCVBGBBBEDACAGBCBPBBCERLABFDCBDDBBABBDBDCDLFABBDCBCDAVUGCBHBCBWBPDADDTCCACBEJH",
    "JBKBCBWBJBEDBBBBBCBBBRBBBEJBCOKBCBoBCABBFCBCBBECBJEZCBBRDXBIBACGJBGGHJCCMvBBBLHIMlBBBABEBXBABJBB",
    "JACEBAJJCDgBXCaBABABNBjBSAFACExBHBFBMlBsBEAGACBCYCDDPEMBBCFBOBnBBAFAC4LBDCGBABDCoBBDCgBBDCGBABDC",
    "OB4BBDCiCFcDZG1CCFC8UD4CHRDAJSCCJROMBCPzBCAHHBBLIDJGJGKFJG4CHEChBBAFlCKeEDCCEBBFHADpBCELrBEZGKD4",
    "BCBD3BBAJABBIFNJGJGN2CvBHABEBJDaJKDfEBCAD3BBACCBADBIvBIBFOD7BHqBCKLANAHDBFBCCAF-FgC1ICFClBCFCHBA",
    "BABABeC0BBOBNCFBSCCBIBKFXHwBQBCaBMDgB-BrEE2UZKVz4BCfB3KDBFsBBAFAC3BHBPWJGBGBGBGBGBGBGBGhB9CiBZB4",
    "CM1GaLEpBGPB1CEkDFqBB9CBzCMuBBszcD2BJ7KUuBEAKfCvCCFIqGFBBABEYPBCBDBYCEEJG3BIjCKLYMBlBIYLBLdGvBBB",
    "EBCPBKEGBYBoBGBCBLCBHBACJCfByBBADBCECABAYQCHLFCFCFJGBGB7BE0DBBBDDJGj9KMWEwBkoItLCpDmBGMEFABXBEBA",
    "BBBBB8DQ8NC1BHAgBPQJWiBBSBDEEBmEE8ECeDFCFCFCCDGBGNBCLBZBSBBBOCNiB6DFCEsBD3CBMDAvBsBjEcDwBQaEjBJd",
    "FlBKdBkBENqB9ECJGjBEjBEnBIzBLLBOBGBBBKBOBGBBjC2JJVKHYFBpBBIlCFCABrBBBDACWBnCIIwBSBBFgBDaFAgC3BET",
    "CuBPDBCBcKIHIH-BgBkBGLJ1BDcCaFZHDMGwCoC3ByBNyBHpBMJmJeBpBDACBuCnBIVLIWREDmBbUWJAB1BPGEdBBCAMwBEB",
    "CBBDOYHJJjBFAJRIiBBCLzBJJEBBPBTLRBbDBBACFBB-BGBABDBOBKGuBBCNJIBBHCBCVBGBBBEDABABDCBCCCAMG8E3BIBD",
    "ABUBABCevBBBGABBBACACDIJmFuBBBGDCACakByBIBBACDLJGMTqBBABBGABBGJ2BaFBEAJW5FuBJACAkDyCMHCACHBBBXBE",
    "BBEABDBCJJmCHCpBIDBDbAKnBGBEHJAGBDtBNACINoCHJ2HIBlBOABFKcDfZAHACArCGBBBlBVAJJGFBBBkBEBBABAHJ2JSC",
    "DJOBjBIBBABW2CAPxBN6cmDuDBELjGsyCiDNvhBRF59DmS5tI4RHeBJEwCBJGdHAKvBHOKJBGBUFSwV6ClDqCF3BLMgCDMBO",
    "3-FI1mBqBIn3IDBGBBBiJPAdCCAODIrMkoCqDFMDIHJCACAw1EzD8B1HKmBC7BBADDVBHdE8BVhCDA6DTMTM2CJYnE0CBmCB",
    "BCACBCDBLBABGBgCBDCHBGBbBDBEBADGBzKCjJCxR3BDyBHBNBG0jBeGFlI9ByEsBKGCJEBgKdSrBEJFAwObEJmXGBDBBBOB",
    "kGCIwBjCHAEJEBxYjCsC8BiGDBaBBBACABJBDBABAGAEABABABCBBBACABABABABABBBACDBGBDBDBABJBQFCBEBQ0BBuIrB",
    "EjDMOCOBOBkBKtF4BcNrBEIHBOF6E3eEQDMD2DE+CGLEAPLE3BIJGnBIdCBuCzKMNCMDIHtBBGINEIHIHyEB2BlBJmgB-2pB",
    "gB5hEG9GCh0FOwpH-gD9QivBq6EF-iE"]),
  graphemeExtend,
  RangeSet.decode (String.join [
    "wBJHFaFp1-BJHFaF"]),
  RangeSet.decode (String.join [
    "w-LBCH"]),
  RangeSet.decode (String.join [
    "y-LB"]),
  RangeSet.decode (String.join [
    "wBJHZEABZvBAKABACAFWBeBpOELOEHABAR0DBBCDBAGEBABTByCBqEBEClFBlBCAGoBIsBBABBBBBAIaEDdKFpCElDBHCJBS",
    "CAQ6BCkDO1BEACACtBSbEKFXBFJpCBgECJBSBHCBCVBGBADDCICBCDIAEBBECLKABACCBFEBCVBGBBBBBBCABEEBCCDAHDBA",
    "HPLCBIBCBVBGBBBECJBCBCCAPDCJJGBCBHCBCVBGBBBECICBCCHCEBBECJBAQBBFDCBDDBBABBDBDCDLEEDCBDCAGAOJQMBC",
    "BWBPCIBCBDHBBCCACDCJQDBHBCBWBJBECIBCBDHBGBBDCJBCMMBCByBBCBEFDHECJKFBCBRDXBIBACGDAEFBABHGJCBN5BFO",
    "BJnBBBABEBXBABWCEBABGBJCDgBAXBGJLABABAEJBjBETBRBjBJA5BpCGtCClBBAFACqBBsKBDCGBABDCoBBDCgBBDCGBABD",
    "COB4BBDCiCCCJIOPQ1CCFDrTCQBZFqCDKHVJVLTMMBCBBMzCDAEBCJhBCBKG4CHqBFlCKeBLELKnBCELrBEZGKlBbE+BBcCK",
    "GJNAINBPxBsCDJRIMzDM3BIJDwBCIHqBCCQCBmBF1QCFClBCFCHBABABABeC0BBGBADCBGDDCFEMFCBGiCBTAcANAQMzBMEA",
    "DLRAEACJBACFGABABABPCDFEEARoB3zCkHGIMlBBAFAC3BHAPXJGBGBGBGBGBGBGBGBflQCZOBECEE1CCGB5CBDFqBB9CRfw",
    "BPgQ-tGgCs0VjCtBCsIDbUvBEJByDlBICmDC-BFBBABEY1BEATzBMlCKJGXDABwBCjBMcDgCOKGeB2BJNCJGWDoCYCCPCEKF",
    "CFCFJGBGBqBBNG6DBBCJGj9KMWEwBkoItLCpDmBGMEFLBMBEBABBBBBrDhBqLS-BC1BoBLEPQPDBYCgBEBmETJHZEABZL4CD",
    "FCFCFCCjBLBZBSBBBOCNiB6DlC0BoEAiEcDwBPAffNdFqBFdCjBEHBEqB9ECJGjBEjBEnBIzBMKBOBGBBBKBOBGBBjC2JJVK",
    "HYFBpBBIlCFCABrBBBDACWKWJehCSBBKVKZmC3BGBgCDBBFHBCBcCCEAgBcDcjBHBdZ1BKVKSNRuDoC3ByBNyBNnBIJmKpBB",
    "BDBrCfKAIgBfVqBUbWJmCfPJ7BHANYHJG0BBJEDIjBCAJkCEDBMBAjBRBkBGD+BGBABDBOBJH6BFJGDBHCBCVBGBBBEBJCBC",
    "CCAGAFGCGDErEqCFJEDelCBAIJmF1BCIXFiBgCDALJmB4BHJ2BaCOEJGG5F6BlDpCVHCACHBBBdBBCIMJmCHCtBCHBBb+BIA",
    "IpCDASoCnIIBsBBIPJYdCVBNpCGBBBrBDABBBIIJGFBBBkBBBBFHJ2JWJQBoBDENJ2CAvC5cmDuDRjGsyCgDPvhBQVq9DmS5",
    "tI4RHeBJGuCBJGdCEL2BJDMJJUFSwV-BgEqCE4BHQgCBBBLBO3-FI1mBqBIn3IDBGBBBiJPAdCCAODIrMkoCqDFMDIHJDBhz",
    "EtBCW+QEDFIHCGeD0EC7N0CBmCBBCACBCDBLBABGBgCBDCHBGBbBDBEBADGBzKCYBYBeBYBeBYBeBYBeBYBHCxBgQ2BExBIA",
    "OAWEBOwiBeGF1GGBQCGBBBEF9BhBAwDsBDNCJEAhKeR5B2OpBmXGBDBBBOBkGLGpBrCEJmlBDBaBBBACABJBDBABAGAEABAB",
    "ABCBBBACABABABABABBBACDBGBDBDBABJBQFCBEBQ0pDJmgB-2pBgB5hEG9GCh0FOwpH-gD9QivBq6EF-iEwq3VvH"]),
  RangeSet.decode (String.join [
    "hCZGZvBAKAEAFWBeBpOELOEHABAhEEBBCDBAGABCBABTByCBqEIlFBlBCAGoBnCaEDtBqBjBBBiDBAPBHBKCCAQABdd4CLAY",
    "gBJBEAFVEAJADAXYHKFXBFRpB6B1BDASAHJPPEHCBCVBGBADDDAQANBBCOBKAIFEBCVBGBBBBBBfDBATCQIBCBVBGBBBEDAS",
    "APBXALHCBCVBGBBBEDAeBBCPARABFDCBDDBBABBDBDCDLWA0BHBCBWBPDAaCCACBeAEHBCBWBJBEDAfBBBPBRIBCBoBCAQAF",
    "CICYFFRDXBIBACG6BvBBBMG6BBBABEBXBABJBBJACEBAVDgBA-BHBjBbEzDqBUAQFEDDADBHCEMMARlBBAFACqBBsKBDCGBA",
    "BDCoBBDCgBBDCGBABDCOB4BBDCiClBPQ1CCFDrTCQBZFqCDKHRNSOROMBCPzBjBAEAjC4CHoBBAFlCKexBdCELrBEZ2BWJ0B",
    "yCA9CuBRH2BdNBKrBajBpBCKjBCIHqBCCpBDBFBBDAF-FgC1ICFClBCFCHBABABABeC0BBGBADCBGDDCFEMFCBG0DANAQMlD",
    "AEACJBACFGABABABPCDFEEARoB3zCkHGDDBMlBBAFAC3BHAQWJGBGBGBGBGBGBGBGmRCZIHECEE1CEEB5CBDFqBB9CRfwBPg",
    "Q-tGgCs0VjCtBCsIDPKBUuBQeCvCnBICmDC-BFBBABEYPBCBDBWdzBOxB+BFDABBLbKWZcHuBcAQEBJKEBoBXCBHUWDADxBB",
    "ADBCECABAYCCKHCMFCFCFJGBGBqBBNGyDdj9KMWEwBkoItLCpDmBGMEFABJBMBEBABBBBBrDhBqLS-BC1BoBL0DEBmEkBZGZ",
    "L4CDFCFCFCCjBLBZBSBBBOCNiB6DlC0BrIcDwBvBfNdFlBKdCjBEHBEqB9ESjBEjBEnBIzBMKBOBGBBBKBOBGBBjC2JJVKHY",
    "FBpBBIlCFCABrBBBDACWKWJehCSBBKVKZmC3BGBgCAPDBCBcqBcDcjBHBbb1BKVKSNRuDoC3ByBNyBNjB8KpBGBuCcKAIVqB",
    "RuBUbWM0B5BBCANsBgBYajBdACAIiBDAMvBODVABAjBRBYTB-BGBABDBOBJHuBmBHCBCVBGBBBEDASAME+E0BSDUCevBUBBA",
    "4FuBpBDkBvBUA7BqBNAnCalBG5FrB0D-BfHCACHBBBXPABA+CHCmBQABAcAKnBHAVALtBTASoCnIIBkBRAxBdwDGBBBlBVAZ",
    "FBBBfOAnKSPABMBhB8DAvC5cmDuDRjGsyCgDPvhBRF59DmS5tI4RHeRuCRdSvBQDfUFSwV-BgEqCFAiCMgCBBAc3-FI1mBqB",
    "In3IDBGBBBiJPAdCCAODIrMkoCqDFMDIHJm7F0CBmCBBCACBCDBLBABGBgCBDCHBGBbBDBEBADGBzKCYBYBeBYBeBYBeBYBe",
    "BYBH05BeGFlI9ByEsBKGQAhKdSrBkPb0XGBDBBBOBkG7BjCHA0lBDBaBBBACABJBDBABAGAEABABABCBBBACABABABABABBB",
    "ACDBGBDBDBABJBQFCBEBQkqE-2pBgB5hEG9GCh0FOwpH-gD9QivBq6EF-iE"]),
  RangeSet.decode (String.join [
    "mgMBZIOCle-tGgC-vUgoWtLCpDqodAb3-FI1mBqBInjJrMkoT-2pBgB5hEG9GCh0FOwpH-gD9QivBq6EF-iE"]),
  joinControl,
  RangeSet.decode (String.join [
    "gyDE7DEw3CCCA6nkBBCABB"]),
  RangeSet.decode (String.join [
    "hDZvBAKAEAkBXBHBABABABABABABABABABABABABABABABABABABABABABABABABABABABBBABABABABABABABBBABABABAB",
    "ABABABABABABABABABABABABABABABABABABACABABCCABACADBEACADCCACABABACABBBACADABACBCCGACACABABABABAB",
    "ABABABBBABABABABABABABABBCABADABABABABABABABABABABABABABABABABABABABABABABABABABABABABABGCACBBAE",
    "ABABABABkCBjBHBeEgDArBABADACDSAbiBBBDCBABABABABABABABABABABABEBACACBzBvBBABABABABABABABABABABABA",
    "BABABABABAJABABABABABABABABABABABABABABABABABABABABABABABABABABACABABABABABABBBABABABABABABABABA",
    "BABABABABABABABABABABABABABABABABABABABABABABABABABABABABABABABABABABABABABABAwBoBn6CqBBD4XFikCI",
    "3D-FhCABABABABABABABABABABABABABABABABABABABABABABABABABABABABABABABABABABABABABABABABABABABABAB",
    "ABABABABABABABABABABABABABABABABABABABABABABABABABABABABABIBABABABABABABABABABABABABABABABABABAB",
    "ABABABABABABABABABABABABABABABABABABABABABABABABABABABABABABIIFKHIHIFKHIHINCHIHIHIEBBGADCBBIDCBI",
    "HKCBB5DANAQMtDADBDAbAEAEACBIDEAhBPEAraZm6BvBBADBBABABAEABBBHDABABABABABABABABABABABABABABABABABA",
    "BABABABABABABABABABABABABABABABABABABABABABABABABABABABABABABABBHABAEAMlBBAFAzoeABABABABABABABAB",
    "ABABABABABABABABABABABABABABATABABABABABABABABABABABABABClEABABABABABABCBABABABABABABABABABABABA",
    "BABABABABABABABABABABABABABABABABABABJBABACABABABABAEABACABCBABABABABABABABABABAFAFABABABABABABA",
    "BAEABAGABABABABAYCBABC1ZqBBNGvCg6TGMEphBZtmBnBoEjB7EKBOBGBBjOACCBpBBIloByBt+CfgsVf6sZZaGBRaZaDBA",
    "BGBKaZaZaZaZaZaZaZaZabcYBFaYBFaYBFaYBFaYBFBA05BJBTGFlI9B0lChB"]),
  RangeSet.decode (String.join [
    "rBAQCfAdABAtBAEAlBAfA4WCCAaBCCvQCtwGAbCLADANAODVELEhCMEADBEESAEACJBACFGADBCBBCBFDNBAkCXBFBBEBEfB",
    "AGBOrIIDUB6CAeaBAYALG9NBMJEFEBCBDEOABACFLHFB5BABAdDJCwK-BgI-PwBUCF8+zBA3ZFBAiFAQCdABAdABAjEAGDzg",
    "1B0CBmCBBCACBCDBLBABGBgCBDCHBGBbBDBEBADGBzKCjJCxBgwFDBaBBBACABJBDBABAGAEABABABCBBBACABABABABABBB",
    "ACDBGBDBDBABJBQFCBEBQ0BB"]),
  RangeSet.decode (String.join [
    "wu-BfuQB+--BB+--BB+--BB+--BB+--BB+--BB+--BB+--BB+--BB+--BB+--BB+--BB+--BB+--BB+--BB+--BB"]),
  RangeSet.decode (String.join [
    "hBOKGaDBAaDiBGBABBBABBEAEADAXAfA44HXIOCSBJxJvWgF1TerjBgQ-DhMCEYPAtozBBlIB"]),
  RangeSet.decode (String.join [
    "JESAkDAo8HBYB"]),
  RangeSet.decode (String.join [
    "gwBF3GAxBAgMBwCA6+hCAPA"]),
  RangeSet.decode (String.join [
    "iBAEAjEAPA86HHZBnwDApODNChxzBD9FAEA6CB"]),
  RangeSet.decode (String.join [
    "g0LZB4CM1G"]),
  RangeSet.decode (String.join [
    "mv8DZ"]),
  RangeSet.decode (String.join [
    "hBAMAQApqBAzEC0FArBC2HA9BABADBlJBk3BB2YAEBlYAmGBsGAFA6JBiLDuFBCBdB8FBhCB8dBJCkvDANAWBtNA8ndAuIBj",
    "HADA+LB2CB-CA4EBzECwEB5HAmzUADBpFAMAQAhCA03CB9nBEsBD9FB1DD-DChEBGAQB4CBBBsDAhNB1LBFOpDB5HClQABA7",
    "HB3CBkNB0VBqCBp5SBlEAhCBLAzaAmwTAovHA"]),
  RangeSet.decode (String.join [
    "pDBkGA5IAeA0BAUAgKAiDABApoGAzBANADAkEA9EAlNA2GBy5CAl9pDByBByBByBByBByBByBByBByBByBByBByBByBBmkCA",
    "xJBaA"]),
  RangeSet.decode (String.join [
    "hBAKABALBDA+ZAIAhQA5BAoCAOABC0FArBKBArHB2BOfAlIB0nBBsFAEF3JB1YHlYA8DCnCB9ECDAnBDCB6JBiLDuFBBCdB8",
    "FE+BB8dBJCkvDANAEAKABBDBsNB7ndBtICjHE+LB2CB-CA3ECzEC-DAQB5HAkzUCBDpFAKABALBDAhCACA6hBAwBAmkBAnGA",
    "2JB4EFkCF5CD4dEsBD9FGwDD-DChEBGAQB4CEsDAhNCMBmLDDOpDB5HClQABA7HB3CBEB+MCtBAlUBqCBrpBE5vRBlEAhCCK",
    "AyaBmwTAnvHD"]),
  RangeSet.decode (String.join [
    "ggN-tGgC-vUuwWBBABBKABABBCC2uhC-2pBgB5hEG9GCh0FOwpH-gFq6EF-iE"]),
  RangeSet.decode (String.join [
    "hCZlDWBGhBABABABABABABABABABABABABABABABABABABABABABABABABABABABACABABABABABABABACABABABABABABAB",
    "ABABABABABABABABABABABABABABABABBBABADBBABBBCCDBBBCDBBBBABABBBACABBBCBABBDAHACACACABABABABABABAB",
    "ACABABABABABABABABACACABCBABABABABABABABABABABABABABABABABABABABABABABABABABABABABAHBBBCABDBABAB",
    "ABAhJABADAIAGABCBABBBQBIjBACCDABABABABABABABABABABABAFACABBCyBwBABABABABABABABABABABABABABABABAB",
    "AJABABABABABABABABABABABABABABABABABABABABABABABABABABABBBABABABABABACABABABABABABABABABABABABAB",
    "ABABABABABABABABABABABABABABABABABABABABABABABABABABABABABABABABABABAClBp6ClBBAFAyW1C6kCqBCCgKAB",
    "ABABABABABABABABABABABABABABABABABABABABABABABABABABABABABABABABABABABABABABABABABABABABABABABAB",
    "ABABABABABABABABABABABABABABABABABABABABABABABABABAJABABABABABABABABABABABABABABABABABABABABABAB",
    "ABABABABABABABABABABABABABABABABABABABABABABABABABABAJHIFKHIHIFLABABABAIHoCDMDMDMELDmIAEADCCCCAD",
    "EGABABABDCDKBFAaPTAyZZw5BvBwBABCCABABABDBACAICBABABABABABABABABABABABABABABABABABABABABABABABABA",
    "BABABABABABABABABABABABABABABABABABABABABABABABAIABAEAtqeABABABABABABABABABABABABABABABABABABABA",
    "BABABATABABABABABABABABABABABABABAnEABABABABABABADABABABABABABABABABABABABABABABABABABABABABABAB",
    "ABABABABABABABAKABABBBABABABAEABACABADABABABABABABABABABABEBEBABABABABABABABDBAGAFABAcAr5VZlmBnB",
    "oEjB8EKBOBGBBq3ByBt-CfgsVfgtZZaZaZaABBCACBCDBHaZaBBDCHBGbBBDBEBADGbZaZaZaZaZaZeYhBYhBYhBYhBYhBA1",
    "pEhBugCZGZGZ"]),
  RangeSet.decode (String.join [
    "rgGCBAwv5BPw3gavH"]),
  whiteSpace,
  RangeSet.decode (String.join [
    "wBJHZEABZvBAKABACAFWBeBpOELOEHABAR0DBBDCBAGEBABTByCBqEBEClFBlBCAGoBIsBBABBBBBAIaEDdKFpCElDBHCJBS",
    "CAQ6BCkDO1BEACACtBSbEKFXBFJpCBgECJBSBHCBCVBGBADDCICBCDIAEBBECLKABACCBFEBCVBGBBBBBBCABEEBCCDAHDBA",
    "HPLCBIBCBVBGBBBECJBCBCCAPDCJJGBCBHCBCVBGBBBECICBCCHCEBBECJBAQBBFDCBDDBBABBDBDCDLEEDCBDCAGAOJQMBC",
    "BWBPCIBCBDHBBCCACDCJQDBHBCBWBJBECIBCBDHBGBBDCJBCMMBCByBBCBEFDHECJKFBCBRDXBIBACGDAEFBABHGJCBN5BFO",
    "BJnBBBABEBXBABWCEBABGBJCDgBAXBGJLABABAEJBjBETBRBjBJA5BpCGtCClBBAFACqBBsKBDCGBABDCoBBDCgBBDCGBABD",
    "COB4BBDCiCCCJIOPQ1CCFDrTCQBZFqCDKHVJVLTMMBCBBMzCDAEBCJhBCBKG4CHqBFlCKeBLELKnBCELrBEZGKlBbE+BBcCK",
    "GJNAINBPxBsCDJRIMzDM3BIJDwBCIHqBCCQCBmBF1QCFClBCFCHBABABABeC0BBGBADCBGDDCFEMFCBGiCBTAcANAQMzBMEA",
    "DLRAEACJBACFGABABABPCDFEEARoB3zCkHGIMlBBAFAC3BHAPXJGBGBGBGBGBGBGBGBflQCZOBECEE1CCBCCB5CBDFqBB9CR",
    "fwBPgQ-tGgCs0VjCtBCsIDbUvBEJByDlBICmDC-BFBBABEY1BEATzBMlCKJGXDABwBCjBMcDgCOKGeB2BJNCJGWDoCYCCPCE",
    "KFCFCFJGBGBqBBNG6DBBCJGj9KMWEwBkoItLCpDmBGMEFLBMBEBABBBBBrDhBqEG5GS-BC1BoBJGPQPDBYChBABADABABABA",
    "B9DTJHZEABZL4CDFCFCFCCjBLBZBSBBBOCNiB6DlC0BoEAiEcDwBPAffNdFqBFdCjBEHBEqB9ECJGjBEjBEnBIzBMKBOBGBB",
    "BKBOBGBBjC2JJVKHYFBpBBIlCFCABrBBBDACWKWJehCSBBKVKZmC3BGBgCDBBFHBCBcCCEAgBcDcjBHBdZ1BKVKSNRuDoC3B",
    "yBNyBNnBIJmKpBBBDBrCfKAIgBfVqBUbWJmCfPJ7BHANYHJG0BBJEDIjBCAJkCEDBMBAjBRBkBGD+BGBABDBOBJH6BFJGDBH",
    "CBCVBGBBBEBJCBCCCAGAFGCGDErEqCFJEDelCBAIJmF1BCIXFiBgCDALJmB4BHJ2BaCOEJGG5F6BlDpCVHCACHBBBdBBCIMJ",
    "mCHCtBCHBBb+BIAIpCDASoCnIIBsBBIPJYdCVBNpCGBBBrBDABBBIIJGFBBBkBBBBFHJ2JWJQBoBDENJ2CAvC5cmDuDRjGsy",
    "CgDPvhBQVq9DmS5tI4RHeBJGuCBJGdCEL2BJDMJJUFSwV-BgEqCE4BHQgCBBBLBO3-FI1mBqBIn3IDBGBBBiJPAdCCAODIrM",
    "koCqDFMDIHJDBhzEtBCW+QEDFIHCGeD0EC7N0CBmCBBCACBCDBLBABGBgCBDCHBGBbBDBEBADGBzKCYBYBeBYBeBYBeBYBeB",
    "YBHCxBgQ2BExBIAOAWEBOwiBeGF1GGBQCGBBBEF9BhBAwDsBDNCJEAhKeR5B2OpBmXGBDBBBOBkGLGpBrCEJmlBDBaBBBACA",
    "BJBDBABAGAEABABABCBBBACABABABABABBBACDBGBDBDBABJBQFCBEBQ0pDJmgB-2pBgB5hEG9GCh0FOwpH-gD9QivBq6EF-",
    "iEwq3VvH"]),
  RangeSet.decode (String.join [
    "hCZGZvBAKAEAFWBeBpOELOEHABAhEEBBDCBAGABCBABTByCBqEIlFBlBCAGoBnCaEDtBqBjBBBiDBAPBHBKCCAQABdd4CLAY",
    "gBJBEAFVEAJADAXYHKFXBFRpB6B1BDASAHJPPEHCBCVBGBADDDAQANBBCOBKAIFEBCVBGBBBBBBfDBATCQIBCBVBGBBBEDAS",
    "APBXALHCBCVBGBBBEDAeBBCPARABFDCBDDBBABBDBDCDLWA0BHBCBWBPDAaCCACBeAEHBCBWBJBEDAfBBBPBRIBCBoBCAQAF",
    "CICYFFRDXBIBACG6BvBBANG6BBBABEBXBABJBAKACEBAVDgBA-BHBjBbEzDqBUAQFEDDADBHCEMMARlBBAFACqBBsKBDCGBA",
    "BDCoBBDCgBBDCGBABDCOB4BBDCiClBPQ1CCFDrTCQBZFqCDKHRNSOROMBCPzBjBAEAjC4CHoBBAFlCKexBdCELrBEZ2BWJ0B",
    "yCA9CuBRH2BdNBKrBajBpBCKjBCIHqBCCpBDBFBBDAF-FgC1ICFClBCFCHBABABABeC0BBGBADCBGDDCFEMFCBG0DANAQMlD",
    "AEACJBACFGABABABPCDFEEARoB3zCkHGDDBMlBBAFAC3BHAQWJGBGBGBGBGBGBGBGmRCZIHECEE1CGCB5CBDFqBB9CRfwBPg",
    "Q-tGgCs0VjCtBCsIDPKBUuBQeCvCnBICmDC-BFBBABEYPBCBDBWdzBOxB+BFDABBLbKWZcHuBcAQEBJKEBoBXCBHUWDADxBB",
    "ADBCECABAYCCKHCMFCFCFJGBGBqBBNGyDdj9KMWEwBkoItLCpDmBGMEFABJBMBEBABBBBBrDhBqEG5GS-BC1BoBJ3DABADAB",
    "ABABAB9DkBZGZL3BCeDFCFCFCCjBLBZBSBBBOCNiB6DlC0BrIcDwBvBfNdFlBKdCjBEHBEqB9ESjBEjBEnBIzBMKBOBGBBBK",
    "BOBGBBjC2JJVKHYFBpBBIlCFCABrBBBDACWKWJehCSBBKVKZmC3BGBgCAPDBCBcqBcDcjBHBbb1BKVKSNRuDoC3ByBNyBNjB",
    "8KpBGBuCcKAIVqBRuBUbWM0B5BBCANsBgBYajBdACAIiBDAMvBODVABAjBRBYTB-BGBABDBOBJHuBmBHCBCVBGBBBEDASAME",
    "+E0BSDUCevBUBBA4FuBpBDkBvBUA7BqBNAnCalBG5FrB0D-BfHCACHBBBXPABA+CHCmBQABAcAKnBHAVALtBTASoCnIIBkBR",
    "AxBdwDGBBBlBVAZFBBBfOAnKSPABMBhB8DAvC5cmDuDRjGsyCgDPvhBRF59DmS5tI4RHeRuCRdSvBQDfUFSwV-BgEqCFAiCM",
    "gCBBAc3-FI1mBqBIn3IDBGBBBiJPAdCCAODIrMkoCqDFMDIHJm7F0CBmCBBCACBCDBLBABGBgCBDCHBGBbBDBEBADGBzKCYB",
    "YBeBYBeBYBeBYBeBYBH05BeGFlI9ByEsBKGQAhKdSrBkPb0XGBDBBBOBkG7BjCHA0lBDBaBBBACABJBDBABAGAEABABABCBB",
    "BACABABABABABBBACDBGBDBDBABJBQFCBEBQkqE-2pBgB5hEG9GCh0FOwpH-gD9QivBq6EF-iE"])
]

end TerminalScript.Unicode
