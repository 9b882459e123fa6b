import TerminalScript.Unicode.RangeSet

/-!
General categories: every code point has one of thirty, and some names stand for groups of them.
-/

namespace TerminalScript.Unicode

def categoryNames : List (List String) := [
  ["cc", "control", "cntrl"], ["cf", "format"], ["cn", "unassigned"], ["co", "privateuse"],
  ["cs", "surrogate"], ["ll", "lowercaseletter"], ["lm", "modifierletter"], ["lo", "otherletter"],
  ["lt", "titlecaseletter"], ["lu", "uppercaseletter"], ["mc", "spacingmark"],
  ["me", "enclosingmark"], ["mn", "nonspacingmark"], ["nd", "decimalnumber", "digit"],
  ["nl", "letternumber"], ["no", "othernumber"], ["pc", "connectorpunctuation"],
  ["pd", "dashpunctuation"], ["pe", "closepunctuation"], ["pf", "finalpunctuation"],
  ["pi", "initialpunctuation"], ["po", "otherpunctuation"], ["ps", "openpunctuation"],
  ["sc", "currencysymbol"], ["sk", "modifiersymbol"], ["sm", "mathsymbol"], ["so", "othersymbol"],
  ["zl", "lineseparator"], ["zp", "paragraphseparator"], ["zs", "spaceseparator"]
]

def categoryGroups : List (List String × List String) := [
  (["c", "other"], ["cc", "cf", "cn", "co", "cs"]),
  (["l", "letter"], ["ll", "lm", "lo", "lt", "lu"]),
  (["lc", "casedletter"], ["lu", "ll", "lt"]),
  (["m", "mark", "combiningmark"], ["mc", "me", "mn"]),
  (["n", "number"], ["nd", "nl", "no"]),
  (["p", "punctuation", "punct"], ["pc", "pd", "pe", "pf", "pi", "po", "ps"]),
  (["s", "symbol"], ["sc", "sk", "sm", "so"]),
  (["z", "separator"], ["zl", "zp", "zs"])
]

def categories : Partition := Partition.decode
  (String.join [
  "AfdAVCXAVCWASAVAZAVARAVBNJVBZCVBJZWAVASAYAQAYAFZWAZASAZAAgBdAVAXDaAVAYAaAHAUAZABAaAYAaAZAPBYAFAV",
  "BYAPAHATAPCVAJWZAJGFXZAFHJAFAJAFAJAFAJAFAJAFAJAFAJAFAJAFAJAFAJAFAJAFAJAFAJAFAJAFAJAFAJAFAJAFAJAF",
  "AJAFAJAFAJAFAJAFAJAFAJAFAJAFAJAFAJAFAJAFBJAFAJAFAJAFAJAFAJAFAJAFAJAFAJAFBJAFAJAFAJAFAJAFAJAFAJAF",
  "AJAFAJAFAJAFAJAFAJAFAJAFAJAFAJAFAJAFAJAFAJAFAJAFAJAFAJAFAJAFAJAFAJAFAJBFAJAFAJAFCJBFAJAFAJBFAJCF",
  "BJDFAJBFAJCFCJBFAJBFAJAFAJAFAJBFAJAFBJAFAJBFAJCFAJAFAJBFBHAJAFCHDJAIAFAJAIAFAJAIAFAJAFAJAFAJAFAJ",
  "AFAJAFAJAFAJAFAJAFBJAFAJAFAJAFAJAFAJAFAJAFAJAFAJAFAJAFBJAIAFAJAFAJCFAJAFAJAFAJAFAJAFAJAFAJAFAJAF",
  "AJAFAJAFAJAFAJAFAJAFAJAFAJAFAJAFAJAFAJAFAJAFAJAFAJAFAJAFAJAFAJAFAJAFAJAFAJAFAJAFAJAFAJAFGJBFAJBF",
  "BJAFAJDFAJAFAJAFAJAFAJAFkCHAFaGRYDGLYNGEYGGAYAGAYQMvDJAFAJAFAGAYAJAFACBGAFCVAJACDYBJAVAJCCAJACAJ",
  "BFAJQCAJIFiBJAFBJCFCJAFAJAFAJAFAJAFAJAFAJAFAJAFAJAFAJAFAJAFAJAFAJAFEJAFAZAJAFAJBFBJyBFvBJAFAJAFA",
  "JAFAJAFAJAFAJAFAJAFAJAFAJAFAJAFAJAFAJAFAJAFAJAFAJAFAJAFAJAFAaAMELBJAFAJAFAJAFAJAFAJAFAJAFAJAFAJA",
  "FAJAFAJAFAJAFAJAFAJAFAJAFAJAFAJAFAJAFAJAFAJAFAJAFAJAFAJAFAJAFAJAFAJAFAJAFAJAFAJBFAJAFAJAFAJAFAJA",
  "FAJAFAJAFBJAFAJAFAJAFAJAFAJAFAJAFAJAFAJAFAJAFAJAFAJAFAJAFAJAFAJAFAJAFAJAFAJAFAJAFAJAFAJAFAJAFAJA",
  "FAJAFAJAFAJAFAJAFAJAFAJAFAJAFAJAFAJAFAJAFAJAFAJAFAJAFAJAFAJAFAJAFAJAFAJAFAJAFAJAFAJAFAJAFAJAFAJA",
  "FAJAFAJAFACAJlBCBGAVFFoBVARACBaBXACAMsBRAMAVAMBVAMBVAMACHHaCDHDVBCKBFZCVBXAVBaBMKVABAVCHfGAHJMUN",
  "JVDHBMAHiDVAHAMGBAaAMFGBMBaAMDHBNJHCaBHAVNCABAHAMAHdMaCBH4CMKHACNNJHgBMIGBaAVCGACBMAXBHVMDGAMIGA",
  "MCGAMECBVOCAHYMCCBVACAHKCEHXYAHFCABBCFMHHoBGAMXBAMfKAH1BMAKAMAHAKCMHKDMAKBHAMGHJMBVBNJVAGAHOMAKB",
  "CAHHCBHBCBHVCAHGCAHACCHDCBMAHAKCMDCBKBCBKBMAHACHKACDHBCAHCMBCBNJHBXBPFaAXAHAVAMACBMBKACAHFCDHBCB",
  "HVCAHGCAHBCAHBCAHBCBMACAKCMBCDMBCBMCCCMACGHDCAHACGNJMBHCMAVACJMBKACAHICAHCCAHVCAHGCAHBCAHECBMAHA",
  "KCMECAMBKACAKBMACBHACOHBMBCBNJVAXACGHAMFCAMAKBCAHHCBHBCBHVCAHGCAHBCAHECBMAHAKAMAKAMDCBKBCBKBMACG",
  "MBKACDHBCAHCMBCBNJaAHAPFCJMAHACAHFCCHCCAHDCCHBCAHACAHBCCHBCCHCCCHLCDKBMAKBCCKCCAKCMACBHACFKACNNJ",
  "PCaFXAaACEMAKCMAHHCAHCCAHWCAHPCBMAHAMCKDCAMCCAMDCGMBCAHCCBHACBHBMBCBNJCGVAPGaAHAMAKBVAHHCAHCCAHW",
  "CAHJCAHECBMAHAKAMAKECAMAKBCAKBMBCGKBCFHBCAHBMBCBNJCAHBKACLMBKBHICAHCCAHoBMBHAKCMDCAKCCAKCMAHAaAC",
  "DHCKAPGHCMBCBNJPIaAHFCAMAKBCAHRCCHXCAHICAHACBHGCCMACDKCMCCAMACAKHCFNJCBKBVACLHvBMAHBMGCDXAHFGAMH",
  "VANJVBCkBHBCAHACAHECAHXCAHACAHJMAHBMIHACBHECAGACAMGCANJCBHDCfHAaCVOaAVAaCMBaFNJPJaAMAaAMAaAMAWAS",
  "AWASAKBHHCAHjBCDMNKAMEVAMBHEMKCAMjBCAaHMAaFCAaBVEaDVBCkBHqBKBMDKAMFKAMBKBMBHANJVFHFKBMBHDMCHAKCH",
  "BKGHCMDHMMAKBMBKFMAHAKANJKCMAaBJlBCAJACEJACBFqBVAGAFCHoKCAHDCBHGCAHACAHDCBHoBCAHDCBHgBCAHDCBHGCA",
  "HACAHDCBHOCAH4BCAHDCBHiCCBMCVIPTCCHPaJCFJ1CCBFFCBRAHrTaAVAHQdAHZWASACCHqCVCOCHHCGHRMCKACIHSMBKAV",
  "BCIHRMBCLHMCAHCCAMBCLHzBMBKAMGKHMAKBMKVCGAVCXAHAMACBNJCFPJCFVFRAVDMCBAMANJCFHiBGAH0BCGHEMBHhBMAH",
  "ACEHlCCJHeCAMCKDMBKCCDKBMAKFMCCDaACCVBNJHdCBHECKHrBCDHZCFNJPACCahBHWMBKBMACBVBH0BKAMAKAMGCAMAKAM",
  "AKBMHKFMJCBMANJCFNJCFVGGAVFCBMNLAMPCwBMDKAHuBMAKAMEKAMAKEMAKBHHCCNJVGaJMIaIVBCAMBKAHdKAMDKBMBKAM",
  "CHBNJHrBMAKAMBKCMAKAMCKBCHVDHjBKHMHKBMBCCVENJCCHCNJHdGFVBFICGJqBCBJCVHCHMCVAMMKAMGHDMAHFMAHBKAMB",
  "HACEFrBG+BFMGAFhBGkBM-BJAFAJAFAJAFAJAFAJAFAJAFAJAFAJAFAJAFAJAFAJAFAJAFAJAFAJAFAJAFAJAFAJAFAJAFAJ",
  "AFAJAFAJAFAJAFAJAFAJAFAJAFAJAFAJAFAJAFAJAFAJAFAJAFAJAFAJAFAJAFAJAFAJAFAJAFAJAFAJAFAJAFAJAFAJAFAJ",
  "AFAJAFAJAFAJAFAJAFAJAFAJAFAJAFAJAFAJAFAJAFAJAFAJAFAJAFAJAFAJAFAJAFAJAFAJAFAJAFAJAFAJAFAJAFAJAFAJ",
  "AFAJAFAJAFAJAFAJAFAJAFAJAFAJAFAJAFIJAFAJAFAJAFAJAFAJAFAJAFAJAFAJAFAJAFAJAFAJAFAJAFAJAFAJAFAJAFAJ",
  "AFAJAFAJAFAJAFAJAFAJAFAJAFAJAFAJAFAJAFAJAFAJAFAJAFAJAFAJAFAJAFAJAFAJAFAJAFAJAFAJAFAJAFAJAFAJAFAJ",
  "AFAJAFAJAFAJAFAJAFAJAFAJAFAJAFAJAFAJAFIJHFFCBJFCBFHJHFHJHFFCBJFCBFHCAJACAJACAJACAJAFHJHFNCBFHIHF",
  "HIHFHIHFECAFBJDIAYAFAYCFCCAFBJDIAYCFDCBFBJDCAYCFHJEYCCBFCCAFBJDIAYBCAdKBERFVBUATAWAUBTAWAUAVHbAc",
  "ABEdAVIUATAVDQBVCZAWASAVKZAVAQAVJdABECABJPAGACBPFZCWASAGAPJZCWASACAGMCCXgBCOMMLDMALCMLCOaBJAaDJA",
  "aBFAJCFBJCFAaAJAaBZAJEaFJAaAJAaAJAaAJDaAFAJDFAHDFAaBFBJBZEJAFDaAZAaBFAaAPPOiBJAFAODPAaBCDZEaEZBa",
  "DZAaBZAaBZAaGZAaeZBaBZAaAZAaeZrIaHWASAWASAaTZBaGWASAawCZAadZYanBZFanCCVaKCUP7BatCPVa2FZAaIZAa1BZ",
  "HauDZAa3HWASAWASAWASAWASAWASAWASAWASAPdarBZEWASAZeWASAWASAWASAWASAWASAZPa-HZiEWASAWASAWASAWASAWA",
  "SAWASAWASAWASAWASAWASAWASAZ+BWASAWASAZfWASAZhIavBZUaBZFamBCBafCAaoDJvBFvBJAFAJCFBJAFAJAFAJAFAJDF",
  "AJAFBJAFFGBJCFAJAFAJAFAJAFAJAFAJAFAJAFAJAFAJAFAJAFAJAFAJAFAJAFAJAFAJAFAJAFAJAFAJAFAJAFAJAFAJAFAJ",
  "AFAJAFAJAFAJAFAJAFAJAFAJAFAJAFAJAFAJAFAJAFAJAFAJAFAJAFAJAFAJAFAJAFAJAFAJAFAJAFAJAFAJAFAJAFAJAFAJ",
  "AFAJAFAJAFAJAFAJAFBaFJAFAJAFAMCJAFACEVDPAVBFlBCAFACEFACBH3BCGGAVACNMAHWCIHGCAHGCAHGCAHGCAHGCAHGC",
  "AHGCAHGCAMfVBUATAUATAVCUATAVAUATAVIRAVBRAVAUATAVBUATAWASAWASAWASAWASAVEGAVJRBVDRAVAWAVMaBVCWASAW",
  "ASAWASAWASARAChBaZCAa4CCLa1GCZaPdAVCaAGAHAOAWASAWASAWASAWASAWASAaBWASAWASAWASAWASARAWASBaAOIMDKB",
  "RAGEaBOCGAHAVAaBCAH1CCBMBYBGBHARAH5CVAGCHACEHqBCAH9CCAaBPDaJHfalBCIaAHPaeCAPJadPHaAPOafPJamBPOa-",
  "JH-tGa-BH0wUGAH2jBCCa2BCIHnBGFVBHrIGAVCHPNJHBCTJAFAJAFAJAFAJAFAJAFAJAFAJAFAJAFAJAFAJAFAJAFAJAFAJ",
  "AFAJAFAJAFAJAFAJAFAJAFAJAFAJAFAJAFAJAFAJAFAHAMALCVAMJVAGAJAFAJAFAJAFAJAFAJAFAJAFAJAFAJAFAJAFAJAF",
  "AJAFAJAFAJAFAJAFAGBMBHlCOJMBVFCHYWGIYBJAFAJAFAJAFAJAFAJAFAJAFAJAFCJAFAJAFAJAFAJAFAJAFAJAFAJAFAJA",
  "FAJAFAJAFAJAFAJAFAJAFAJAFAJAFAJAFAJAFAJAFAJAFAJAFAJAFAJAFAJAFAJAFAJAFAJAFAJAFAJAFAJAFAJAFAJAFAGA",
  "FHJAFAJAFAJBFAJAFAJAFAJAFAJAFAGAYBJAFAJAFAHAJAFAJAFCJAFAJAFAJAFAJAFAJAFAJAFAJAFAJAFAJAFAJAFAJEFA",
  "JEFAJAFAJAFAJAFAJAFAJAFAJAFAJAFAJDFAJAFACEJAFACAFACAFAJAFAJAFACXGCJAFAHAGBFAHGMAHCMAHDMAHWKBMBKA",
  "aDMACCPFaBXAaACFHzBVDCHKBHxBKPMBCHVBNJCFMRHFVCHAVAHBMANJHbMHVBHWMKKBCKVAHcCCMCKAHuBMAKBMDKBMBKCV",
  "MCAGANJCDVBHEMAGAHINJHECAHoBMFKBMBKBMBCIHCMAHHMAKACBNJCBVDHPGAHFaCHAKAMAKAHxBMAHAMCHBMBHEMBHAMAH",
  "ACXHBGAVBHKKAMBKBVBHAGBKAMACJHFCBHFCBHFCIHGCAHGCAFqBYAGDFIGAYBCDFvCHiBKBMAKBMAKBVAKAMACBNJCFHj9K",
  "CLHWCDHwBCDE--BD-nGHtLCBHpDClBFGCLFECEHAMAHJZAHMCAHECAHACAHBCAHBCAHrDYQCPHqLSAWAaPH-BCBH1BCGaACf",
  "HLXAaCMPVGWASAVACFMPVARBQBWASAWASAWASAWASAWASAWASAWASAWASAVBWASAVDQCVCCAVDRAWASAWASAWASAVCZARAZC",
  "CAVAXAVBCDHECAHmECBBACAVCXAVCWASAVAZAVARAVBNJVBZCVBJZWAVASAYAQAYAFZWAZASAZAWASAVAWASAVBHJGAHsBGB",
  "HeCCHFCBHFCBHFCBHCCCXBZAYAaAXBCAaAZDaBCJBCaBCBHLCAHZCAHSCAHBCAHOCBHNChBH6DCEVCCDPsBCCaIO0BPDaQPB",
  "aCCAaMCCaACuBasBMAChEHcCCHwBCOMAPaCDHfPDCIHTOAHHOACEHlBMECEHdCAVAHjBCDHHVAOECpBJnBFnBHtCCBNJCFJj",
  "BCDFjBCDHnBCHHzBCKVAJKCAJOCAJGCAJBCAFKCAFOCAFGCAFBCCHzBCLH2JCIHVCJHHCXGFCAGpBCAGICkCHFCBHACAHrBC",
  "AHBCCHACBHWCAVAPHHWaBPGHeCHPICvBHSCAHBCEPEHVPFCCVAHZCEVAC-BH3BCDPBHBPPCBPtBHAMCCAMBCEMDHDCAHCCAH",
  "cCBMCCDMAPICGVICGHcPBVAHcPCCfHHaAHbMBCDPEVGCIH1BCCVGHVCBPHHSCEPHHRCGVDCLPGCvCHoCC2BJyBCMFyBCGPFH",
  "jBMDCHNJCFNJHbCJHVC5GPeCAHpBCAMBRACBHBCqCMCHcPJHACHHVMKPDVECVHRMDVDClBHUPGCTHWCIKAMAKAH0BMOVGCDP",
  "TNJMAHBMBHACIMCKAHsBKCMDKBMBVBBAVDMACJBACBHYCGNJCFMCHjBMEKAMHCANJVDHAKBHACHHiBMAVBHACIMBKAHvBKCM",
  "IKBHDVDMDVAKAMANJHAVAHAVCCAPTCKHRCAHYKCMCKBMAKAMBVFMAHBMAC9BHGCAHACAHDCAHOCAHJVACFHuBMAKCMHCENJC",
  "FMBKBCAHHCBHBCBHVCAHGCAHBCAHECAMBHAKBMAKDCBKBCBKCCBHACFKACEHEKBCBMGCCMECqEH0BKCMHKBMCKAMAHDVENJV",
  "BCAVAMAHCCdHvBKCMFKAMAKDMBKAMBHBVAHACHNJClFHuBKCMDCBKDMBKAMBVWHDMBChBHvBKCMHKBMAKAMBVCHACKNJCFVM",
  "CSHqBMAKAMAKBMFKAMAHAVACFNJC1BHaCBMCKBMDKAMECDNJPBVCaAHGC4FHrBKCMIKAMBVACjDJfFfNJPICLHHCBHACBHHC",
  "AHBCAHXKFCAKBCBMBKAMAHAKAHAKAMAVCCINJClCHHCBHmBKCMDCBMBKDMAHAVAHAKACaHAMJHnBMFKAHAMDVHMACHHAMFKB",
  "MCHtBMMKAMBVCHAVECMHoCCGVJC1FHhBCNNJCFHICAHkBKAMGCAMFKAMAHAVECJNJPSCCVBHdCBMVCAKAMGKAMBKAMBCoCHG",
  "CAHBCAHlBMFCCMACAMBCAMGHAMACHNJCFHFCAHBCAHfKECAMBCAKBMAKAMAHACGNJC1JHSMBKBVBCGMBHAKAHMCAHhBKBMEC",
  "CKBMAKAMAVMNJC1CHACOPUaHXDaQCMVAH5cClDOuDCAVECKHjGCryCHgDVBCMHvhBBPMAHFMOCJH68DCEHmSC41GHdCh3BH4",
  "RCGHeCANJCDVBHuCCANJCFHdCBMEVACJHvBMGVEaDGDVAaACJNJCAPGCAHUCEHSCvNHsBCCNJClGJfFfPWVDCkDHqCCDMAHA",
  "K2BCGMDGMC-BGBVAGAMACKKBCNH3-FCHH1mBCpBHICm3IGDCAGGCAGBCAHiJCOHACcHCCBHACNHDCHHrMCjoCHqDCEHMCCHI",
  "CGHJCBaAMBVABDC76DavHNJCFazNCrCMtBCBMWCIazDC7Ba1HCJamBCBa7BKBMCaCKFBHMHaBMGadMDa8BCUahCMCaAC5DPT",
  "CLPTCLa2CCIPYCmEJZFZJZFGCAFRJZFZJACAJBCBJACBJBCBJDCAJHFDCAFACAFGCAFKJZFZJBCAJDCBJHCAJGCAFZJBCAJD",
  "CAJECAJACCJGCAFZJZFZJZFZJZFZJZFZJZFZJZFbCBJYZAFYZAFFJYZAFYZAFFJYZAFYZAFFJYZAFYZAFFJYZAFYZAFFJAFA",
  "CBNxBa-PM2BaDMxBaHMAaNMAaBVECOMECAMOCviBFJHAFTCFFFC0GMGCAMQCBMGCAMBCAMECEG9BCgBMACvDHsBCCMGGGCBN",
  "JCDHAaAC-JHdMACQHrBMDNJCEXACvOHaGAMDNJC1GHdCCNJCkPHGCAHDCAHBCAHOCAHkGCBPIMGCoBJhBFhBMGGACDNJCDVB",
  "CwYP6BaAPCXAPDCrCPsBaAPOChGHDCAHaCAHBCAHACBHACAHJCAHDCAHACAHACFHACDHACAHACAHACAHCCAHBCAHACBHACAH",
  "ACAHACAHACAHACAHBCAHACBHDCAHGCAHDCAHDCAHACAHJCAHQCEHCCAHECAHQCzBZBCtIarBCDajDCLaOCBaOCAaOCAakBCJ",
  "PMagFC3BacCMarBCDaICGaBCNaFC5Ea6HYEa3WCDaQCCaMCCa2DCDa+CCFaLCDaACOaLCDa3BCHaJCFanBCHadCBaLCDaBC9",
  "BazKCLaNCBaMCCaJCEa3BCGaOCBaKCFaICGayECAa7CNJClgBH-2pBCfH5hECFH9GCBHh0FCNHwpHCOHtTChtCH9QChvBHq6",
  "ECEH-iECwi3VBACdB-CC-DMvHCvw-BD9--BCBD9--BCB"])

end TerminalScript.Unicode
