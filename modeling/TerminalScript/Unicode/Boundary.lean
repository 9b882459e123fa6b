import TerminalScript.Unicode.RangeSet

/-!
Segmentation classes of code points, and the version of the standard that added each.
-/

namespace TerminalScript.Unicode

def graphemeNames : List (List String) := [
  ["cn", "control"], ["cr"], ["eb", "ebase"], ["ebg", "ebasegaz"], ["em", "emodifier"],
  ["ex", "extend"], ["gaz", "glueafterzwj"], ["l"], ["lf"], ["lv"], ["lvt"], ["pp", "prepend"],
  ["ri", "regionalindicator"], ["sm", "spacingmark"], ["t"], ["v"], ["xx", "other"], ["zwj"]
]

def graphemes : Partition := Partition.decode
  (String.join [
  "AJIAABBAARQ+CAgBQMAAQxSFvDQyIFGQmIFsBQAFAQAFBQAFBQAFAQ3BLFQJFKQAAAQtBFUQPFAQkDFGLAQAFFQBFBQAFDQg",
  "BLAQAFAQdFaQ6CFKQ5BFIQIFAQXFDQAFIQAFCQAFEQqBFCQzBLBQFFHQpBFXLAFfNAQ1BFANAFAQANCFHNDFANBQAFGQJFBQ",
  "cFANBQ3BFAQAFANBFDQBNBQBNBFAQIFAQJFBQZFAQBFBNAQ3BFAQANCFBQDFBQBFCQCFAQdFBQCFAQKFBNAQ3BFAQANCFEQA",
  "FBNAQANBFAQTFBQVFFQAFANBQ3BFAQAFBNAFDQBNBQBNBFAQGFCQJFBQdFAQ6BFANAFANBQCNCQANCFAQIFAQnBFANCFAQ2B",
  "FAQAFCNDQAFCQAFDQGFBQKFBQcFANBQ3BFAQANAFANBFANBQAFANBQANBFBQGFBQKFBQONAQLFBNBQ2BFBQAFANBFDQANCQA",
  "NCFALAQHFAQJFBQcFANBQlCFAQDFANBFCQAFAQANGFAQRNBQ8BFAQANAFGQLFHQhDFAQANAFIQKFGQoCFBQaFAQAFAQAFAQD",
  "NBQwBFNNAFEQAFBQEFKQAFjBQIFAQlDFDNAFFQAFBNBFBQWNBFBQDFCQPFDQMFAQANAFBQFFAQOFAQhDH-CPnCO3CQ8KFCQx",
  "dFCNAQbFBNAQcFBQdFBQ-BFBNAFGNHFANBFKQIFAQsBFCAAFAQ0DFBQhBFAQ1DFCNDFBNCQDNBFANFFCQ6GFBNBFAQ4BNAFA",
  "NAFGQAFAQAFAQBFHNFFJQBFAQvBFeQwBFDNAQuBFGNAFANEFANBQlBFIQLFBNAQdNAFDNBFBNAFCQ3BFANAFBNCFANAFCNBQ",
  "vBNHFHNBFBQ3EFCQAFMNAFGQDFAQFFAQBNAFBQlGF-BQqQAAFARAABQXAGQwBAPQ-CFgBQ9-CFCQsEFAQ-CFfQpRFFQoDFBQ",
  "zudFDQAFJQfFBQvCFBQvIFAQCFAQDFAQWNBFBNAQDFAQyCNBQxBNPFBQZFRQMFAQlBFHQYFKNBQLHcQCFCNAQuBFANBFDNBF",
  "BNCQjBFAQiCFFNBFBNBFBQLFAQHFANAQtBFAQyBFAQAFCQBFBQEFBQAFAQoBNAFBNBQENAFAQrHNBFANBFANBQANAFAQRJAK",
  "aJAKaJAKaJAKaJAKaJAKaJAKaJAKaJAKaJAKaJAKaJAKaJAKaJAKaJAKaJAKaJAKaJAKaJAKaJAKaJAKaJAKaJAKaJAKaJAK",
  "aJAKaJAKaJAKaJAKaJAKaJAKaJAKaJAKaJAKaJAKaJAKaJAKaJAKaJAKaJAKaJAKaJAKaJAKaJAKaJAKaJAKaJAKaJAKaJAK",
  "aJAKaJAKaJAKaJAKaJAKaJAKaJAKaJAKaJAKaJAKaJAKaJAKaJAKaJAKaJAKaJAKaJAKaJAKaJAKaJAKaJAKaJAKaJAKaJAK",
  "aJAKaJAKaJAKaJAKaJAKaJAKaJAKaJAKaJAKaJAKaJAKaJAKaJAKaJAKaJAKaJAKaJAKaJAKaJAKaJAKaJAKaJAKaJAKaJAK",
  "aJAKaJAKaJAKaJAKaJAKaJAKaJAKaJAKaJAKaJAKaJAKaJAKaJAKaJAKaJAKaJAKaJAKaJAKaJAKaJAKaJAKaJAKaJAKaJAK",
  "aJAKaJAKaJAKaJAKaJAKaJAKaJAKaJAKaJAKaJAKaJAKaJAKaJAKaJAKaJAKaJAKaJAKaJAKaJAKaJAKaJAKaJAKaJAKaJAK",
  "aJAKaJAKaJAKaJAKaJAKaJAKaJAKaJAKaJAKaJAKaJAKaJAKaJAKaJAKaJAKaJAKaJAKaJAKaJAKaJAKaJAKaJAKaJAKaJAK",
  "aJAKaJAKaJAKaJAKaJAKaJAKaJAKaJAKaJAKaJAKaJAKaJAKaJAKaJAKaJAKaJAKaJAKaJAKaJAKaJAKaJAKaJAKaJAKaJAK",
  "aJAKaJAKaJAKaJAKaJAKaJAKaJAKaJAKaJAKaJAKaJAKaJAKaJAKaJAKaJAKaJAKaJAKaJAKaJAKaJAKaJAKaJAKaJAKaJAK",
  "aJAKaJAKaJAKaJAKaJAKaJAKaJAKaJAKaJAKaJAKaJAKaJAKaJAKaJAKaJAKaJAKaJAKaJAKaJAKaJAKaJAKaJAKaJAKaJAK",
  "aJAKaJAKaJAKaJAKaJAKaJAKaJAKaJAKaJAKaJAKaJAKaJAKaJAKaJAKaJAKaJAKaJAKaJAKaJAKaJAKaJAKaJAKaJAKaJAK",
  "aJAKaJAKaJAKaJAKaJAKaJAKaJAKaJAKaJAKaJAKaJAKaJAKaJAKaJAKaJAKaJAKaJAKaJAKaJAKaJAKaJAKaJAKaJAKaJAK",
  "aJAKaJAKaJAKaJAKaJAKaJAKaJAKaJAKaJAKaJAKaJAKaJAKaJAKaJAKaJAKaJAKaJAKaJAKaJAKaJAKaJAKaJAKaJAKaJAK",
  "aJAKaJAKaJAKaJAKaJAKaJAKaJAKaJAKaJAKaJAKaJAKaJAKaJAKaJAKaJAKaJAKaJAKaJAKaJAKaJAKaJAKaJAKaJAKaJAK",
  "aJAKaJAKaJAKaJAKaJAKaJAKaJAKaJAKaJAKaJAKaJAKaJAKaJAKaJAKaJAKaJAKaJAKaJAKaJAKaJAKaJAKaJAKaJAKaJAK",
  "aJAKaJAKaJAKaJAKaJAKaJAKaJAKaJAKaJAKaJAKaJAKaJAKaJAKaJAKaJAKaJAKaJAKaJAKaJAKaJAKaJAKaJAKaJAKaJAK",
  "aJAKaJAKaJAKaJAKaJAKaJAKaJAKaJAKaJAKaJAKaJAKaJAKaJAKaJAKaQLPWQDOwBQh5IFAQgXFPQPFPQuGAAQ9EFBQvCAL",
  "QgQFAQhHFAQ0EFEQl0BFCQAFBQEFDQnBFCQDFAQkFFBQ8RFDQiMFBQvCFCQlCFKQwBFDQ5DNAFANAQ0BFOQoBFAQBFBQJFCN",
  "AQsBNCFDNBFBQBLAQDFAQJLAQxBFCQjBFENAFHQPNBQrBFAQLFBNAQvBNCFINBQALBQEFDQANAFAQ7CNCFCNBFANAFBQFFAQ",
  "BFAQ8EFANCFHQUFBNBQ2BFBQAFANAFANDQBNBQBNCQIFAQJNBQBFGQCFEQ-FNCFHNBFCNAFAQWFAQwCFANBFFNAFANBFANAF",
  "BNAFBQqHFANBFDQBNDFBNAFBQaFBQxCNCFHNBFANAFBQpDFANAFANBFFNAFAQkDFCQBFDNAFEQ-HNCFINAFBQ0HFANEQANBQ",
  "BFBNAFALANALANAFAQsENCFDQBFBNDFAQCNAQbFJQnBFFNALAFDQHFAQIFFNBFCQnBLFFMNAFBQ0MNAFGQAFFNAFAQxCFVQA",
  "NAFGNAFBNAFBQ5DFFQCFAQAFBQAFGLAFAQhCNEQAFBQANBFANAFAQ6KFBNBQIFBLANAQvBNBFEQCNBFANAFAQsnFAPFAQFFO",
  "Q50NFEQ6BFGQ3gBFAQAN2BQGFDQwCFAQKNBQqlTFBQAADQ7yEFtBQBFWQ9QFANAFCQCNAFEAHFHQBFGQdFDQzEFCQ69BF2BQ",
  "DFxBQHFAQNFAQVFEQAFOQvqBFGQAFQQBFGQAFBQAFEQjDFAQ-EFGQ2LFAQ8BFDQ7PFDQ-eFGQsDFGQ6kCMZQ6PFEQ--iYAfF",
  "-CA-DFvHAvwDQ--7F"])

def wordNames : List (List String) := [
  ["cr"], ["dq", "doublequote"], ["eb", "ebase"], ["ebg", "ebasegaz"], ["em", "emodifier"],
  ["ex", "extendnumlet"], ["extend"], ["fo", "format"], ["gaz", "glueafterzwj"],
  ["hl", "hebrewletter"], ["ka", "katakana"], ["le", "aletter"], ["lf"], ["mb", "midnumlet"],
  ["ml", "midletter"], ["mn", "midnum"], ["nl", "newline"], ["nu", "numeric"],
  ["ri", "regionalindicator"], ["sq", "singlequote"], ["wsegspace"], ["xx", "other"], ["zwj"]
]

def words : Partition := Partition.decode
  (String.join [
  "VIUAMAQBAAVRUAVABAVDTAVDPAVANAVARJOAPAVELZVDFAVALZVJQAVZUAVILAVBHAVGLAVAOAVBLAVELWVALeVAL-OVFLhB",
  "GvDLEVALBVBLDPALAVFLAOALCVALAVALTVALyCVALqEVAGGLlFVALlBVBLDVALAOALoBPALAVFGsBVAGAVAGBVAGBVAGAVHJ",
  "aVDJDLAOAVKHFVFPBVBGKVAHAVCLqBGURJVARAPAVALBGALiDVALAGGHAVAGFLBGBVAGDLBRJLCVBLAVOHALAGALdGaVBL4C",
  "GKLAVNRJLgBGILBVBPAVALAVBGAVBLVGDLAGILAGCLAGEVRLYGCVDLKVELXVALFVAHBVFGHLpBGXHAGgBL1BGCLAGRLAGGLJ",
  "GBVBRJVALPGCVALHVBLBVBLVVALGVALAVCLDVBGALAGGVBGBVBGCLAVHGAVDLBVALCGBVBRJLBVJLAVAGAVBGCVALFVDLBVB",
  "LVVALGVALBVALBVALBVBGAVAGEVDGBVBGCVCGAVGLDVALAVGRJGBLCGAVKGCVALIVALCVALVVALGVALBVALEVBGALAGHVAGC",
  "VAGCVBLAVOLBGBVBRJVILAGFVAGCVALHVBLBVBLVVALGVALBVALEVBGALAGGVBGBVBGCVGGCVDLBVALCGBVBRJVALAVPGALA",
  "VALFVCLCVALDVCLBVALAVALBVCLBVCLCVCLLVDGEVCGCVAGDVBLAVFGAVNRJVPGELHVALCVALWVALPVBGALAGGVAGCVAGDVG",
  "GBVALCVBLAVBLBGBVBRJVPLAGCVALHVALCVALWVALJVALEVBGALAGGVAGCVAGDVGGBVFLBVALBGBVBRJVALBGAVLGDLIVALC",
  "VALoBGBLAGGVAGCVAGDLAVELCGAVGLCGBVBRJVJLFVAGCVALRVCLXVALIVALAVBLGVCGAVDGFVAGAVAGHVFRJVBGBV8BGAVB",
  "GGVLGHVARJV2CGAVBGIVKGGVARJVlBLAVWGBVFRJVKGAVAGAVAGAVDGBLHVALjBVDGTVAGBLEGKVAGjBVIGAVjDGTVARJVLG",
  "DVDGCVAGCVBGGVCGDVMGLVAGARJGDVBLlBVALAVELAVBLqBVALsKVALDVBLGVALAVALDVBLoBVALDVBLgBVALDVBLGVALAVA",
  "LDVBLOVAL4BVALDVBLiCVBGCVfLPVPL1CVBLFVCLrTVBLQUALZVELqCVCLKVGLRGDVILSGCVKLRGBVLLMVALCVAGBV-BGfVI",
  "GAVBRJVgBGCHAGARJVFL4CVGLEGBLhBGALAVELlCVJLeVAGLVDGLVJRJV-DRJVlBLWGEV4BGJVAGcVBGARJVFRJVVGeVwBGE",
  "LuBGQLHVCRJVQGIVLGCLdGMLBRJLrBGNVLLjBGTVHRJVCLCRJLjBVBLIVGLqBVBLCVPGCVAGULDGALFGALBGCLAVEL-FG-BL",
  "1IVBLFVBLlBVBLFVBLHVALAVALAVALAVALeVBL0BVALGVALAVCLCVALGVCLDVBLFVDLMVELCVALGVCUKVAGAWAHBVHNBVJNA",
  "VBOAQBHEFAVOFBVCPAVOFAVJUAHEVAHJVALAVMLAVPLMVyBGgBVQLAVDLAVBLJVALAVCLEVFLAVALAVALAVALDVALKVBLDVE",
  "LEVDLAVQLoBVsZLzBV14BLkHVFLDGCLBVLLlBVALAVELAVBL3BVGLAVOGALWVILGVALGVALGVALGVALGVALGVALGVALGVAGf",
  "VuBLAVvOUAVDLAVjBGFVAKEVELBV7CGBKBVCK6CVAKDVELqBVAL9CVQLfVvBKPVvGKuBVAK3CVnlbLskBViCLtBVBLsIVCLP",
  "RJLBVTLuBGDVAGJVALeGBLvCGBVVLiGVELBVALAVALEVXLPGALCGALDGALWGEVDGAVSLzBVLGBLxBGRVJRJVFGRLFVCLAVAL",
  "BGARJLbGHVBLWGMVLLcVCGDLuBGNVNLARJVKGAVJRJVFLoBGNVILCGALHGBVBRJVgBGCVxBGAVAGCVBGBVEGBVAGAVdLKGEV",
  "BLCGBVJLFVBLFVBLFVILGVALGVAL5BVFLyDGHVAGBVBRJVFLj9KVLLWVDLwBVj4ILGVLLEVEJAGAJJVAJMVAJEVAJAVAJBVA",
  "JBVAJJLhDVgBLqLVRL-BVBL1BVnBLLVDGPPAVBOAPAVKGPVCFBVXFCPAVANAVAPAOAVZLEVALmEVBHAVGNAVDPAVANAVARJO",
  "APAVELZVDFAVALZVKK3BGBLeVCLFVBLFVBLFVBLCVbHCVDLLVALZVALSVALBVALOVBLNVhBL6DVkCL0BVnEGAVhELcVCLwBV",
  "OGAVeLfVMLdVELlBGEVELdVBLjBVDLHVALEVpBL9EVBRJVFLjBVDLjBVDLnBVHLzBVLLKVALOVALGVALBVALKVALOVALGVAL",
  "BViCL2JVILVVJLHVXLFVALpBVALIVkCLFVBLAVALrBVALBVCLAVBLWVJLWVILeVgCLSVALBVJLVVJLZVlCL3BVFLBV-BLAGC",
  "VAGBVEGDLDVALCVALcVBGCVDGAVfLcVCLcViBLHVALbGBVYL1BVJLVVJLSVMLRVtDLoCV2BLyBVMLyBVMLjBGDVHRJVlKLpB",
  "VAGBVCLBVqCGCLcVJLAVHLVGKVeLRGDVpBLUVaLWVIGCL0BGOVeRJGALBGBLAVIGDLsBGKVBHAVDGAVJHAVBLYVGRJVFGCLj",
  "BGNVARJVDLAGBLAVHLiBGAVBLAVIGCLvBGNLDVDGDVAGBRJLAVALAViBLRVALYGLVFGALBGAV9BLGVALAVALDVALOVALJVGL",
  "uBGLVERJVFGDVALHVBLBVBLVVALGVALBVALEVAGBLAGGVBGBVBGCVBLAVFGAVELEGBVBGGVCGEVqEL0BGRLDVERJVDGALCVd",
  "LvBGTLBVALAVHRJVlFLuBGGVBGIVWLDGBVhBLvBGQVCLAVKRJVlBLqBGMLAVGRJVyCGOVDRJVlGLrBGOVkDL-BRJVULHVBLA",
  "VBLHVALBVALXGFVAGBVBGDLAGALAGBVLRJVlCLHVBLmBGGVBGGLAVALAGAVaLAGJLnBGGLAGDVHGAVHLAGKLtBGPVCLAVRLo",
  "CVmILIVALkBGHVAGHLAVORJVXLdVBGVVAGNVoCLGVALBVALlBGFVCGAVAGBVAGGLAGAVHRJVFLFVALBVALfGEVAGBVAGELAV",
  "GRJV1JLSGDVIGBLAGALMVALhBGGVCGEVMRJV1CLAVuCL5cVlDLuDVQLjGVryCLgDVOLvhBHPGALFGOVp9DLmSV4tIL4RVGLe",
  "VARJVFLuCVARJVFLdVBGEVKLvBGGVILDVLRJVILUVELSVvVL-BV-DLqCVDGALAG2BVGGDLMV-BLBVALAGAVKGBV9-PKDVAKG",
  "VAKBVAKAV+IKCVxBKAVNKDV30CLqDVELMVCLIVGLJVCGBVAHDV7yEGtBVBGWV9QGEVCGFHHGHVBGGVdGDVzEGCV6NL0CVALm",
  "CVALBVBLAVBLBVBLDVALLVALAVALGVALgCVALDVBLHVALGVALbVALDVALEVALAVCLGVALzKVBLYVALYVALeVALYVALeVALYV",
  "ALeVALYVALeVALYVALHVBRxBV-PG2BVDGxBVHGAVNGAVVGEVAGOVviBLeVFLFV0GGGVAGQVBGGVAGBVAGEVEL9BVgBGAVvDL",
  "sBVCGGLGVBRJVDLAVgKLdGAVQLrBGDRJV1OLbGDRJVlXLGVALDVALBVALOVALkGVKGGVoBLjCGGLAVDRJVllBLDVALaVALBV",
  "ALAVBLAVALJVALDVALAVALAVFLAVDLAVALAVALAVALCVALBVALAVBLAVALAVALAVALAVALAVALBVALAVBLDVALGVALDVALDV",
  "ALAVALJVALQVELCVALEVALQVzTLZVFLZVFLZV7CSZV6PGEVv-BRJVmghYHAVdG-CV-DGvHVvw-F"])

def sentenceNames : List (List String) := [
  ["at", "aterm"], ["cl", "close"], ["cr"], ["ex", "extend"], ["fo", "format"], ["le", "oletter"],
  ["lf"], ["lo", "lower"], ["nu", "numeric"], ["sc", "scontinue"], ["se", "sep"], ["sp"],
  ["st", "sterm"], ["up", "upper"], ["xx", "other"]
]

def sentences : Partition := Partition.decode
  (String.join [
  "OILAGALBCAORLAMABAODBCOBJBAAOAIJJAODMAOANZBAOABAOCHZBAOABAOGKAOZLAOIHABAOAEAOGHAODHABAODNWOANGHX",
  "OAHHNAHANAHANAHANAHANAHANAHANAHANAHANAHANAHANAHANAHANAHANAHANAHANAHANAHANAHANAHANAHANAHANAHANAHA",
  "NAHANAHANAHANAHANAHBNAHANAHANAHANAHANAHANAHANAHANAHBNAHANAHANAHANAHANAHANAHANAHANAHANAHANAHANAHA",
  "NAHANAHANAHANAHANAHANAHANAHANAHANAHANAHANAHANAHANBHANAHANAHCNBHANAHANBHANCHBNDHANBHANCHCNBHANBHA",
  "NAHANAHANBHANAHBNAHANBHANCHANAHANBHBFANAHCFDNBHANBHANBHANAHANAHANAHANAHANAHANAHANAHANAHBNAHANAHA",
  "NAHANAHANAHANAHANAHANAHANAHBNBHANAHANCHANAHANAHANAHANAHANAHANAHANAHANAHANAHANAHANAHANAHANAHANAHA",
  "NAHANAHANAHANAHANAHANAHANAHANAHANAHANAHANAHANAHANAHANAHANAHGNBHANBHBNAHANDHANAHANAHANAHANAHkCFAH",
  "jBFGHBODFLONHEOGFAOAFAOQDvDNAHANAHAFAOANAHAOBHDOANAOFNAOANCOANAOANBHANQOANIHiBNAHBNCHCNAHANAHANA",
  "HANAHANAHANAHANAHANAHANAHANAHANAHANAHENAHAOANAHANBHBNyBHvBNAHANAHANAHANAHANAHANAHANAHANAHANAHANA",
  "HANAHANAHANAHANAHANAHANAHANAHAOADGNAHANAHANAHANAHANAHANAHANAHANAHANAHANAHANAHANAHANAHANAHANAHANA",
  "HANAHANAHANAHANAHANAHANAHANAHANAHANAHANAHANAHANBHANAHANAHANAHANAHANAHANAHBNAHANAHANAHANAHANAHANA",
  "HANAHANAHANAHANAHANAHANAHANAHANAHANAHANAHANAHANAHANAHANAHANAHANAHANAHANAHANAHANAHANAHANAHANAHANA",
  "HANAHANAHANAHANAHANAHANAHANAHANAHANAHANAHANAHANAHANAHANAHANAHANAHANAHANAHAOANlBOBFAOCJAOBHoBMAOG",
  "DsBOADAOADBOADBOADAOHFaODFEOLEFOFJBOBDKOAEAMCFqBDUIJOAIBOAFBDAFiDMAFADGEAOADFFBDBOADDFBIJFCOBFAM",
  "COLEAFADAFdDaOBF4CDKFAONIJFgBDIFBOBJAMAFAOBDAOBFVDDFADIFADCFADEOIMAOAMAOCMBOAFYDCODFKOEFXOAFFOAE",
  "BOFDHFpBDXEADgBF1BDCFADRFADGFJDBMBIJOAFPDCOAFHOBFBOBFVOAFGOAFAOCFDOBDAFADGOBDBOBDCFAOHDAODFBOAFC",
  "DBOBIJFBOJFAOADAOBDCOAFFODFBOBFVOAFGOAFBOAFBOAFBOBDAOADEODDBOBDCOCDAOGFDOAFAOGIJDBFCDAOKDCOAFIOA",
  "FCOAFVOAFGOAFBOAFEOBDAFADHOADCOADCOBFAOOFBDBOBIJOIFADFOADCOAFHOBFBOBFVOAFGOAFBOAFEOBDAFADGOBDBOB",
  "DCOGDCODFBOAFCDBOBIJOAFAOPDAFAOAFFOCFCOAFDOCFBOAFAOAFBOCFBOCFCOCFLODDEOCDCOADDOBFAOFDAONIJOPDEFH",
  "OAFCOAFWOAFPOBDAFADGOADCOADDOGDBOAFCOBFAOBFBDBOBIJOPFADCOAFHOAFCOAFWOAFJOAFEOBDAFADGOADCOADDOGDB",
  "OFFBOAFBDBOBIJOAFBDAOLDDFIOAFCOAFoBDBFADGOADCOADDFAOEFCDAOGFCDBOBIJOJFFOADCOAFROCFXOAFIOAFAOBFGO",
  "CDAODDFOADAOADHOFIJOBDBOMFvBDAFBDGOEFGDHOAIJOmBFBOAFAOAFEOAFXOAFAOAFJDAFBDIFAOBFEOAFAOADGOAIJOBF",
  "DOfFAOWDBOFIJOKDAOADAOADABDDBFHOAFjBODDTOADBFEDKOADjBOIDAO4BFqBDTFAIJMBODFFDDFDDCFADCFBDGFCDDFMD",
  "LFADAIJDDOBNlBOANAOENAOBFqBOAHAFrKOAFDOBFGOAFAOAFDOBFoBOAFDOBFgBOAFDOBFGOAFAOAFDOBFOOAF4BOAFDOBF",
  "iCOBDCOBMAODMBOWFPOPN1COBHFOCFrTOAMAFQLAFZBBOCFqCOCFKOGFRDDOIFSDCMBOIFRDBOLFMOAFCOADBOLFzBDfOCFA",
  "ODFADAOBIJOXJAMAODJAMAOADCEADAIJOFF4COGFEDBFhBDAFAOEFlCOJFeOADLODDLOHMBIJFdOBFEOKFrBODFZOFIJOlBF",
  "WDEODF0BDJOADcOBDAIJOFIJOMFAMDODDeOwBDEFuBDQFHOCIJMBOBMBOKDIOIMBOADCFdDMFBIJFrBDNOLFjBDTOCMBOCIJ",
  "OCFCIJFjBMBHIOGFqBOBFCOPDCOADUFDDAFFDAFBDCFAOEH-FD-BNAHANAHANAHANAHANAHANAHANAHANAHANAHANAHANAHA",
  "NAHANAHANAHANAHANAHANAHANAHANAHANAHANAHANAHANAHANAHANAHANAHANAHANAHANAHANAHANAHANAHANAHANAHANAHA",
  "NAHANAHANAHANAHANAHANAHANAHANAHANAHANAHANAHANAHANAHANAHANAHANAHANAHANAHANAHANAHANAHANAHANAHANAHA",
  "NAHANAHANAHANAHANAHANAHANAHANAHANAHANAHANAHANAHANAHANAHANAHANAHINAHANAHANAHANAHANAHANAHANAHANAHA",
  "NAHANAHANAHANAHANAHANAHANAHANAHANAHANAHANAHANAHANAHANAHANAHANAHANAHANAHANAHANAHANAHANAHANAHANAHA",
  "NAHANAHANAHANAHANAHANAHANAHANAHANAHANAHANAHANAHANAHANAHANAHANAHANAHINHHFOBNFOBHHNHHHNHHFOBNFOBHH",
  "OANAOANAOANAOANAHHNHHNOBHHNHHHNHHHNHHEOAHBNEOAHAOCHCOAHBNEOCHDOBHBNDODHHNEOEHCOAHBNEOCLKEADBEBOC",
  "JBOCBHODAAOCKBEELAOIBBOAMBOGBBMCOULAEEOAEJOAHAOKBBHAOMBBOAHMOyBDgBOQNAODNAOBHANCHBNCHAOANAOCNEOF",
  "NAOANAOANAOANDOAHANDHAFDHAOBHBNBOENAHDODHAOQNPHPFCNAHAFDO+LBDOcBBOqMNZHZOwTBFOGBNOuCBBOeBJOyMBVO",
  "+BBDOfBBOhQNvBHvBNAHANCHBNAHANAHANAHANDHANAHBNAHHNCHANAHANAHANAHANAHANAHANAHANAHANAHANAHANAHANAH",
  "ANAHANAHANAHANAHANAHANAHANAHANAHANAHANAHANAHANAHANAHANAHANAHANAHANAHANAHANAHANAHANAHANAHANAHANAH",
  "ANAHANAHANAHANAHANAHANAHANAHANAHANAHANAHANAHANAHANAHANAHBOFNAHANAHADCNAHAOLHlBOAHAOEHAOBF3BOGFAO",
  "ODAFWOIFGOAFGOAFGOAFGOAFGOAFGOAFGOAFGOADfBNONBBOBBJODMAFAOLMAOEBAOPMBBHOiNLAJAMAOBFCBJOBBHOABCOA",
  "FIDFOAFEOBFEODF1COBDBOBFCOAF5COAFDOEFqBOAF9COQFfOvBFPO-PF-tGO-BFs0VOiCFtBOAMAFsIOAMBFPIJFBOTNAHA",
  "NAHANAHANAHANAHANAHANAHANAHANAHANAHANAHANAHANAHANAHANAHANAHANAHANAHANAHANAHANAHANAHANAHAFADDOADJ",
  "OAFANAHANAHANAHANAHANAHANAHANAHANAHANAHANAHANAHANAHANAHANAHCDBFvCDBOAMAOCMAOeFIOBNAHANAHANAHANAH",
  "ANAHANAHANAHCNAHANAHANAHANAHANAHANAHANAHANAHANAHANAHANAHANAHANAHANAHANAHANAHANAHANAHANAHANAHANAH",
  "ANAHANAHANAHANAHANAHANAHANAHANAHANAHANAHJNAHANAHANBHANAHANAHANAHANAHAFAOBNAHANAHAFANAHANAHCNAHAN",
  "AHANAHANAHANAHANAHANAHANAHANAHANAHANEHANEHANAHANAHANAHANAHANAHANAHANAHANDHANAHAOENAHAOAHAOAHANAH",
  "ANAHAOXHCNAHAFAHCFGDAFCDAFDDAFWDEODDAOSFzBOBMBOHDBFxBDROHMBIJOFDRFFOCFAOAFBDAIJFbDHOAMAFWDMOLFcO",
  "CDDFuBDNOGMBOEFAIJOFFEDAFJIJFEOAFoBDNOIFCDAFHDBOBIJOCMCFWOCFADCFxBDAFADCFBDBFEDBFADAFAOXFCOBFKDE",
  "MBFCDBOJFFOBFFOBFFOIFGOAFGOAHqBOAHNOFHvCFiBDHMADBOBIJOFFj9KOLFWODFwBOjoIFtLOBFpDOlBHGOLHEOEFADAF",
  "JOAFMOAFEOAFAOAFBOAFBOAFrDOgBFqLBBOPF-BOBF1BOnBFLODDPJBOAJAOCBBOGDPOAJBOBBPOBBBOGJBAAOBJAMBJABFO",
  "DJAOLFEOAFmEOBEAOAMAOFBBOBJBAAOAIJJAODMAOANZBAOABAOCHZBAOABAOABBMABBJAOAF3BDBFeOCFFOBFFOBFFOBFCO",
  "bECODFLOAFZOAFSOAFBOAFOOBFNOhBF6DOkCF0BOnEDAOhEFcOCFwBOODAOeFfOMFdOEFlBDEOEFdOBFjBODFHOAFEOpBNnB",
  "HnBFtCOBIJOFNjBODHjBODFnBOHFzBOLNKOANOOANGOANBOAHKOAHOOAHGOAHBOiCF2JOIFVOJFHOXHAFBHCOAHpBOAHIOkC",
  "FFOBFAOAFrBOAFBOCFAOBFWOJFWOIFeOgCFSOAFBOJFVOJFZOlCF3BOFFBO-BFADCOADBOEDDFDOAFCOAFcOBDCODDAOVMBO",
  "HFcOCFcOiBFHOAFbDBOYF1BOJFVOJFSOMFROtDFoCO2BNyBOMHyBOMFjBDDOHIJOlKFpBOADBOCFBOqCDCFcOJFAOHFVDKOD",
  "MEOVFRDDMDOlBFUOaFWOIDCF0BDOMBOcIJDAFBDBFAOIDDFsBDKOBEAMDDAOJEAOBFYOGIJOFDCFjBDNOAIJOAMCFADBFAOH",
  "FiBDAOBFAOIDCFvBDNFDMBOBDDMADBIJFAOAFAOAMBOfFROAFYDLMBOAMBOADAFBDAO9BFGOAFAOAFDOAFOOAFJMAOFFuBDL",
  "OEIJOFDDOAFHOBFBOBFVOAFGOAFBOAFEOADBFADGOBDBOBDCOBFAOFDAOEFEDBOBDGOCDEOqEF0BDRFDMBOCIJODDAFCOdFv",
  "BDTFBOAFAOHIJOlFFuBDGOBDIOAMBOEMOFDDBOhBFvBDQMBOAFAOKIJOlBFqBDMFAOGIJO1BFaOBDOODIJOBMCOAFGO4FFrB",
  "DOOkDNfHfIJOUFHOBFAOBFHOAFBOAFXDFOADBOBDDFADAFADBMAOAMAOIIJOlCFHOBFmBDGOBDGFAOAFADAOaFADJFnBDGFA",
  "DDOCMBOCDAOHFADKFtBDPOAMBFAORFoCOmIFIOAFkBDHOADHFAMBOMIJOXFdOBDVOADNOoCFGOAFBOAFlBDFOCDAOADBOADG",
  "FADAOHIJOFFFOAFBOAFfDEOADBOADEFAOGIJO1JFSDDMBOGDBFADAFMOAFhBDGOCDEMBOKIJO1CFAOuCF5cOlDFuDOQFjGOr",
  "yCFgDOOFvhBEPDAFFDOOp9DFmSO4tIF4ROGFeOAIJODMBFuCOAIJOFFdOBDEMAOJFvBDGMBOGFDMAOKIJOIFUOEFSOvVNfHf",
  "OXMAOmDFqCODDAFAD2BOGDDFMO-BFBOAFADAOKDBONF3-FOHF1mBOpBFIOm3IFDOAFGOAFBOAFiJOOFAOcFCOBFAONFDOHFr",
  "MOjoCFqDOEFMOCFIOGFJOCDBMAEDO7yEDtBOBDWO9QDEOCDFEHDHOBDGOdDDOzEDCO6NNZHZNZHGOAHRNZHZNAOANBOBNAOB",
  "NBOBNDOANHHDOAHAOAHGOAHKNZHZNBOANDOBNHOANGOAHZNBOANDOANEOANAOCNGOAHZNZHZNZHZNZHZNZHZNZHZNZHbOBNY",
  "OAHYOAHFNYOAHYOAHFNYOAHYOAHFNYOAHYOAHFNYOAHYOAHFNAHAOBIxBO-PD2BODDxBOHDAONDAOCMAORDEOADOOviBHJFA",
  "HTOFHFO0GDGOADQOBDGOADBOADEOEH9BOgBDAOvDFsBOCDGFGOBIJODFAOgKFdDAOQFrBDDIJO1OFbDDIJOlXFGOAFDOAFBO",
  "AFOOAFkGOKDGOoBNhBHhBDGFAODIJOllBFDOAFaOAFBOAFAOBFAOAFJOAFDOAFAOAFAOFFAODFAOAFAOAFAOAFCOAFBOAFAO",
  "BFAOAFAOAFAOAFAOAFAOAFBOAFAOBFDOAFGOAFDOAFDOAFAOAFJOAFQOEFCOAFEOAFQOzTNZOFNZOFNZOrnBBCO2rBIJOlgB",
  "F-2pBOfF5hEOFF9GOBFh0FONFwpHO+gDF9QOhvBFq6EOEF-iEOwi3VEAOdD-CO-DDvHOvw-F"])

def ageNames : List (List String) := [
  ["1.1", "v11"], ["2.0", "v20"], ["2.1", "v21"], ["3.0", "v30"], ["3.1", "v31"], ["3.2", "v32"],
  ["4.0", "v40"], ["4.1", "v41"], ["5.0", "v50"], ["5.1", "v51"], ["5.2", "v52"], ["6.0", "v60"],
  ["6.1", "v61"], ["6.2", "v62"], ["6.3", "v63"], ["7.0", "v70"], ["8.0", "v80"], ["9.0", "v90"],
  ["10.0", "v100"], ["11.0", "v110"], ["12.0", "v120"], ["12.1", "v121"], ["13.0", "v130"],
  ["14.0", "v140"], ["15.0", "v150"], ["na", "unassigned"]
]

def ages : Partition := Partition.decode
  (String.join [
  "A1PDDAdDHFAGADRGCHKINA4CDEGBAuBDAAJDEGQAlCDIFAGHHEGCABDAFMJDABJBZBAAICAAPAZDAGZAAAZAATZAArBJAAGD",
  "AFBAADAAADAAADAAADAAREBFAGEHDDAALDAAhCDAALDAAoBJADBFBDDA0BFBABFBABFBIAAbDBAHHBABIFFPIDJPKBLBPHZA",
  "AlBZBAGTAAmBTAAADAZBPBMAZABQHABMAJIAAIBAHCZHAaZDTAAEZKGDMAPAJEHAAAGIJEAAOAXAHAAALAAZJEASDCGCHFLA",
  "ANFBAnCDBAEDAAODAAdGBAJDEGADNZADdGCDaZBGCHdJRDwBFAZNI6BZBTCKtBZBKOZALbZBLAZASKZEXeZAXBZFXHMAPAMK",
  "PFQBXARHWJXKTAROQAMaPAKAACGAA0BLBARKALAAEKALBAYJBLEPAKBIBHAIBPAACZAAHZBABZBAVZAAGZAAAZCADZBAAGAA",
  "GZBABZBACHAZHAAZDABZAAEZBAUKASBTAZBGAAAGAZAAFZDABZBAVZAAGZAABZAABZAABZBAAZAAEZDABZBACZCJAZGADZAA",
  "AZGAOJATAZJACZAAGGAAAZAACZAAVZAAGZAABZAAEZBAJZAACZAACZBAAZOAAGCZBAJMAGAZGQASFZAACZAAHZBABZBAVZAA",
  "GZAABZAGAADZBAHJAZBABZBACZGWAABZDABZAACJBZBAKGALFZJABZAAFZCACZAADZCABZAAAZAABZCABZCACZCAHHAACZDA",
  "EZCACZAADZBJAZFAAZNHAALGHZEPAACTAAHZAACZAAWZAAJPAAEZBXAJAAGZAACZAADZGABZAJBQAZBXAZBABJBZBAJZGUAJ",
  "HRAPAABTAAHZAACZAAWZAAJZAAEZBGBAGZAACZAADZGABZFXAAAZAABIBZBAJZAIBYAZLSAPAABWAAHZAACZAAWLAAPLASBJ",
  "AAFJAZAACZAADLARAZDRCAARGQAABJBZBAJJFRCJGZAWADBZADRZCDXZADIZADAZBDGZCDAZDDFZADAZADHZFPJZBDCZLA5B",
  "ZDAcZkBABZAAAZAUAABUAAAZAUAAAUFADUAAGUAACZAAAZAAAUBABUAAMUAACZBAEZAAAZAAFYAZAAJZBABMBZfBnCZABgBD",
  "AJBZDBaLDBFDABAZABUDCBGDABADCZADOZAJADAHBJCKDLBZkBDhBJADEJADBJADGJCDDJFDZJ-BKDJBAlBZAMAZEMAZBAmB",
  "FBHBAAHAMCA5CKEAjCKEAxCKFDGHAD+BHADAZADDZBDGZADAZADDZBDmBHADAZADDZBDeHADAZADDZBDGZADAZADDZBDGHAD",
  "GZADWHADeHADAZADDZBDGHADmBHADSZBLBHBDbZCHZZFD0CQAZBQFZBKAD1TKIDcZCDwCPHZGFMXAFGXAZIXAFWZIFTZLFMZ",
  "AFCZAFBZLD8CGAZBDJZFGJZFDOXADJZFD3CTAZGDpBJAZEKlCZJGcPBZAGLZDGLZDGAZCGpBZBGEZKHpBKBZDHZZFHJKAZCH",
  "BGfHbZBHBK+BZAKcZBKKZFKJZFKNZBPOWBXNZwBIrCXAZCIsBXBZAJqBMCJLMFLzBZHLDJ3BZCJOZCJyBRIZGTqBZBTCMHZH",
  "KiBMDSAPBUAZEGrDH3CIGJbPOSDXARALAKAIBA6EBAJDA5CJFAVZBAFZBAlBZBAFZBAHZAAAZAAAZAAAZAAeZBA0BZAAOZAA",
  "NZBAFZAASZBACZAAIZAAuBDAAWFADFFEGBHBFAHGFEJAZAODAGFAZBAaZAHELHZCAKBACADCFBHDKCLANAPCQASAXAZOARDB",
  "FGHAIDJAZOA4BDBGAHAFOHAIBJAKCAvBDAIAJDKAQBZDA6CDIFLAxHFNAADAA4DDAFADdFzBGBHKILKALKPGRDSAAkBDBZYA",
  "KZUAqEFTGAA1EFJAvCDHFHATGBFBHADAA1CDBFLHBFJGHHKJAKBGBHPIAJJKCJDKJLAKSLAKALDKXPAADLAADLBAbLAAiBLA",
  "AALAADLCAAKAAGLBAGFNAeLCAXLAANLAHGIDMAJAMALBFbJDFPD-HF-PGNHFIGJEIDJoBPCJEKEPZZBPfZAWAPhBTCPLUAPH",
  "SATYQDTOUAHuBXAHuBXAIMJCKAJCIDJFKBHqDKGMBZEHsBZAMAZEMAZBH1BMBZGHALAZNLAHWZIHGZAHGZAHGZAHGZAHGZAH",
  "GZAHGZAHGZAJfHXJDHBJSKAMJPGRBSETEUAWCXKZhBDZZAD4CZLD1GZZDLZDA3BDCFCDAAAZAAzCFBZBAFFBA9CFAZEAnBJA",
  "SATAZAA9CZAAPDXLCWEHPJTZLFPAcGBZAAjBKLGAFOAbGBHAAxBFOALGDAuBVAA2DGDAiDGBAeGAD1tGWJG-BAltUHVJHKHM",
  "AQISUTEWMXCDskBZCDRFBDPFADLFADCFADAZIKvBJrJZTJfLBJRMHJbPFQAMAK3CZHHWIDJEIBJqDLBQALBMBPLLJMAPCRAT",
  "APBQFTBUFXBUEWDZEXBZAXAZAXEZXXCWBPAMBLAJEHrBWAZCKJZFI3BZHJkCRAZHJLZFKbQBTBJzCZKJAKcZCKtCZAKKZDKB",
  "PeZAJ2BZIJNZBJJZBJDKbPDKiCZXKEMWZJLFZBLFZBLFZILGZALGZAPvBQDPBUBWDZDQvCKtBZBKJZFBj9KZLKWZDKwBZDB-",
  "-BAtxGMBF6BKCZBHpDZlBAGZLAEZEDAAYZAAEZAAAZAABZAABZAArDLPXAZPAsLXPA-BZBA1BZGXAEfALFAGAXBFPHJZFADJ",
  "CPGQBAUFBGBAJZAASZAADZDACFAAAZAAmEZBAAZAA9CFBA9CZCAFZBAFZBAFZBACZCAGZAAGZJDCCAACGLZAGZZAGSZAGBZA",
  "GOZBGNZhBG6DZEGCZDGsBZCGIHqCPBRBZAJLWAZCPAZuBJtBZhEJcZCJwBZOPbZDEePAEDZISCEaZEPqBZEGdZAGAHjBZDHN",
  "ZpBElBGBElBGvCZBGJZFRjBZDRjBZDPnBZHPzBZKPAXKZAXOZAXGZAXBZAXKZAXOZAXGZAXBZiCP2JZIPVZJPHZXXFZAXpBZ",
  "AXIZkCGFZBGAZAGrBZAGBZCGAZBGAKVZAKIP+BZHPIZvBQSZAQBZEQEIZKBZCIAJZZEJAZ-BM3BZDQBMBQPZBQtBHDZAHBZE",
  "HHZAHCZAHaTBZBHCZDHITAZGHIZGKfPfZfPmBZDPLZIK1BZCKcZBKaZEKHPRZGPDZLPGZvCKoCZ2BQyBZMQyBZGQFTnBZHTJ",
  "ZlJKeZAWpBZAWCZBWBZqCYCTnBZHTpBZVXZZlBWbZTUWZILtCZDLdXFZIPAKhCXAZJTAZBMYZGMJZFM0BZAMNTCWAZHPmBZI",
  "MoCQDPAWBMJPAQEZAPTZKPRZAPqBRAYCZ9BQGZAQAZAQDZAQOZAQKZFP6BZEPJZFQAPCZAPHZBPBZBPVZAPGZAPBZAPEZATA",
  "PIZBPBZBPCZBQAZFPAZEPGZBPGZCPEZqER5CWARAZARATAUAWBZdPnCZHPJZlFP1BZBPRQTZhBPkCZKPJZFRMZSM3BUAXAZF",
  "MJZ1BQZTAZBQOZDQPXGZ4FT7BZjDPyCZLPAWGZBWAZBWHZAWBZAWdZAWBZBWLZIWJZlCUHZBUtBZBUKZaSnCZHSzBUBSWTAS",
  "EZMXPP4BZGYJZ1HRIZARsBZARNZJRcZCRfZBRVZARNZoCSGZASBZASrBZCSAZASBZASIZHSJZFTFZATBZATkBZATBZATFZGT",
  "JZ1JTYZGYQZAYoBZCYbZ1CWAZOUxBZMUAIubPpBQAZlDIiDPLZAIDPAZKQjGZryCXiDZMKuhBYAUIYcZp9DQmSZ4tIL4RZGP",
  "eZAPJZDPBXuCZAXJZFPdZBPFZJPlCZJPJZAPGZAPUZEPSZvVT6CZkDMkCUFZDUAMuBUIZGMQZ-BRASAUBWAZKWBZNRs-FTEU",
  "FZHRyXWiPZpBWIZm3IXDZAXGZAXBZALBS8IXDZOYAZcUCZBYAZNUDZHSrMZjoCPqDZEPMZCPIZGPJZBPHZ7yEXtBZBXWZIXz",
  "DZ7BE1HZJEmBZBJAEzFQKXBZUHlCZ5DYTZLTTZLG2CZIIRTGZmEE0CZAEmCZAEBZBEAZBEBZBEDZAELZAEAZAEDGAEBZAEgC",
  "ZAEDZBEHZAEGZAEbZAEDZAEEZAEAZCEGZAExKHBZBEhJIBZBExBQrUZOQEZAQOZviBXeZFYFZ0GRGZARQZBRGZARBZAREZEY",
  "9BZgBYAZvDUsBZCUNZBUJZDUBZ-JXeZQU5BZEUAZvOYpBZlXXGZAXDZAXBZAXOZAPkGZBPPZoBRqCUAZDRJZDRBZwYTjCZrC",
  "U8BZhGMDZAMaZAMBZAMAZBMAZAMJZAMDZAMAZAMAZFMAZDMAZAMAZAMAZAMCZAMBZAMAZBMAZAMAZAMAZAMAZAMAZAMBZAMA",
  "ZBMDZAMGZAMDZAMDZAMAZAMJZAMQZEMCZAMEZAMQZzBMBZtIJrBZDJjDZLLOZBLNPAZALOZALOPVZJKKPBWCKeTALAKALKKA",
  "LAKALBKALCKALCKELHKALGKALJMBUAWCLIKALAKBLBKALJKDLBKALJRRWAZ3BLZKALBZMKhBLIRAZDKIZGLBZNSFZ5ELgBPL",
  "QCLFPALlCPAQBLTPLLkBPALEPDQEPLLQPGQHL+BPALAPAL1FPALDPBQAL9BPBMDPGQELXPRRAPoBRAP1CLEMALPMALCMALAM",
  "ALAMALAMALCMALFMBLDMALAMBLDMALLPBQBLKPvBLlCPJQARBSBUAWBZDYAXCPMZCPDRCSBTAUAWBZCLzDYCZDYEP0CTDYAZ",
  "FULZDXAZOPLZDP3BZHPJZFPnBZHPdZBWBZtCSLWAUCQIRFSARHSHRASBRLUARLSATCROSMTEUAWATDWBXATAUATDQERMSFTK",
  "WBUFWCUBTJUFQATBUHWAXAUCSWTYUzCZLTNZBUDWAYCUCXBZCUCWDYBZGUFWSXDYCWGXDYCZAYAWCXCZHYBWGXCYBZDXHYAZ",
  "GXGYBZGWyEZAW2BZkBWJZjgBBBE22pBWGXBZfK0hEXDYAZFL9GZBQh0FZNSwpHZ+gDE9QZ-uBBBWq6EZEY-iEZti3BBBZ9--",
  "BBBZ9--BBBZ9--BBBZ9--BBBZ9--BBBZ9--BBBZ9--BBBZ9--BBBZ9--BBBZ9--BBBZAEAZdE-CZ-DGvHZtw-BBhggE"])

end TerminalScript.Unicode
