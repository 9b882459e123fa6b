import TerminalScript.Unicode.Property

/-!
The number of terminal columns a character takes: none for marks and invisible characters, two for
wide ones, one for the rest.
-/

namespace TerminalScript.Unicode

def wide : RangeSet := RangeSet.decode
  (String.join [
  "goE-C6tEBNB+FDDACApQBVBaHQLrBAKFDANAIBRBFBIAFAVAHBBAEACAHAEBcAjBABAECBA9BCYAOA7aBzBAEAqZZB4CM1Ga",
  "uCC1CCmDFqBB9CB1CJvBBnBI8xcD2B5kBcjUj9K8qI-PwYJWiBBSBD1E-C-DG5-bELBO3-FI1mBqBIn3IDBGBBBiJPAdCCAO",
  "DIrMkgI2CJWtkHAqGA+FACJlDCNrBEIHBOF6EgBMIBlCBVMqBEEMQDADmCBAB6FC+BNDBXSAaBNA2C0CwBlCGADCCCEDLBHI",
  "jHLEA7IuBBJB4FwDMDJF3BHOCKGInoB9--BC9--B"])

/-- Vowel and trailing Hangul jamo, vowel signs that decompose into marks, and signs written over
what follows them. -/
def joining : RangeSet := #[
  (0x0605, 0x0606), (0x070F, 0x0710), (0x0890, 0x0892), (0x08E2, 0x08E3), (0x0CC0, 0x0CC1),
  (0x0CC7, 0x0CC9), (0x0CCA, 0x0CCC), (0x1160, 0x1200), (0x1B3B, 0x1B3C), (0x1B3D, 0x1B3E),
  (0x1B43, 0x1B44), (0xA8FA, 0xA8FB), (0xD7B0, 0xD7C7), (0xD7CB, 0xD7FC)
]

def width? (c : Char) : Option Nat :=
  let code := c.toNat
  if code < 32 ∨ (127 ≤ code ∧ code < 160) then none
  else if code < 127 then some 1
  else if code = 0x2D7F then some 1
  else if code = 0x115F then some 2
  else if defaultIgnorable.contains code || graphemeExtend.contains code || joining.contains code then
    some 0
  else if wide.contains code then some 2
  else some 1

end TerminalScript.Unicode
