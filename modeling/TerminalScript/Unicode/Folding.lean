import TerminalScript.Unicode.RangeSet

/-!
Simple case folding. The letters that fold together form a ring; `nextFold` steps along it.
-/

namespace TerminalScript.Unicode

def foldingRuns : Array (Nat × Nat × Nat × Int) := decodeFolding
  (String.join [
  "hCZAgCgBJAhCKAA+rQBGAhCHAA4QBGAhChCAAuuBLWAgCYGAgCHAA+7OBEAhCFAAskQBQAhCSGAhCHAAyHBAACBAADBAACBA",
  "ADBAACBAADBAACBAADBAACBAADBAACBAADBAACBAADBAACBAADBAACBAADBAACBAADBAACBAADBAACBAADBAACBAADBAACBA",
  "ADBAACBAADBAACBAADBAACBAADBAACBAADBAACBAADBAACBAADBAACBAADBAACBAADBAACBAADBAACBAADDAACBAADBAACBA",
  "ADBAACBAADCAACBAADBAACBAADBAACBAADBAACBAADBAACBAADBAACBAADBAACBAADBAACBAADCAACBAADBAACBAADBAACBA",
  "ADBAACBAADBAACBAADBAACBAADBAACBAADBAACBAADBAACBAADBAACBAADBAACBAADBAACBAADBAACBAADBAACBAADBAACBA",
  "ADBAACBAADBAACBAADBAACBAADBAACBAADBAACBAADBAACBAADBAACBAADBAACBAADBAAzHBAACBAADBAACBAADBAACBAADB",
  "AA5SBAAmMBAAkNBAACBAADBAACBAADBAA8MBAACBAADBBA6MCAACBAADCAA+EBAA0MBAA2MBAACBAADBAA6MBAA+MBAAiGBA",
  "AmNBAAiNBAACBAADBAAmKCAAmNBAAqNBAAkIBAAsNBAACBAADBAACBAADBAACBAADBAA0NBAACBAADBAA0NDAACBAADBAA0N",
  "BAACBAADBBAyNCAACBAADBAACBAADBAA2NBAACBAADDAACBAADCAAwDFBACCAAFBBACCAAFBBACCAAFBAACBAADBAACBAADB",
  "AACBAADBAACBAADBAACBAADBAACBAADBAACBAADBAACBAADBAA-EBAACBAADBAACBAADBAACBAADBAACBAADBAACBAADBAAC",
  "BAADBAACBAADBAACBAADBAACBAADCBACCAAFBAACBAADBAAjGBAAxDBAACBAADBAACBAADBAACBAADBAACBAADBAACBAADBA",
  "ACBAADBAACBAADBAACBAADBAACBAADBAACBAADBAACBAADBAACBAADBAACBAADBAACBAADBAACBAADBAACBAADBAACBAADBA",
  "ACBAADBAACBAADBAACBAADBAAlICAACBAADBAACBAADBAACBAADBAACBAADBAACBAADBAACBAADBAACBAADBAACBAADBAACB",
  "AADHAA2iVBAACBAADBAAnKBAAwiVBBA+jVCAACBAADBAAnMBAAqEBAAuEBAACBAADBAACBAADBAACBAADBAACBAADBAACBAA",
  "DBAA+hVBAA4hVBAA8hVBAAlNBAA9MCBA7MDAA1MCAA3MBAA+0yCEAA7MBAA20yCCAA-MCAAwyyCBAAo0yCCAAjNBAAnNBAAo",
  "0yCBAAu-UBAAi0yCDAAnNCAA6-UBAArNDAAtNIAAu+UDAA1NCAAm0yCBAA1NEAA0yyCBAA1NBAArEBBAzNCAAvEGAA3NLAAq",
  "xyCBAAkxyCnFAAoFrBAACBAADBAACBAADDAACBAADECAkIEAAoHHAAsCCCAqCEAAgECBA+DDQAgCSAA+BBHAgCIAAtCBCArC",
  "EAAhCBAA8BBBAhCCAAgEBBAhCCAAyBBAAqgOBAAsDBAAhCBAAvwBBCAhCDAAsBBAAgDBAACBCAhCDAAeBBAhCCAA61OBBAhC",
  "CAAhEBBA-DCAAQBAA9DBAAmCEAA-CBAAtDBAARBAACBAADBAACBAADBAACBAADBAACBAADBAACBAADBAACBAADBAACBAADBA",
  "ACBAADBAACBAADBAACBAADBAACBAADBAACBAADBAAtFBAAhFBAAOBAApHBAA5FBAAhGCAACBAADBAAPBAACBAADCCAlIDPAg",
  "FQfAgCgBBAhCCAA8kMBAAhCBAA6kMBIAhCJAAokMBBAhCCBAkkMCGAhCHAA4jMBEAhCFPAhFQAACBAADBAACBAAoiMBAACBA",
  "ADBAACBAADBAACBAADBAACBAADBAACBAADBAACBAADBAACBAADBAACBAADBAACBAADBAACBAADBAACBAADBAACBAADBAACBA",
  "ADBAACBAADBAACBAADJAACBAADBAACBAADBAACBAADBAACBAADBAACBAADBAACBAADBAACBAADBAACBAADBAACBAADBAACBA",
  "ADBAACBAADBAACBAADBAACBAADBAACBAADBAACBAADBAACBAADBAACBAADBAACBAADBAACBAADBAACBAADBAACBAADBAACBA",
  "ADBAACBAADBAACBAADBAACBAADBAACBAADBAACBAADBAAeBAACBAADBAACBAADBAACBAADBAACBAADBAACBAADBAACBAADBA",
  "ACBAADBAAfBAACBAADBAACBAADBAACBAADBAACBAADBAACBAADBAACBAADBAACBAADBAACBAADBAACBAADBAACBAADBAACBA",
  "ADBAACBAADBAACBAADBAACBAADBAACBAADBAACBAADBAACBAADBAACBAADBAACBAADBAACBAADBAACBAADBAACBAADBAACBA",
  "ADBAACBAADBAACBAADBAACBAADBAACBAADBAACBAADBAACBAADBAACBAADBAACBAADBAACBAADBAACBAADBAACBAADBAACBA",
  "ADBAACBAADBAACBAADBAACBAADBAACBAADBAACBAADBAACBAADBAACBAADBAACBAADBAACBAADBAACBAADBAACBAADBAACBA",
  "ADBAACBAADClBAgDwBlBAhD-5ClBAgmOnBAAgmOGAAgmODqBAg8FtBCAg8FjVvCAg9rCwCFAQIFARokCAA9mMBAA7mMBAApm",
  "MBAAlmMBAACBAAnmMBAA5lMBAAriMBAAk8kCIqBAh8FtBCAh8F8FAAoglCEAAsuHRAAwjlCyDAACBAADBAACBAADBAACBAAD",
  "BAACBAADBAACBAADBAACBAADBAACBAADBAACBAADBAACBAADBAACBAADBAACBAADBAACBAADBAACBAADBAACBAADBAACBAAD",
  "BAACBAADBAACBAADBAACBAADBAACBAADBAACBAADBAACBAADBAACBAADBAACBAADBAACBAADBAACBAADBAACBAADBAACBAAD",
  "BAACBAADBAACBAADBAACBAADBAACBAADBAACBAADBAACBAADBAACBAADBAACBAADBAACBAADBAACBAADBAACBAADBAACBAAD",
  "BAACBAADBAACBAADBAACBAADBAACBAADBAACBAADBAACBAADBAACBAADBAACBAADBAACBAADBAACBAA0DBAACBAADBAACBAA",
  "DBAACBAADBAACBAADBAACBAADBAACBAADBAACBAADBAACBAADBAACBAADBAACBAADBAACBAADBAACBAADBAACBAADBAACBAA",
  "DBAACBAADBAACBAADBAACBAADBAACBAADBAACBAADBAACBAADBAACBAADBAACBAADBAACBAADBAACBAADBAACBAADBAACBAA",
  "DGAA3DDAA-7OCAACBAADBAACBAADBAACBAADBAACBAADBAACBAADBAACBAADBAACBAADBAACBAADBAACBAADBAACBAADBAAC",
  "BAADBAACBAADBAACBAADBAACBAADBAACBAADBAACBAADBAACBAADBAACBAADBAACBAADBAACBAADBAACBAADBAACBAADBAAC",
  "BAADBAACBAADBAACBAADBAACBAADBAACBAADBAACBAADBAACBAADBAACBAADBAACBAADBAACBAADBAACBAADBAACBAADBAAC",
  "BAADBAACBAADBAACBAADBAACBAADBAACBAADBAACBAADBAACBAADBAACBAADBAACBAADBAACBAADBAACBAADBAACBAADBAAC",
  "BAADBAACBAADBHAQIHARIFAQIFARIHAQIHARIHAQIHARIFAQIFARJDBQIDBRHHAQIHARIBA0ECDAsFEBAoGCBAgICBAgHCBA",
  "8HEHAQIHARIHAQIHARIHAQIHARIBAQDAASFBARCBA1ECAATCAAznOFAASFDAtFEAATEBAQIBARCBApGGBAQFAAODBARCBAhH",
  "CAAPHAASFBAhICBA9HCAATqJAA73OEAA-tQBAAtmQHAA4BcAA5BSPAgBQPAhBTAACBAADyZZA0BaZA1Bw5BvBAgDwBvBAhDw",
  "BAACBAADBAAv-UBAAtuHBAAv+UBAA3iVBAAxiVBAACBAADBAACBAADBAACBAADBAA5hVBAA7-UBAA-hVBAA9hVCAACBAADCA",
  "ACBAADIBA-jVCAACBAADBAACBAADBAACBAADBAACBAADBAACBAADBAACBAADBAACBAADBAACBAADBAACBAADBAACBAADBAAC",
  "BAADBAACBAADBAACBAADBAACBAADBAACBAADBAACBAADBAACBAADBAACBAADBAACBAADBAACBAADBAACBAADBAACBAADBAAC",
  "BAADBAACBAADBAACBAADBAACBAADBAACBAADBAACBAADBAACBAADBAACBAADBAACBAADBAACBAADBAACBAADBAACBAADBAAC",
  "BAADBAACBAADBAACBAADBAACBAADBAACBAADBAACBAADBAACBAADBAACBAADBAACBAADBAACBAADBAACBAADBAACBAADBAAC",
  "BAADBAACBAADBAACBAADBAACBAADIAACBAADBAACBAADEAACBAADNlBAhmOnBAAhmOGAAhmOzoeAACBAADBAACBAADBAACBA",
  "ADBAACBAADBAACBAADBAACBAAn8kCBAACBAADBAACBAADBAACBAADBAACBAADBAACBAADBAACBAADBAACBAADBAACBAADBAA",
  "CBAADBAACBAADBAACBAADBAACBAADBAACBAADBAACBAADBAACBAADBAACBAADBAACBAADTAACBAADBAACBAADBAACBAADBAA",
  "CBAADBAACBAADBAACBAADBAACBAADBAACBAADBAACBAADBAACBAADBAACBAADBAACBAADBAACBAADBAACBAADnEAACBAADBA",
  "ACBAADBAACBAADBAACBAADBAACBAADBAACBAADBAACBAADDAACBAADBAACBAADBAACBAADBAACBAADBAACBAADBAACBAADBA",
  "ACBAADBAACBAADBAACBAADBAACBAADBAACBAADBAACBAADBAACBAADBAACBAADBAACBAADBAACBAADBAACBAADBAACBAADBA",
  "ACBAADBAACBAADBAACBAADBAACBAADBAACBAADBAACBAADBAACBAADBAACBAADBAACBAADBAACBAADBAACBAADBAACBAADBA",
  "ACBAADKAACBAADBAACBAADBAApglCBAACBAADBAACBAADBAACBAADBAACBAADBAACBAADEAACBAADBAAxyyCDAACBAADBAAC",
  "BAADBAAgDCAACBAADBAACBAADBAACBAADBAACBAADBAACBAADBAACBAADBAACBAADBAACBAADBAACBAADBAACBAADBAAp0yC",
  "BAA-0yCBAA30yCBAAj0yCBAAp0yCCAAlxyCBAA1yyCBAArxyCBAAg6BBAACBAADBAACBAADBAACBAADBAACBAADBAACBAADB",
  "AACBAADBAACBAADBAACBAADBAAhDBAAn0yCBAAxjlCBAACBAADBAACBAADGAACBAADFAACBAADBAACBAADcAACBAAD9aAAh6",
  "BdvCAh9rCx9UZAgCgBZAhC-lBnBAwCoBnBAxCoEjBAwCoBjBAxC4EKAuCMOAuCQGAuCIBAuCDKAvCMOAvCQGAvCIBAvCl2By",
  "BAgEgCyBAhEg-CfAgCgBfAhCgsVfAgCgBfAhCg1ehBAkCiBhBAlC"])

def foldingPairs : Array (Nat × Nat) :=
  foldingRuns.flatMap fun (start, count, stride, distance) =>
    ((List.range count).map fun index =>
      (start + index * stride, ((start + index * stride : Nat) + distance : Int).toNat)).toArray

def nextFold (code : Nat) : Nat :=
  let rec search (low high : Nat) : Nat → Nat
    | 0 => code
    | fuel + 1 =>
        if low < high then
          let middle := (low + high) / 2
          let pair := foldingPairs[middle]?.getD (code, code)
          if pair.1 = code then pair.2
          else if pair.1 < code then search (middle + 1) high fuel
          else search low middle fuel
        else code
  search 0 foldingPairs.size 20

def foldedWith (code : Nat) : List Nat :=
  -- No ring has more than four letters.
  let first := nextFold code
  let second := nextFold first
  let third := nextFold second
  ([first, second, third].filter (· ≠ code)).eraseDups

end TerminalScript.Unicode
