import TerminalScript.Pattern.CharSet
import TerminalScript.Unicode.Category
import TerminalScript.Unicode.Script
import TerminalScript.Unicode.Boundary
import TerminalScript.Unicode.Property

/-!
Character sets by name: categories, scripts and other properties of the standard, and the classes
of ASCII. Names are compared without case, blanks, underscores and hyphens.
-/

namespace TerminalScript.Pattern

open Unicode

def digits : CharSet :=
  (categories.select fun kind => (categoryNames[kind]?.getD []).contains "nd").toList

def blanks : CharSet :=
  whiteSpace.toList

def wordChars : CharSet :=
  let kinds := ["mc", "me", "mn", "nd", "pc"]
  let parts := categories.select fun kind =>
    kinds.any fun name => (categoryNames[kind]?.getD []).contains name
  CharSet.normalize (alphabetic.toList ++ parts.toList ++ joinControl.toList)

def asciiDigits : CharSet :=
  CharSet.between '0' '9'

def asciiBlanks : CharSet :=
  [(9, 14), (32, 33)]

def asciiWordChars : CharSet :=
  [(48, 58), (65, 91), (95, 96), (97, 123)]

def asciiClasses : List (String × CharSet) :=
  [("alnum", [(48, 58), (65, 91), (97, 123)]), ("alpha", [(65, 91), (97, 123)]),
    ("ascii", [(0, 128)]), ("blank", [(9, 10), (32, 33)]), ("cntrl", [(0, 32), (127, 128)]),
    ("digit", asciiDigits), ("graph", [(33, 127)]), ("lower", [(97, 123)]), ("print", [(32, 127)]),
    ("punct", [(33, 48), (58, 65), (91, 97), (123, 127)]), ("space", asciiBlanks),
    ("upper", [(65, 91)]), ("word", asciiWordChars), ("xdigit", [(48, 58), (65, 71), (97, 103)])]

def normalizeName (name : String) : String :=
  -- A leading "is" does not count, unless only "c" would be left.
  let chars := name.toList
  let lower := chars.map Char.toLower
  let isPrefixed := ['i', 's'].isPrefixOf lower
  let kept := (if isPrefixed then lower.drop 2 else lower).filter fun c =>
    c ≠ ' ' && c ≠ '_' && c ≠ '-' && c.toNat < 128
  if isPrefixed && kept = ['c'] then "isc" else String.ofList kept

def indexOfName? (names : List (List String)) (name : String) : Option Nat :=
  names.findIdx? fun aliases => aliases.contains name

def categorySet? (name : String) : Option CharSet :=
  match name with
  | "any" => some CharSet.all
  | "ascii" => some [(0, 128)]
  | "assigned" =>
      some (categories.select fun kind => !(categoryNames[kind]?.getD []).contains "cn").toList
  | _ =>
      match indexOfName? categoryNames name with
      | some index => some (categories.select fun kind => kind = index).toList
      | none =>
          (categoryGroups.find? fun group => group.1.contains name).map fun group =>
            (categories.select fun kind =>
              group.2.any fun member => (categoryNames[kind]?.getD []).contains member).toList

def scriptIndex? (name : String) : Option Nat := do
  let index ← indexOfName? scriptNames name
  let aliases := scriptNames[index]?.getD []
  if aliases.contains "unknown" || aliases.contains "katakanaorhiragana" then none else some index

def scriptSet? (name : String) : Option CharSet :=
  (scriptIndex? name).map fun index => (scripts.select fun kind => kind = index).toList

def scriptUseSet? (name : String) : Option CharSet :=
  (scriptIndex? name).map fun index =>
    (scriptUses.select fun kind => (scriptSets[kind]?.getD []).contains index).toList

def classSet? (partition : Partition) (names : List (List String)) (name : String) :
    Option CharSet :=
  (indexOfName? names name).map fun index => (partition.select fun kind => kind = index).toList

def ageSet? (name : String) : Option CharSet := do
  let index ← indexOfName? ageNames name
  if (ageNames[index]?.getD []).contains "unassigned" then none
  else some (ages.select fun kind => kind ≤ index).toList

def propertySet? (name : String) : Option CharSet :=
  (indexOfName? propertyNames name).map fun index => (properties[index]?.getD #[]).toList

def namedSet? (name : String) : Option CharSet :=
  let name := normalizeName name
  (propertySet? name).orElse fun _ => (categorySet? name).orElse fun _ => scriptSet? name

def valueSet? (property value : String) : Option CharSet :=
  let value := normalizeName value
  match normalizeName property with
  | "gc" => categorySet? value
  | "generalcategory" => categorySet? value
  | "sc" => scriptSet? value
  | "script" => scriptSet? value
  | "scx" => scriptUseSet? value
  | "scriptextensions" => scriptUseSet? value
  | "age" => ageSet? value
  | "gcb" => classSet? graphemes graphemeNames value
  | "graphemeclusterbreak" => classSet? graphemes graphemeNames value
  | "wb" => classSet? words wordNames value
  | "wordbreak" => classSet? words wordNames value
  | "sb" => classSet? sentences sentenceNames value
  | "sentencebreak" => classSet? sentences sentenceNames value
  | _ => none

end TerminalScript.Pattern
