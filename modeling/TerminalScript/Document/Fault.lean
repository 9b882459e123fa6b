import TerminalScript.Json.Printer
import TerminalScript.Text.Quoted

/-!
Why a JSON value cannot be read as a value of some type.
-/

namespace TerminalScript.Document

open Json

inductive Fault
  | wrongType (found : Value) (expected : String)
  | wrongValue (found : Value) (expected : String)
  | wrongLength (length : Nat) (expected : String)
  | missingField (name : String)
  | unknownVariant (name : String) (variants : List String)
  deriving Inhabited

def describe : Value → String
  | .null => "null"
  | .boolean value => if value then "boolean `true`" else "boolean `false`"
  | .number (.real value) => "floating point `" ++ realText value ++ "`"
  | .number value => "integer `" ++ value.toText ++ "`"
  | .text value => "string " ++ Text.quoted value
  | .array _ => "sequence"
  | .object _ => "map"

def ticked (name : String) : String :=
  "`" ++ name ++ "`"

def oneOf : List String → String
  | [only] => ticked only
  | [first, second] => ticked first ++ " or " ++ ticked second
  | names => "one of " ++ separated ", " (names.map ticked)

def Fault.message : Fault → String
  | wrongType found expected => "invalid type: " ++ describe found ++ ", expected " ++ expected
  | wrongValue found expected => "invalid value: " ++ describe found ++ ", expected " ++ expected
  | wrongLength length expected =>
      "invalid length " ++ toString length ++ ", expected " ++ expected
  | missingField name => "missing field " ++ ticked name
  | unknownVariant name variants =>
      "unknown variant " ++ ticked name ++ ", expected " ++ oneOf variants

end TerminalScript.Document
