import TerminalScript.Document.Fault

/-!
Reading typed values. A `Record` describes an object field by field and reads it in either of its
two forms: as an object, whose known fields are checked in name order before any missing field is
noticed, or as an array with the fields in the order of the description.
-/

namespace TerminalScript.Document

open Json

abbrev Reader (α : Type) := Value → Except Fault α

def text : Reader String
  | .text value => .ok value
  | other => .error (.wrongType other "a string")

def path : Reader String
  | .text value => .ok value
  | other => .error (.wrongType other "path string")

def boolean : Reader Bool
  | .boolean value => .ok value
  | other => .error (.wrongType other "a boolean")

def unsigned (expected : String) (limit : Nat) : Reader Nat
  | .number (.natural value) =>
      if value.toNat < limit then .ok value.toNat
      else .error (.wrongValue (.number (.natural value)) expected)
  | .number (.negative value) => .error (.wrongValue (.number (.negative value)) expected)
  | other => .error (.wrongType other expected)

def word64 (expected : String) : Reader UInt64
  | .number (.natural value) => .ok value
  | .number (.negative value) => .error (.wrongValue (.number (.negative value)) expected)
  | other => .error (.wrongType other expected)

def milliseconds : Reader UInt64 :=
  word64 "u64"

def count : Reader UInt64 :=
  word64 "usize"

def word16 : Reader UInt16 :=
  fun value => (unsigned "u16" UInt16.size value).map Nat.toUInt16

def word32 : Reader UInt32 :=
  fun value => (unsigned "u32" UInt32.size value).map Nat.toUInt32

def integer32 : Reader Int32
  | .number (.natural value) =>
      if value.toNat < 0x80000000 then .ok (Int32.ofInt value.toNat)
      else .error (.wrongValue (.number (.natural value)) "i32")
  | .number (.negative value) =>
      if -0x80000000 ≤ value.toInt then .ok (Int32.ofInt value.toInt)
      else .error (.wrongValue (.number (.negative value)) "i32")
  | other => .error (.wrongType other "i32")

def list {α : Type} (item : Reader α) : Reader (List α)
  | .array items => items.mapM item
  | other => .error (.wrongType other "a sequence")

def fields : Reader (List (String × Value))
  | .object fields => .ok fields
  | other => .error (.wrongType other "a map")

def nullable {α : Type} (reader : Reader α) : Reader (Option α)
  | .null => .ok none
  | value => (reader value).map some

/-- One of some names, alone or as the only field of an object that holds `null`; where `loose`,
the object may also hold an empty object. -/
def choice {α : Type} (loose : Bool) (variants : List (String × α)) : Reader α
  | .text name => find name
  | .object [(name, content)] => do
      let value ← find name
      match content with
      | .null => pure value
      | .object [] => if loose then pure value else throw (.wrongType content "unit")
      | _ => throw (.wrongType content "unit")
  | .object fields => .error (.wrongValue (.object fields) "map with a single key")
  | other => .error (.wrongType other "string or map")
where
  find (name : String) : Except Fault α :=
    match variants.lookup name with
    | some value => .ok value
    | none => .error (.unknownVariant name (variants.map (·.1)))

structure Source where
  lookup : String → Option Value
  missing : String → Fault
  ordered : Bool

structure Record (α : Type) where
  checks : List (String × (Value → Except Fault Unit))
  build : Source → Except Fault α

namespace Record

def combine {α β : Type} (functions : Record (α → β)) (arguments : Record α) : Record β where
  checks := functions.checks ++ arguments.checks
  build source := do
    let function ← functions.build source
    let argument ← arguments.build source
    pure (function argument)

instance : Applicative Record where
  pure value := ⟨[], fun _ => .ok value⟩
  seq functions arguments := combine functions (arguments ())

def check {α : Type} (reader : Reader α) (value : Value) : Except Fault Unit :=
  (reader value).map fun _ => ()

def required {α : Type} (name : String) (reader : Reader α) : Record α where
  checks := [(name, check reader)]
  build source :=
    match source.lookup name with
    | some value => reader value
    | none => .error (source.missing name)

def defaulted {α : Type} (name : String) (reader : Reader α) (default : α) : Record α where
  checks := [(name, check reader)]
  build source :=
    match source.lookup name with
    | some value => reader value
    | none => .ok default

def optional {α : Type} (name : String) (reader : Reader α) : Record (Option α) :=
  defaulted name (nullable reader) none

/-- A field that an object may lack, but an array must have. -/
def expected {α : Type} (name : String) (reader : Reader α) : Record (Option α) where
  checks := [(name, check (nullable reader))]
  build source :=
    match source.lookup name with
    | some value => nullable reader value
    | none => if source.ordered then .error (source.missing name) else .ok none

variable {α : Type} (record : Record α)

def checkFields (fields : List (String × Value)) : Except Fault Unit :=
  fields.forM fun (name, value) =>
    match record.checks.lookup name with
    | some check => check value
    | none => .ok ()

def readFields (fields : List (String × Value)) : Except Fault α := do
  record.checkFields fields
  record.build ⟨fun name => fields.lookup name, .missingField, false⟩

def names : List String :=
  record.checks.map (·.1)

def elementCount (name : String) : String :=
  let count := record.checks.length
  "struct " ++ name ++ " with " ++ toString count ++ (if count = 1 then " element" else " elements")

def readItems (name : String) (items : List Value) : Except Fault α := do
  let named := record.names.zip items
  let missing (field : String) : Fault :=
    .wrongLength (record.names.idxOf field) (record.elementCount name)
  let value ← record.build ⟨fun field => named.lookup field, missing, true⟩
  if items.length > record.checks.length then
    throw (.wrongLength items.length "fewer elements in array")
  pure value

def read (name : String) : Reader α
  | .object fields => record.readFields fields
  | .array items => record.readItems name items
  | other => .error (.wrongType other ("struct " ++ name))

end Record

end TerminalScript.Document
