/-!
JSON values. An object is a list of named fields; `Value.ofFields` keeps the names sorted and
gives each name the last value written for it.
-/

namespace TerminalScript.Json

inductive Number
  | natural (value : UInt64)
  | negative (value : Int64)
  | real (value : Float)
  deriving Inhabited

inductive Value
  | null
  | boolean (value : Bool)
  | number (value : Number)
  | text (value : String)
  | array (items : List Value)
  | object (fields : List (String × Value))
  deriving Inhabited

def insertField (name : String) (value : Value) : List (String × Value) → List (String × Value)
  | [] => [(name, value)]
  | (other, kept) :: rest =>
      if name < other then (name, value) :: (other, kept) :: rest
      else if name = other then (name, value) :: rest
      else (other, kept) :: insertField name value rest

def sortFields (fields : List (String × Value)) : List (String × Value) :=
  fields.foldl (fun sorted field => insertField field.1 field.2 sorted) []

namespace Value

def ofFields (fields : List (String × Value)) : Value :=
  object (sortFields fields)

def ofNat (value : Nat) : Value :=
  number (.natural value.toUInt64)

def ofTexts (texts : List String) : Value :=
  array (texts.map text)

def field? (name : String) : Value → Option Value
  | object fields => fields.lookup name
  | _ => none

def text? : Value → Option String
  | text value => some value
  | _ => none

end Value

def optionalField {α : Type} (name : String) (encode : α → Value) :
    Option α → List (String × Value)
  | none => []
  | some value => [(name, encode value)]

end TerminalScript.Json
