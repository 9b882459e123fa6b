import TerminalScript.Command

/-!
Rehearsals: the command is run among surroundings that a JSON object describes. Its fields are the
files by their paths, the multiplexer's replies by sub-command, and the variables of the
environment.
-/

namespace TerminalScript.Rehearsal

open Json

def textOf (value : Value) : String :=
  value.text?.getD ""

def naturalOf : Value → Nat
  | .number (.natural value) => value.toNat
  | _ => 0

def integerOf : Value → Int
  | .number (.natural value) => value.toNat
  | .number (.negative value) => value.toInt
  | _ => 0

def fieldOf (value : Value) (name : String) : Value :=
  (value.field? name).getD .null

def fieldsOf : Value → List (String × Value)
  | .object fields => fields
  | _ => []

def itemsOf : Value → List Value
  | .array items => items
  | _ => []

def unhex : List Char → List UInt8
  | high :: low :: rest =>
      let digit (c : Char) : Nat := (hexValue? c).getD 0
      (digit high * 16 + digit low).toUInt8 :: unhex rest
  | _ => []

def bytes? : Value → Option (List UInt8)
  | .text text => some (Text.encode text)
  | .object fields =>
      match fields.lookup "hex", fields.lookup "repeat" with
      | some digits, _ => some (unhex (textOf digits).toList)
      | none, some part =>
          let times := naturalOf ((fields.lookup "times").getD .null)
          some (List.replicate times (Text.encode (textOf part))).flatten
      | none, none => none
  | _ => none

def bytes (value : Value) : List UInt8 :=
  (bytes? value).getD []

def content (value : Value) : List UInt8 :=
  (bytes? value).getD (Text.encode value.compact)

def addFile (files : Files) (path : String) (value : Value) : Files :=
  if Path.endsWithSlash path then (files.createDirectories path).toOption.getD files
  else
    let files := match Path.parent? path with
      | some parent => (files.createDirectories parent).toOption.getD files
      | none => files
    (files.write path (content value)).toOption.getD files

def files (described : Value) : Files :=
  (fieldsOf described).foldl (fun files (path, value) => addFile files path value) Files.standard

def reply (described : Value) : Tmux.Reply where
  exit := integerOf (fieldOf described "exit")
  stdout := bytes (fieldOf described "stdout")
  stderr := bytes (fieldOf described "stderr")

def script (described : Value) : Tmux.Script :=
  (fieldsOf described).map fun (name, replies) => (name, (itemsOf replies).map reply)

def deadProcess : Nat := 2147483647

def host (script : Tmux.Script) : Tmux.Host where
  reply := script.reply
  clock _ := 0
  draw _ := 0
  probe process := if process = deadProcess then .missing else .delivered

def scriptedProgram : String := "/bin/sh"

def surroundings (description : Value) : Command.Surroundings where
  files := files (fieldOf description "files")
  configuration := (fieldOf description "configEnv").text?
  program := (description.field? "script").map fun _ => scriptedProgram
  host := host (script (fieldOf description "script"))

end TerminalScript.Rehearsal
