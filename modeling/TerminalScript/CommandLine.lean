/-!
The arguments of the command line: options with a value, one flag, and requests for information.
Each may be given once, and nothing else may be given.
-/

namespace TerminalScript

inductive Setting
  | scenario
  | sequence
  | report
  | captures
  | configuration
  deriving Inhabited, DecidableEq

namespace Setting

def named : List (String × Setting) :=
  [("scenario", scenario), ("sequence", sequence), ("report", report), ("captures", captures),
    ("config", configuration)]

def isPath : Setting → Bool
  | scenario => true
  | sequence => false
  | report => false
  | captures => true
  | configuration => true

end Setting

inductive CommandLineEnd
  | help
  | version
  | misuse
  deriving Inhabited, DecidableEq

structure CommandLine where
  scenario : String
  sequence : Option String := none
  report : Option String := none
  captures : Option String := none
  configuration : Option String := none
  verbose : Bool := false
  deriving Inhabited, DecidableEq

namespace CommandLine

structure Draft where
  values : List (Setting × String) := []
  verbose : Bool := false
  awaited : Option Setting := none
  deriving Inhabited, DecidableEq

inductive Token
  | terminator
  | long (name : String) (value : Option String)
  | short (letters : List Char)
  | plain (text : String)
  deriving Inhabited, DecidableEq

def Token.ofArgument (argument : String) : Token :=
  match argument.toList with
  | ['-', '-'] => terminator
  | '-' :: '-' :: rest =>
      let name := String.ofList (rest.takeWhile (· ≠ '='))
      match rest.dropWhile (· ≠ '=') with
      | _ :: value => long name (some (String.ofList value))
      | [] => long name none
  | '-' :: letter :: rest => short (letter :: rest)
  | chars => plain (String.ofList chars)

abbrev Reading := Except CommandLineEnd

namespace Draft

def settled (draft : Draft) : Reading Unit :=
  if draft.awaited.isSome then throw .misuse else pure ()

def put (setting : Setting) (value : String) (draft : Draft) : Reading Draft :=
  if (draft.values.lookup setting).isSome then throw .misuse
  else if setting.isPath && value = "" then throw .misuse
  else pure { draft with values := draft.values ++ [(setting, value)], awaited := none }

def setVerbose (draft : Draft) : Reading Draft :=
  if draft.verbose then throw .misuse else pure { draft with verbose := true }

def readLong (name : String) (value : Option String) (draft : Draft) : Reading Draft := do
  draft.settled
  match Setting.named.lookup name, value with
  | some setting, some value => draft.put setting value
  | some setting, none => pure { draft with awaited := some setting }
  | none, some _ => throw .misuse
  | none, none =>
      match name with
      | "verbose" => draft.setVerbose
      | "help" => throw .help
      | "version" => throw .version
      | _ => throw .misuse

def readLetter (draft : Draft) (letter : Char) : Reading Draft :=
  match letter with
  | 'v' => draft.setVerbose
  | 'h' => throw .help
  | 'V' => throw .version
  | _ => throw .misuse

def read (draft : Draft) : Token → Reading Draft
  | .terminator => throw .misuse
  | .long name value => draft.readLong name value
  | .short letters => do
      draft.settled
      letters.foldlM readLetter draft
  | .plain text =>
      match draft.awaited with
      | some setting => draft.put setting text
      | none => throw .misuse

def readAll (draft : Draft) : List Token → Reading Draft
  | [] => pure draft
  | [.terminator] => pure draft
  | token :: rest => do
      let draft ← draft.read token
      draft.readAll rest

def finish (environment : Option String) (draft : Draft) : Reading CommandLine := do
  draft.settled
  let configuration ← match draft.values.lookup .configuration, environment with
    | some path, _ => pure (some path)
    | none, some "" => throw .misuse
    | none, other => pure other
  match draft.values.lookup .scenario with
  | none => throw .misuse
  | some scenario =>
      pure
        { scenario
          sequence := draft.values.lookup .sequence
          report := draft.values.lookup .report
          captures := draft.values.lookup .captures
          configuration
          verbose := draft.verbose }

end Draft

def parse (arguments : List String) (environment : Option String) : Reading CommandLine := do
  let draft ← Draft.readAll {} (arguments.map Token.ofArgument)
  draft.finish environment

end CommandLine

end TerminalScript
