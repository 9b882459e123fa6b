import TerminalScript.Files.Path
import TerminalScript.Failure
import TerminalScript.Text.Utf8

/-!
A tree of files and directories, and the operations on it with their errors.
-/

namespace TerminalScript

inductive FileEntry
  | directory
  | file (content : List UInt8)
  deriving Inhabited, DecidableEq

structure Files where
  entries : List (List String × FileEntry)
  current : List String
  deriving Inhabited

namespace Files

abbrev Location := List String

def standard : Files :=
  { entries := [([], .directory), (["bin"], .directory), (["bin", "sh"], .file []),
      (["tmp"], .directory), (["tmp", "work"], .directory)]
    current := ["tmp", "work"] }

def entry? (files : Files) (location : Location) : Option FileEntry :=
  files.entries.lookup location

def put (files : Files) (location : Location) (entry : FileEntry) : Files :=
  { files with entries := files.entries.filter (·.1 ≠ location) ++ [(location, entry)] }

def nameLimit : Nat := 255

def pathLimit : Nat := 4095

def walk (files : Files) (location : Location) : List String → Except FileError Location
  | [] => .ok location
  | name :: rest =>
      if name = "." then files.walk location rest
      else if name = ".." then files.walk location.dropLast rest
      else if name.utf8ByteSize > nameLimit then .error .nameTooLong
      else
        let next := location ++ [name]
        match files.entry? next with
        | some .directory => files.walk next rest
        | some (.file _) => .error .notDirectory
        | none => .error .notFound

def locate (files : Files) (path : String) : Except FileError Location := do
  if path = "" then throw .notFound
  if path.toList.contains (Char.ofNat 0) then throw .nulInName
  if path.utf8ByteSize > pathLimit then throw .nameTooLong
  let names := Path.names path
  let start := if Path.isAbsolute path then [] else files.current
  let directory ← files.walk start names.dropLast
  match names.getLast? with
  | none => pure directory
  | some name =>
      if name = "." then pure directory
      else if name = ".." then pure directory.dropLast
      else if name.utf8ByteSize > nameLimit then throw .nameTooLong
      else pure (directory ++ [name])

def exists? (files : Files) (path : String) : Option FileEntry :=
  match files.locate path with
  | .ok location =>
      match files.entry? location with
      | some (.file content) => if Path.endsWithSlash path then none else some (.file content)
      | other => other
  | .error _ => none

def isDirectory (files : Files) (path : String) : Bool :=
  files.exists? path = some .directory

def makeDirectory (files : Files) (path : String) : Except FileError Files := do
  let location ← files.locate path
  match files.entry? location with
  | some _ => throw .alreadyExists
  | none => pure (files.put location .directory)

def makeDirectories (files : Files) (path : String) : Nat → Except FileError Unit × Files
  -- What was made stays if the rest cannot be.
  | 0 => (.error .notFound, files)
  | fuel + 1 =>
      if path = "" then (.ok (), files)
      else
        match files.makeDirectory path with
        | .ok made => (.ok (), made)
        | .error .notFound =>
            match Path.parent? path with
            | none => (.error .notFound, files)
            | some parent =>
                match files.makeDirectories parent fuel with
                | (.error error, above) => (.error error, above)
                | (.ok (), above) =>
                    match above.makeDirectory path with
                    | .ok made => (.ok (), made)
                    | .error error =>
                        (if above.isDirectory path then .ok () else .error error, above)
        | .error error => (if files.isDirectory path then .ok () else .error error, files)

def withDirectories (files : Files) (path : String) : Files :=
  (files.makeDirectories path (path.length + 1)).2

def createDirectories (files : Files) (path : String) : Except FileError Files :=
  (files.makeDirectories path (path.length + 1)).1.map fun _ => files.withDirectories path

def write (files : Files) (path : String) (content : List UInt8) : Except FileError Files := do
  let location ← files.locate path
  match files.entry? location with
  | some .directory => throw .isDirectory
  | some (.file _) =>
      if Path.endsWithSlash path then throw .notDirectory
      pure (files.put location (.file content))
  | none =>
      if Path.endsWithSlash path then throw .isDirectory
      pure (files.put location (.file content))

def read (files : Files) (path : String) : Except FileError (List UInt8) := do
  let location ← files.locate path
  match files.entry? location with
  | none => throw .notFound
  | some .directory => throw .isDirectory
  | some (.file content) =>
      if Path.endsWithSlash path then throw .notDirectory
      pure content

def readText (files : Files) (path : String) : Except FileError String := do
  let content ← files.read path
  match Text.decode? content with
  | some text => pure text
  | none => throw .badText

def list (files : Files) (path : String) : List (String × FileEntry) :=
  match files.locate path with
  | .ok location =>
      files.entries.filterMap fun (place, entry) =>
        if place.length = location.length + 1 ∧ place.dropLast = location then
          place.getLast?.map (·, entry)
        else none
  | .error _ => []

end Files

end TerminalScript
