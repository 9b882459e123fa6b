/-!
Paths as text: their names, the directory that holds them, and how two are joined.
-/

namespace TerminalScript.Path

def cut (separator : Char) (part : List Char) : List Char → List (List Char)
  | [] => [part.reverse]
  | c :: rest =>
      if c = separator then part.reverse :: cut separator [] rest
      else cut separator (c :: part) rest

def names (path : String) : List String :=
  ((cut '/' [] path.toList).filter (· ≠ [])).map String.ofList

def isAbsolute (path : String) : Bool :=
  path.toList.head? = some '/'

def endsWithSlash (path : String) : Bool :=
  path.toList.getLast? = some '/'

def join (directory name : String) : String :=
  if isAbsolute name then name
  else if directory = "" ∨ endsWithSlash directory then directory ++ name
  else directory ++ "/" ++ name

def trimEnd : List Char → List Char
  | ['/'] => ['/']
  | '/' :: rest => trimEnd rest
  | '.' :: '/' :: rest => trimEnd ('/' :: rest)
  | other => other
termination_by chars => chars.length

def parent? (path : String) : Option String :=
  let trimmed := trimEnd path.toList.reverse
  match trimmed with
  | [] => none
  | ['/'] => none
  | chars =>
      let rest := chars.dropWhile (· ≠ '/')
      some (String.ofList (trimEnd rest).reverse)

def extension? (name : String) : Option String :=
  let chars := name.toList.reverse
  let ending := chars.takeWhile (· ≠ '.')
  match chars.dropWhile (· ≠ '.') with
  | [] => none
  | ['.'] => none
  | _ => some (String.ofList ending.reverse)

end TerminalScript.Path
