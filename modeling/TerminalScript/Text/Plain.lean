/-!
Text without its escape sequences and control characters. Only line breaks and tabs survive among
the control characters.
-/

namespace TerminalScript.Text

def escape : Char := Char.ofNat 27

def bell : Char := Char.ofNat 7

def isControl (c : Char) : Bool :=
  c.val < 32 || (127 ≤ c.val && c.val < 160)

def afterControlSequence : List Char → List Char
  | [] => []
  | c :: rest => if '@' ≤ c ∧ c ≤ '~' then rest else afterControlSequence rest

def afterControlString : List Char → List Char
  | [] => []
  | c :: rest =>
      if c = bell then rest
      else if c = escape ∧ rest.head? = some '\\' then rest.tail
      else afterControlString rest

theorem afterControlSequence_length_le (chars : List Char) :
    (afterControlSequence chars).length ≤ chars.length := by
  induction chars with
  | nil => simp [afterControlSequence]
  | cons c rest ih =>
      simp only [afterControlSequence]
      split
      · simp
      · simp only [List.length_cons]
        omega

theorem afterControlString_length_le (chars : List Char) :
    (afterControlString chars).length ≤ chars.length := by
  induction chars with
  | nil => simp [afterControlString]
  | cons c rest ih =>
      simp only [afterControlString]
      split
      · simp
      · split <;> simp <;> omega

inductive Introducer
  | controlSequence
  | controlString
  | charset
  | other
  deriving DecidableEq

def introducer (c : Char) : Introducer :=
  match c with
  | '[' => .controlSequence
  | ']' => .controlString
  | 'P' => .controlString
  | 'X' => .controlString
  | '^' => .controlString
  | '_' => .controlString
  | '(' => .charset
  | ')' => .charset
  | '*' => .charset
  | '+' => .charset
  | _ => .other

def afterEscape : List Char → List Char
  | [] => []
  | c :: rest =>
      match introducer c with
      | .controlSequence => afterControlSequence rest
      | .controlString => afterControlString rest
      | .charset => rest.tail
      | .other => rest

theorem afterEscape_length_le (chars : List Char) :
    (afterEscape chars).length ≤ chars.length := by
  cases chars with
  | nil => simp [afterEscape]
  | cons c rest =>
      have sequence := afterControlSequence_length_le rest
      have string := afterControlString_length_le rest
      simp only [afterEscape]
      split <;> simp <;> omega

def isKept (c : Char) : Bool :=
  c = '\n' || c = '\t' || !isControl c

def plainChars (kept : List Char) (chars : List Char) : List Char :=
  match chars with
  | [] => kept.reverse
  | c :: rest =>
      if c = escape then plainChars kept (afterEscape rest)
      else plainChars (if isKept c then c :: kept else kept) rest
termination_by chars.length
decreasing_by
  · have shorter := afterEscape_length_le rest
    simp only [List.length_cons]
    omega
  · simp

def plain (text : String) : String :=
  String.ofList (plainChars [] text.toList)

end TerminalScript.Text
