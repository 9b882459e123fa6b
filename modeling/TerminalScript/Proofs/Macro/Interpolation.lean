import Mathlib.Data.List.TakeWhile
import TerminalScript.Proofs.Macro.Placeholder

/-!
What a text says to the scanner. Every text is made of literal pieces with placeholders between
them; the placeholders are found, whatever the literals end in, and each is replaced where it
stands. What is put in its place is not looked at again.
-/

namespace TerminalScript.Placeholder

open Json

def written (name : String) : String :=
  "$\x7b" ++ name ++ "\x7d"

def IsName (name : String) : Prop :=
  name.toList ≠ [] ∧ ∀ c ∈ name.toList, isNameChar c = true

/-- No complete placeholder stands anywhere in a literal. -/
def IsLiteral (literal : String) : Prop :=
  ∀ name, IsName name → ¬(written name).toList <:+: literal.toList

inductive Template
  | ends (literal : String)
  | holds (literal name : String) (rest : Template)

namespace Template

def Proper : Template → Prop
  | ends literal => IsLiteral literal
  | holds literal name rest => IsLiteral literal ∧ IsName name ∧ rest.Proper

def render (write : String → String) : Template → String
  | ends literal => literal
  | holds literal name rest => literal ++ write name ++ rest.render write

def text (template : Template) : String :=
  template.render written

def insertion (arguments : Arguments) (name : String) : String :=
  match arguments.lookup name with
  | some value => argumentText value
  | none => written name

def filled (arguments : Arguments) (template : Template) : String :=
  template.render (insertion arguments)

def pieces : Template → List Piece
  | ends literal => literal.toList.map .char
  | holds literal name rest => literal.toList.map .char ++ .name name.toList :: rest.pieces

end Template

variable {arguments : Arguments} {name literal : String} {value : Value}

theorem toList_written (name : String) :
    (written name).toList = '$' :: '\x7b' :: (name.toList ++ ['\x7d']) := by
  simp [written]

/-- A complete placeholder takes four characters at least. -/
theorem isLiteral_of_short (short : literal.toList.length < 4) : IsLiteral literal := by
  intro name isName found
  have named := List.length_pos_iff.mpr isName.1
  have within := found.length_le
  rw [toList_written] at within
  simp only [List.length_cons, List.length_append, List.length_nil] at within
  omega

theorem read?_of_name (isName : IsName name) (rest : List Char) :
    read? ('\x7b' :: (name.toList ++ '\x7d' :: rest)) = some (name.toList, rest) := by
  obtain ⟨nonempty, chars⟩ := isName
  have closing : isNameChar '\x7d' = false := by decide
  have taken : (name.toList ++ '\x7d' :: rest).takeWhile isNameChar = name.toList := by
    rw [List.takeWhile_append_of_pos chars, List.takeWhile_cons_of_neg (by simp [closing]),
      List.append_nil]
  have dropped : (name.toList ++ '\x7d' :: rest).dropWhile isNameChar = '\x7d' :: rest := by
    rw [List.dropWhile_append_of_pos chars, List.dropWhile_cons_of_neg (by simp [closing])]
  obtain ⟨first, others, same⟩ := List.exists_cons_of_ne_nil nonempty
  simp only [read?, taken, dropped]
  rw [same]
  rfl

theorem read?_eq_some {chars found rest : List Char} (read : read? chars = some (found, rest)) :
    ∃ name, IsName name ∧ found = name.toList ∧
      chars = '\x7b' :: (name.toList ++ '\x7d' :: rest) := by
  unfold read? at read
  split at read
  · rename_i tail
    split at read
    · rename_i first others remaining taken dropped
      obtain ⟨rfl, rfl⟩ := Prod.mk.inj (Option.some.inj read)
      have whole := List.takeWhile_append_dropWhile (p := isNameChar) (l := tail)
      have chars : ∀ c ∈ first :: others, isNameChar c = true := fun c member =>
        List.mem_takeWhile_imp (taken.symm ▸ member)
      rw [taken, dropped] at whole
      refine ⟨String.ofList (first :: others), ⟨by simp, by simpa using chars⟩, by simp, ?_⟩
      rw [String.toList_ofList, whole]
    · cases read
  · cases read

theorem pieces_of_read {rest found after : List Char} (read : read? rest = some (found, after)) :
    pieces ('$' :: rest) = .name found :: pieces after := by
  rw [pieces, if_pos rfl]
  split
  · rename_i read'
    cases read.symm.trans read'
    rfl
  · rename_i unread
    cases read.symm.trans unread

theorem pieces_of_unread {first : Char} {rest : List Char}
    (unread : first = '$' → read? rest = none) :
    pieces (first :: rest) = .char first :: pieces rest := by
  rw [pieces]
  split
  · rename_i dollar
    split
    · rename_i read
      cases (unread dollar).symm.trans read
    · rw [dollar]
  · rfl

theorem pieces_written (isName : IsName name) (rest : List Char) :
    pieces ((written name).toList ++ rest) = .name name.toList :: pieces rest := by
  rw [toList_written, List.cons_append, List.cons_append, List.append_assoc]
  exact pieces_of_read (read?_of_name isName rest)

/-- A placeholder that begins in a literal would have to end there, since what follows the literal
is another placeholder or nothing. -/
theorem pieces_literal (isLiteral : IsLiteral literal) (rest : List Char)
    (next : ∀ c, rest.head? = some c → c = '$') :
    pieces (literal.toList ++ rest) = literal.toList.map .char ++ pieces rest := by
  unfold IsLiteral at isLiteral
  generalize literal.toList = chars at isLiteral ⊢
  induction chars with
  | nil => rfl
  | cons first others ih =>
      have later : ∀ name, IsName name → ¬(written name).toList <:+: others :=
        fun name isName found => isLiteral name isName (List.infix_cons found)
      rw [List.cons_append, List.map_cons, List.cons_append, ← ih later]
      apply pieces_of_unread
      rintro rfl
      by_contra found
      obtain ⟨⟨name, after⟩, read⟩ := Option.ne_none_iff_exists'.mp found
      obtain ⟨name, isName, rfl, same⟩ := read?_eq_some read
      have own : ('\x7b' :: (name.toList ++ ['\x7d'])) ++ after = others ++ rest := by
        simp [same]
      rcases List.append_eq_append_iff.mp own with ⟨left, rfl, _⟩ | ⟨left, split, continued⟩
      · refine isLiteral name isName ⟨[], left, ?_⟩
        simp [toList_written]
      · cases left with
        | nil =>
            refine isLiteral name isName ⟨[], [], ?_⟩
            simp_all [toList_written]
        | cons c left =>
            obtain rfl := next c (by simp [continued])
            have inside : '$' ∈ '\x7b' :: (name.toList ++ ['\x7d']) := by simp [split]
            have inName : '$' ∈ name.toList := by simpa using inside
            exact absurd (isName.2 _ inName) (by decide)

namespace Template

theorem pieces_text {template : Template} (proper : template.Proper) :
    Placeholder.pieces template.text.toList = template.pieces := by
  induction template with
  | ends literal =>
      have alone := pieces_literal proper [] (by simp)
      rwa [List.append_nil, Placeholder.pieces, List.append_nil] at alone
  | holds literal name rest ih =>
      obtain ⟨isLiteral, isName, later⟩ := proper
      rw [text, render, String.toList_append, String.toList_append, List.append_assoc,
        pieces_literal isLiteral, pieces_written isName, pieces]
      · rw [← ih later, text]
      · simp [toList_written]

theorem chars_pieces (arguments : Arguments) (template : Template) :
    template.pieces.flatMap (Piece.chars arguments) = (template.filled arguments).toList := by
  have literally (literal : String) :
      (literal.toList.map Piece.char).flatMap (Piece.chars arguments) = literal.toList := by
    rw [List.flatMap_map]
    exact List.flatMap_singleton' literal.toList
  induction template with
  | ends literal => exact literally literal
  | holds literal name rest ih =>
      have inserted : Piece.chars arguments (.name name.toList) =
          (insertion arguments name).toList := by
        rw [Piece.chars, String.ofList_toList, insertion]
        cases arguments.lookup name with
        | some value => rfl
        | none => exact (toList_written name).symm
      rw [pieces, List.flatMap_append, List.flatMap_cons, literally, ih, inserted]
      simp [filled, render]

def prepend (c : Char) : Template → Template
  | ends literal => ends (c.toString ++ literal)
  | holds literal name rest => holds (c.toString ++ literal) name rest

theorem text_prepend (c : Char) (template : Template) :
    (template.prepend c).text.toList = c :: template.text.toList := by
  cases template <;> simp [prepend, text, render]

theorem isLiteral_prepend (c : Char) (rest : List Char) (isLiteral : IsLiteral literal)
    (unread : c = '$' → read? (literal.toList ++ rest) = none) :
    IsLiteral (c.toString ++ literal) := by
  intro name isName found
  have found : (written name).toList <:+: c :: literal.toList := by simpa using found
  rcases List.infix_cons_iff.mp found with ⟨left, same⟩ | later
  · rw [toList_written, List.cons_append, List.cons.injEq] at same
    obtain ⟨rfl, same⟩ := same
    have read := read?_of_name isName (left ++ rest)
    have whole : literal.toList ++ rest = '\x7b' :: (name.toList ++ '\x7d' :: (left ++ rest)) := by
      simp [← same]
    rw [← whole, unread rfl] at read
    cases read
  · exact isLiteral name isName later

theorem proper_prepend {c : Char} {template : Template} (proper : template.Proper)
    (unread : c = '$' → read? template.text.toList = none) : (template.prepend c).Proper := by
  cases template with
  | ends literal =>
      refine isLiteral_prepend c [] proper fun dollar => ?_
      simpa [text, render] using unread dollar
  | holds literal name rest =>
      have whole := isLiteral_prepend c (written name ++ rest.text).toList proper.1
      refine ⟨whole fun dollar => ?_, proper.2⟩
      simpa [text, render] using unread dollar

theorem exists_chars (chars : List Char) :
    ∃ template : Template, template.Proper ∧ template.text.toList = chars := by
  -- The cases are those of the scan, which finds the placeholders of the template.
  induction chars using Placeholder.pieces.induct with
  | case1 => exact ⟨.ends "", isLiteral_of_short (by decide), rfl⟩
  | case2 rest found after read ih =>
      obtain ⟨template, proper, same⟩ := ih
      obtain ⟨name, isName, rfl, whole⟩ := read?_eq_some read
      refine ⟨.holds "" name template, ⟨isLiteral_of_short (by decide), isName, proper⟩, ?_⟩
      rw [whole, ← same]
      simp [text, render, toList_written]
  | case3 rest unread ih =>
      obtain ⟨template, proper, same⟩ := ih
      exact ⟨template.prepend '$', proper_prepend proper fun _ => same ▸ unread,
        by rw [text_prepend, same]⟩
  | case4 c rest other ih =>
      obtain ⟨template, proper, same⟩ := ih
      exact ⟨template.prepend c, proper_prepend proper fun dollar => absurd dollar other,
        by rw [text_prepend, same]⟩

theorem exists_text (text : String) :
    ∃ template : Template, template.Proper ∧ template.text = text := by
  obtain ⟨template, proper, same⟩ := exists_chars text.toList
  exact ⟨template, proper, String.toList_inj.mp same⟩

theorem filled_nil (template : Template) : template.filled [] = template.text := by
  rfl

theorem isName_of_mem_pieces {template : Template} (proper : template.Proper) {chars : List Char}
    (member : .name chars ∈ template.pieces) : IsName (String.ofList chars) := by
  induction template with
  | ends literal => simp [pieces] at member
  | holds literal name rest ih =>
      obtain ⟨_, isName, later⟩ := proper
      have among : chars = name.toList ∨ .name chars ∈ rest.pieces := by
        simpa [pieces] using member
      rcases among with rfl | within
      · rwa [String.ofList_toList]
      · exact ih later within

/-- A template of one piece, which is a placeholder, is that placeholder as it is written. -/
theorem text_of_pieces {template : Template} {chars : List Char}
    (alone : template.pieces = [.name chars]) : template.text = written (String.ofList chars) := by
  have whole := chars_pieces [] template
  rw [alone, filled_nil] at whole
  rw [← String.toList_inj, ← whole, toList_written]
  simp [Piece.chars]

end Template

theorem substitute_written (isName : IsName name) (given : arguments.lookup name = some value) :
    substitute arguments (.text (written name)) = value := by
  have alone := pieces_written isName []
  rw [List.append_nil, pieces] at alone
  rw [substitute, substituteText, alone]
  simp [given]

theorem substitute_template {template : Template} (proper : template.Proper)
    (several : ∀ name value, IsName name → template.text = written name →
      arguments.lookup name ≠ some value) :
    substitute arguments (.text template.text) = .text (template.filled arguments) := by
  rw [substitute, substituteText, Template.pieces_text proper, Template.chars_pieces,
    String.ofList_toList]
  split
  · rename_i value found
    split at found
    · rename_i chars alone
      have isName := Template.isName_of_mem_pieces proper (alone ▸ List.mem_singleton_self _)
      exact absurd found (several _ value isName (Template.text_of_pieces alone))
    · cases found
  · rfl

mutual

theorem substitute_nil : ∀ value : Value, substitute [] value = value
  | .text text => by
      obtain ⟨template, proper, rfl⟩ := Template.exists_text text
      rw [substitute_template proper (by simp), Template.filled_nil]
  | .array items => by rw [substitute, substituteItems_nil]
  | .object fields => by rw [substitute, substituteFields_nil]
  | .null => rfl
  | .boolean _ => rfl
  | .number _ => rfl

theorem substituteItems_nil : ∀ items : List Value, substituteItems [] items = items
  | [] => rfl
  | item :: rest => by rw [substituteItems, substitute_nil item, substituteItems_nil rest]

theorem substituteFields_nil :
    ∀ fields : List (String × Value), substituteFields [] fields = fields
  | [] => rfl
  | (name, value) :: rest => by
      rw [substituteFields, substitute_nil value, substituteFields_nil rest]

end

/-- Every text is a template. A placeholder alone gives the value of its argument; in any other
text each placeholder is replaced where it stands. Elements and fields are filled one by one, and
without arguments nothing is changed. -/
theorem substitute_in_place (arguments : Arguments) :
    (∀ text, ∃ template : Template, template.Proper ∧ template.text = text) ∧
    (∀ name value, IsName name → arguments.lookup name = some value →
      substitute arguments (.text (written name)) = value) ∧
    (∀ template : Template, template.Proper →
      (∀ name value, IsName name → template.text = written name →
        arguments.lookup name ≠ some value) →
      substitute arguments (.text template.text) = .text (template.filled arguments)) ∧
    (∀ items, substitute arguments (.array items) = .array (items.map (substitute arguments))) ∧
    (∀ fields, substitute arguments (.object fields) =
      .object (fields.map fun field => (field.1, substitute arguments field.2))) ∧
    substitute arguments .null = .null ∧
    (∀ flag, substitute arguments (.boolean flag) = .boolean flag) ∧
    (∀ number, substitute arguments (.number number) = .number number) ∧
    ∀ value, substitute [] value = value := by
  refine ⟨Template.exists_text, fun name value => substitute_written,
    fun template => substitute_template, fun items => ?_, fun fields => ?_, rfl, fun flag => rfl,
    fun number => rfl, substitute_nil⟩
  · rw [substitute, substituteItems_eq_map]
  · rw [substitute, substituteFields_eq_map]

/-- Literals that end like the beginning of a placeholder, an argument that looks like one, and a
name without an argument. -/
theorem substitute_in_place_of_badge :
    let arguments := [("user", Value.text "${role}"), ("n", .ofNat 3)]
    let badge := Template.holds "$" "user" (.holds "$\x7b" "role" (.holds ": " "n" (.ends "$")))
    badge.Proper ∧ badge.text = "$${user}$\x7b${role}: ${n}$" ∧
      substitute arguments (.text "$${user}$\x7b${role}: ${n}$") =
        .text "$${role}$\x7b${role}: 3$" ∧
      substitute arguments (.text "${n}") = .ofNat 3 := by
  intro arguments badge
  obtain ⟨user, role, n⟩ : IsName "user" ∧ IsName "role" ∧ IsName "n" := by
    simp [IsName, isNameChar, Pattern.isWordChar]
  have proper : badge.Proper :=
    ⟨isLiteral_of_short (by decide), user, isLiteral_of_short (by decide), role,
      isLiteral_of_short (by decide), n, isLiteral_of_short (by decide)⟩
  have text : badge.text = "$${user}$\x7b${role}: ${n}$" := by decide
  obtain ⟨_, alone, mixed, _⟩ := substitute_in_place arguments
  have several : ∀ name, badge.text ≠ written name := by
    intro name same
    have second := congrArg (fun text => text.toList[1]?) (text.symm.trans same)
    rw [toList_written] at second
    cases second
  have filled := mixed badge proper fun name value _ same => absurd same (several name)
  refine ⟨proper, text, ?_, alone "n" _ n rfl⟩
  rw [← text, filled]
  rfl

end TerminalScript.Placeholder
