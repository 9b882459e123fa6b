import TerminalScript.Json.Parser
import TerminalScript.Json.Printer

/-!
Objects of texts, written and read. Whatever characters a text has, reading its string gives it
back, and reading an object of texts whose names ascend gives that object.
-/

namespace TerminalScript.Json

theorem hexValue?_hexDigit (value : Nat) : hexValue? (hexDigit value) = some (value % 16) := by
  have digits : ∀ digit < 16, hexValue? (Nat.digitChar digit) = some digit := by decide
  exact digits (value % 16) (Nat.mod_lt _ (by decide))

theorem unicodeEscape?_hex {c : Char} (low : c.toNat < 32) (rest : List Char) :
    unicodeEscape? ('0' :: '0' :: hexDigit (c.toNat / 16) :: hexDigit c.toNat :: rest) =
      some (c, rest) := by
  have zero : hexValue? '0' = some 0 := by decide
  have unit : ((0 * 16 + 0) * 16 + c.toNat / 16 % 16) * 16 + c.toNat % 16 = c.toNat := by omega
  have four : hexFour? ('0' :: '0' :: hexDigit (c.toNat / 16) :: hexDigit c.toNat :: rest) =
      some (c.toNat, rest) := by
    simp only [hexFour?, zero, hexValue?_hexDigit, bind, Option.bind, pure, unit]
  rw [unicodeEscape?, four]
  change (if 0xD800 ≤ c.toNat ∧ c.toNat < 0xDC00 then _ else _) = _
  rw [if_neg (by omega), if_neg (by omega), Char.ofNat_toNat]
  rfl

/-- Reading takes the written form of a character as that character. -/
theorem stringTail?_escapeChar (read : List Char) (fuel : Nat) (c : Char) (rest : List Char) :
    stringTail? read (fuel + 1) (escapeChar c ++ rest) = stringTail? (c :: read) fuel rest := by
  unfold escapeChar
  split
  · simp [stringTail?, simpleEscape?]
  · simp [stringTail?, simpleEscape?]
  · simp [stringTail?, simpleEscape?]
  · simp [stringTail?, simpleEscape?]
  · simp [stringTail?, simpleEscape?]
  · rename_i unquoted unslashed _ _ _
    have unquoted : c ≠ '"' := unquoted
    have unslashed : c ≠ '\\' := unslashed
    split
    · rename_i backspace
      obtain rfl : c = Char.ofNat 8 := Char.ext backspace
      simp [stringTail?, simpleEscape?]
    split
    · rename_i feed
      obtain rfl : c = Char.ofNat 12 := Char.ext feed
      simp [stringTail?, simpleEscape?]
    split
    · rename_i low
      have low : c.toNat < 32 := low
      simp [stringTail?, unicodeEscape?_hex low]
    · rename_i shown
      simp [stringTail?, unquoted, unslashed, shown]

theorem stringTail?_text (chars read rest : List Char) {fuel : Nat} (enough : chars.length < fuel) :
    stringTail? read fuel (chars.flatMap escapeChar ++ '"' :: rest) =
      some (String.ofList (read.reverse ++ chars), rest) := by
  induction chars generalizing read fuel with
  | nil =>
      obtain ⟨fuel, rfl⟩ := Nat.exists_eq_add_one.mpr enough
      simp [stringTail?]
  | cons c chars ih =>
      obtain ⟨fuel, rfl⟩ := Nat.exists_eq_add_one.mpr (Nat.zero_lt_of_lt enough)
      rw [List.flatMap_cons, List.append_assoc, stringTail?_escapeChar,
        ih (c :: read) (Nat.lt_of_succ_lt_succ enough)]
      simp

theorem escapeChar_ne_nil (c : Char) : escapeChar c ≠ [] := by
  unfold escapeChar
  split
  iterate 5 simp
  split
  · simp
  split
  · simp
  split <;> simp

theorem length_le_escaped (chars : List Char) :
    chars.length ≤ (chars.flatMap escapeChar).length := by
  induction chars with
  | nil => exact Nat.le_refl _
  | cons c chars ih =>
      have written := List.length_pos_iff.mpr (escapeChar_ne_nil c)
      rw [List.flatMap_cons, List.length_append, List.length_cons]
      omega

@[simp] theorem toList_quote (text : String) :
    (quote text).toList = '"' :: (text.toList.flatMap escapeChar ++ ['"']) := by
  simp [quote]

theorem skipBlanks_of_blank {c : Char} (blank : isBlank c = true) (rest : List Char) :
    skipBlanks (c :: rest) = skipBlanks rest := by
  rw [skipBlanks, if_pos blank]

theorem skipBlanks_of_shown {c : Char} (shown : isBlank c = false) (rest : List Char) :
    skipBlanks (c :: rest) = c :: rest := by
  rw [skipBlanks, if_neg (by simp [shown])]

/-- A string in quotes that reading has come to, with what follows its opening quote. -/
theorem exists_quoted (text : String) (rest : List Char) :
    ∃ chars, (quote text).toList ++ rest = '"' :: chars ∧
      stringTail? [] (chars.length + 1) chars = some (text, rest) := by
  refine ⟨text.toList.flatMap escapeChar ++ '"' :: rest, by simp, ?_⟩
  rw [stringTail?_text]
  · rw [List.reverse_nil, List.nil_append, String.ofList_toList]
  · have bound := length_le_escaped text.toList
    rw [List.length_append]
    omega

theorem value?_text (depth fuel : Nat) (text : String) (rest : List Char) :
    value? depth (fuel + 1) (' ' :: ((quote text).toList ++ rest)) = some (.text text, rest) := by
  obtain ⟨chars, quoted, read⟩ := exists_quoted text rest
  rw [quoted, value?, skipBlanks_of_blank (by decide), skipBlanks_of_shown (by decide)]
  simp only [read, Option.map_some]

def textFields (fields : List (String × String)) : List (String × Value) :=
  fields.map fun field => (field.1, .text field.2)

def memberChars (field : String × String) : List Char :=
  (quote field.1).toList ++ ':' :: ' ' :: (quote field.2).toList

theorem fields?_blank (depth : Nat) (read : List (String × Value)) (fuel : Nat) {c : Char}
    (blank : isBlank c = true) (chars : List Char) :
    fields? depth read fuel (c :: chars) = fields? depth read fuel chars := by
  cases fuel with
  | zero => rfl
  | succ fuel => rw [fields?, fields?, skipBlanks_of_blank blank]

theorem exists_member (field : String × String) (rest : List Char) :
    ∃ chars, memberChars field ++ rest = '"' :: chars ∧
      stringTail? [] (chars.length + 1) chars =
        some (field.1, ':' :: ' ' :: ((quote field.2).toList ++ rest)) := by
  obtain ⟨chars, quoted, name⟩ :=
    exists_quoted field.1 (':' :: ' ' :: ((quote field.2).toList ++ rest))
  exact ⟨chars, by simpa [memberChars] using quoted, name⟩

theorem fields?_member_comma (depth : Nat) (read : List (String × Value)) (fuel : Nat)
    (field : String × String) (rest : List Char) :
    fields? depth read (fuel + 2) (memberChars field ++ ',' :: rest) =
      fields? depth (insertField field.1 (.text field.2) read) (fuel + 1) rest := by
  obtain ⟨chars, written, name⟩ := exists_member field (',' :: rest)
  rw [written, fields?, skipBlanks_of_shown (by decide)]
  simp only [name, skipBlanks_of_shown (c := ':') (by decide), value?_text,
    skipBlanks_of_shown (c := ',') (by decide)]

theorem fields?_member_last (depth : Nat) (read : List (String × Value)) (fuel : Nat)
    (field : String × String) (rest : List Char) :
    fields? depth read (fuel + 2) (memberChars field ++ '\n' :: '\x7d' :: rest) =
      some (.object (insertField field.1 (.text field.2) read), rest) := by
  obtain ⟨chars, written, name⟩ := exists_member field ('\n' :: '\x7d' :: rest)
  rw [written, fields?, skipBlanks_of_shown (by decide)]
  simp only [name, skipBlanks_of_shown (c := ':') (by decide), value?_text,
    skipBlanks_of_blank (c := '\n') (by decide), skipBlanks_of_shown (c := '\x7d') (by decide)]

theorem prettyFields_textFields (level : Nat) (fields : List (String × String)) :
    Value.prettyFields level (textFields fields) =
      fields.map fun field => String.ofList (memberChars field) := by
  induction fields with
  | nil => rfl
  | cons field rest ih =>
      have member : quote field.1 ++ ": " ++ quote field.2 = String.ofList (memberChars field) := by
        rw [← String.toList_inj]
        simp [memberChars]
      rw [textFields, List.map_cons, List.map_cons, Value.prettyFields, ← member]
      exact congrArg _ ih

theorem toList_separated (separator first : String) (others : List String) :
    (separated separator (first :: others)).toList =
      first.toList ++ others.flatMap fun text => separator.toList ++ text.toList := by
  induction others generalizing first with
  | nil => simp [separated]
  | cons second others ih => simp [separated, ih]

def memberSeparator : List Char := [',', '\n', ' ', ' ']

/-- The members of an object of texts, up to the end of the object. -/
theorem fields?_members (depth : Nat) (first : String × String) (others : List (String × String))
    (read : List (String × Value)) (fuel : Nat) (rest : List Char) :
    fields? depth read (fuel + others.length + 2) (memberChars first ++
        ((others.flatMap fun field => memberSeparator ++ memberChars field) ++
          '\n' :: '\x7d' :: rest)) =
      some (.object ((textFields (first :: others)).foldl
        (fun sorted field => insertField field.1 field.2 sorted) read), rest) := by
  induction others generalizing first read with
  | nil => exact fields?_member_last depth read fuel first rest
  | cons second others ih =>
      have next := ih second (insertField first.1 (.text first.2) read)
      rw [List.flatMap_cons, memberSeparator]
      simp only [List.cons_append, List.nil_append, List.append_assoc]
      rw [List.length_cons, ← Nat.add_assoc, fields?_member_comma, fields?_blank _ _ _ (by decide),
        fields?_blank _ _ _ (by decide), fields?_blank _ _ _ (by decide)]
      exact next

def bodyChars (first : String × String) (others : List (String × String)) : List Char :=
  memberChars first ++
    ((others.flatMap fun field => memberSeparator ++ memberChars field) ++ ['\n', '\x7d'])

theorem toList_pretty_textFields (first : String × String) (others : List (String × String)) :
    (Value.object (textFields (first :: others))).pretty.toList =
      '\x7b' :: '\n' :: ' ' :: ' ' :: bodyChars first others := by
  have members : Value.prettyFields 1 ((first.1, .text first.2) :: textFields others) =
      String.ofList (memberChars first) ::
        others.map fun field => String.ofList (memberChars field) :=
    prettyFields_textFields 1 (first :: others)
  rw [Value.pretty, textFields, List.map_cons, Value.prettyAt]
  · change ("\x7b" ++ Value.lineBreak 1 ++ separated ("," ++ Value.lineBreak 1)
      (Value.prettyFields 1 ((first.1, .text first.2) :: textFields others)) ++
      Value.lineBreak 0 ++ "\x7d").toList = _
    rw [members]
    simp [toList_separated, bodyChars, memberSeparator, List.flatMap_map, Value.lineBreak]
  · simp

theorem length_le_bodyChars (first : String × String) (others : List (String × String)) :
    others.length ≤ (bodyChars first others).length := by
  have longer : others.length ≤
      (others.flatMap fun field => memberSeparator ++ memberChars field).length := by
    induction others with
    | nil => exact Nat.le_refl _
    | cons field others ih =>
        rw [List.flatMap_cons, List.length_append, List.length_append, List.length_cons]
        have separated : memberSeparator.length = 4 := rfl
        omega
  rw [bodyChars, List.length_append, List.length_append]
  omega

theorem value?_bodyChars (first : String × String) (others : List (String × String)) (fuel : Nat)
    (enough : others.length + 2 ≤ fuel) :
    value? documentDepth (fuel + 1) ('\x7b' :: '\n' :: ' ' :: ' ' :: bodyChars first others) =
      some (Value.ofFields (textFields (first :: others)), []) := by
  obtain ⟨more, rfl⟩ := Nat.exists_eq_add_of_le enough
  obtain ⟨chars, body, -⟩ := exists_member first
    ((others.flatMap fun field => memberSeparator ++ memberChars field) ++ ['\n', '\x7d'])
  have members := fields?_members (documentDepth - 1) first others [] more []
  have deep : ¬documentDepth ≤ 1 := by decide
  rw [body] at members
  rw [bodyChars, body, value?, skipBlanks_of_shown (by decide)]
  simp only [if_neg deep, skipBlanks_of_blank (c := '\n') (by decide),
    skipBlanks_of_blank (c := ' ') (by decide), skipBlanks_of_shown (c := '"') (by decide)]
  rw [Nat.add_comm, ← Nat.add_assoc]
  exact members

/-- An object of texts is read back with its fields in the order of their names. -/
theorem parse?_textFields (fields : List (String × String)) :
    parse? (Value.object (textFields fields)).pretty =
      some (Value.ofFields (textFields fields)) := by
  cases fields with
  | nil => rfl
  | cons first others =>
      have bound := length_le_bodyChars first others
      have size : 2 * ('\x7b' :: '\n' :: ' ' :: ' ' :: bodyChars first others).length + 2 =
          2 * (bodyChars first others).length + 9 + 1 := by
        simp only [List.length_cons]
        omega
      have read :=
        value?_bodyChars first others (2 * (bodyChars first others).length + 9) (by omega)
      rw [parse?, parseWithin?, toList_pretty_textFields]
      simp only [size, read]
      rfl

end TerminalScript.Json
