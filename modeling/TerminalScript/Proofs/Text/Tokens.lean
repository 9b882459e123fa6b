import TerminalScript.Proofs.Text.Plain

/-!
The tokens of terminal text: characters and whole escape sequences. Plain text takes a text token by
token, whatever follows the last one: of the tokens only the visible characters are left.
-/

namespace TerminalScript.Text

def IsFinal (c : Char) : Prop :=
  '@' ≤ c ∧ c ≤ '~'

def stringOpenings : List Char := [']', 'P', 'X', '^', '_']

def charsetOpenings : List Char := ['(', ')', '*', '+']

inductive StringEnd
  | bell
  | terminator

def StringEnd.chars : StringEnd → List Char
  | bell => [Text.bell]
  | terminator => [escape, '\\']

def Unended (body : List Char) : Prop :=
  ∀ ending : StringEnd, ¬ending.chars <:+: body

inductive Token
  | visible (c : Char) (shows : isControl c = true → c = '\n' ∨ c = '\t')
  | control (c : Char) (hides : isControl c = true) (other : c ≠ '\n' ∧ c ≠ '\t' ∧ c ≠ escape)
  | sequence (parameters : List Char) (final : Char) (inner : ∀ c ∈ parameters, ¬IsFinal c)
      (closes : IsFinal final)
  | controlString (opening : Char) (body : List Char) (ending : StringEnd)
      (opens : opening ∈ stringOpenings) (unended : Unended body)
  | designation (opening designated : Char) (opens : opening ∈ charsetOpenings)
  | escaped (c : Char) (other : c ≠ '[' ∧ c ∉ stringOpenings ∧ c ∉ charsetOpenings)

namespace Token

def chars : Token → List Char
  | visible c _ => [c]
  | control c _ _ => [c]
  | sequence parameters final _ _ => escape :: '[' :: (parameters ++ [final])
  | controlString opening body ending _ _ => escape :: opening :: (body ++ ending.chars)
  | designation opening designated _ => [escape, opening, designated]
  | escaped c _ => [escape, c]

def shown : Token → List Char
  | visible c _ => [c]
  | _ => []

def render (tokens : List Token) : String :=
  String.ofList (tokens.flatMap chars)

def visibleText (tokens : List Token) : String :=
  String.ofList (tokens.flatMap shown)

end Token

theorem plainChars_append (kept before chars : List Char) :
    plainChars (kept ++ before) chars = before.reverse ++ plainChars kept chars := by
  fun_induction plainChars kept chars with
  | case1 kept => rw [plainChars, List.reverse_append]
  | case2 kept rest ih => rw [plainChars_escape, ih]
  | case3 kept c rest unescaped ih =>
      rw [plainChars_cons unescaped]
      refine Eq.trans ?_ ih
      by_cases keeps : isKept c = true
      · rw [if_pos keeps, dif_pos keeps, List.cons_append]
      · rw [if_neg keeps, dif_neg keeps]

theorem introducer_of_stringOpening {c : Char} (opens : c ∈ stringOpenings) :
    introducer c = .controlString := by
  simp only [stringOpenings, List.mem_cons, List.not_mem_nil, or_false] at opens
  rcases opens with rfl | rfl | rfl | rfl | rfl <;> rfl

theorem introducer_of_charsetOpening {c : Char} (opens : c ∈ charsetOpenings) :
    introducer c = .charset := by
  simp only [charsetOpenings, List.mem_cons, List.not_mem_nil, or_false] at opens
  rcases opens with rfl | rfl | rfl | rfl <;> rfl

theorem introducer_of_other {c : Char}
    (other : c ≠ '[' ∧ c ∉ stringOpenings ∧ c ∉ charsetOpenings) : introducer c = .other := by
  simp only [stringOpenings, charsetOpenings, List.mem_cons, List.not_mem_nil, or_false,
    not_or] at other
  unfold introducer
  split <;> simp_all

theorem afterControlSequence_append {parameters : List Char}
    (inner : ∀ c ∈ parameters, ¬IsFinal c) {final : Char} (closes : IsFinal final)
    (rest : List Char) : afterControlSequence (parameters ++ final :: rest) = rest := by
  induction parameters with
  | nil => exact if_pos closes
  | cons c parameters ih =>
      obtain ⟨passed, inner⟩ := List.forall_mem_cons.mp inner
      rw [List.cons_append, afterControlSequence]
      exact (if_neg passed).trans (ih inner)

theorem Unended.ne_bell {c : Char} {body : List Char} (unended : Unended (c :: body)) :
    c ≠ bell := by
  rintro rfl
  exact unended .bell (List.prefix_append [bell] body).isInfix

theorem Unended.tail {c : Char} {body : List Char} (unended : Unended (c :: body)) :
    Unended body :=
  fun ending within => unended ending (within.trans (List.suffix_cons c body).isInfix)

/-- An escape in the body does not end it: what comes next is in the body and no backslash, or the
end of the string, which begins with none. -/
theorem Unended.head_ne {body : List Char} (unended : Unended (escape :: body))
    (ending : StringEnd) (rest : List Char) :
    (body ++ ending.chars ++ rest).head? ≠ some '\\' := by
  cases body with
  | nil => cases ending <;> simp [StringEnd.chars, bell, escape]
  | cons next body =>
      rintro ⟨⟩
      exact unended .terminator (List.prefix_append [escape, '\\'] body).isInfix

theorem afterControlString_ending (ending : StringEnd) (rest : List Char) :
    afterControlString (ending.chars ++ rest) = rest := by
  cases ending <;> simp [StringEnd.chars, afterControlString, bell, escape]

theorem afterControlString_append {body : List Char} (unended : Unended body)
    (ending : StringEnd) (rest : List Char) :
    afterControlString (body ++ ending.chars ++ rest) = rest := by
  induction body with
  | nil => exact afterControlString_ending ending rest
  | cons c body ih =>
      have unterminated : ¬(c = escape ∧ (body ++ ending.chars ++ rest).head? = some '\\') := by
        rintro ⟨rfl, terminated⟩
        exact unended.head_ne ending rest terminated
      rw [List.cons_append, List.cons_append, afterControlString, if_neg unended.ne_bell,
        if_neg unterminated]
      exact ih unended.tail

theorem plainChars_token (token : Token) (rest : List Char) :
    plainChars [] (token.chars ++ rest) = token.shown ++ plainChars [] rest := by
  cases token with
  | visible c shows =>
      have keeps : isKept c = true := (isKept_iff c).mpr shows
      rw [Token.chars, List.singleton_append, plainChars_cons (ne_escape_of_isKept keeps),
        if_pos keeps]
      exact plainChars_append [] [c] rest
  | control c hides other =>
      obtain ⟨unbroken, untabbed, unescaped⟩ := other
      have drops : ¬isKept c = true := fun keeps =>
        ((isKept_iff c).mp keeps hides).elim unbroken untabbed
      rw [Token.chars, List.singleton_append, plainChars_cons unescaped, if_neg drops]
      rfl
  | sequence parameters final inner closes =>
      have after : afterEscape ('[' :: (parameters ++ final :: rest)) = rest :=
        afterControlSequence_append inner closes rest
      simpa [Token.chars, Token.shown, plainChars_escape] using congrArg (plainChars []) after
  | controlString opening body ending opens unended =>
      have after : afterEscape (opening :: (body ++ ending.chars ++ rest)) = rest := by
        rw [afterEscape, introducer_of_stringOpening opens]
        exact afterControlString_append unended ending rest
      simpa [Token.chars, Token.shown, plainChars_escape] using congrArg (plainChars []) after
  | designation opening designated opens =>
      have after : afterEscape (opening :: designated :: rest) = rest := by
        rw [afterEscape, introducer_of_charsetOpening opens]
        rfl
      simpa [Token.chars, Token.shown, plainChars_escape] using congrArg (plainChars []) after
  | escaped c other =>
      have after : afterEscape (c :: rest) = rest := by
        rw [afterEscape, introducer_of_other other]
      simpa [Token.chars, Token.shown, plainChars_escape] using congrArg (plainChars []) after

theorem plainChars_tokens (tokens : List Token) (rest : List Char) :
    plainChars [] (tokens.flatMap Token.chars ++ rest) =
      tokens.flatMap Token.shown ++ plainChars [] rest := by
  induction tokens with
  | nil => rfl
  | cons token tokens ih =>
      rw [List.flatMap_cons, List.flatMap_cons, List.append_assoc, List.append_assoc,
        plainChars_token, ih]

/-- Plain text of tokens and any text after them: the visible characters of the tokens, in order,
and the plain text of the rest. -/
theorem plain_render_append (tokens : List Token) (rest : String) :
    plain (Token.render tokens ++ rest) = Token.visibleText tokens ++ plain rest := by
  rw [← String.toList_inj]
  simpa [Token.render, Token.visibleText] using plainChars_tokens tokens rest.toList

/-- An escape within a control string does not end it. -/
example : plain "a\x1b]0;\x1bt\x1b\\b\x1b[1mc" = "abc" := by
  cbv

end TerminalScript.Text
