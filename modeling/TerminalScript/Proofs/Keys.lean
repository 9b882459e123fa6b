import Mathlib
import TerminalScript.Keys
import TerminalScript.Proofs.Text.Utf8

/-!
What a key token sends. The marks that stand before a key can be taken off in one way only, and an
escape is sent for each of them. What is left is the name of a key, a control character or a text,
and a text is sent as it is.
-/

namespace TerminalScript.Keys

def marks (count : Nat) : List Char :=
  (List.replicate count ['M', '-']).flatten

theorem marks_succ_append (count : Nat) (rest : List Char) :
    marks (count + 1) ++ rest = 'M' :: '-' :: (marks count ++ rest) := by
  rw [marks, List.replicate_succ, List.flatten_cons, List.append_assoc]
  rfl

/-- A token is a key after so many marks: as many as can be taken off while something is left. -/
structure Marked (token : List Char) (count : Nat) (key : List Char) : Prop where
  whole : token = marks count ++ key
  filled : key ≠ []
  largest : ∀ more other, token = marks more ++ other → other ≠ [] → more ≤ count

theorem Marked.unique {token key key' : List Char} {count count' : Nat}
    (marked : Marked token count key) (marked' : Marked token count' key') :
    count = count' ∧ key = key' := by
  have same : count = count' := Nat.le_antisymm
    (marked'.largest count key marked.whole marked.filled)
    (marked.largest count' key' marked'.whole marked'.filled)
  subst same
  exact ⟨rfl, List.append_cancel_left (marked.whole.symm.trans marked'.whole)⟩

theorem Marked.cons {token key : List Char} {count : Nat} (marked : Marked token count key) :
    Marked ('M' :: '-' :: token) (count + 1) key := by
  refine ⟨by rw [marks_succ_append, ← marked.whole], marked.filled, fun more other whole left => ?_⟩
  cases more with
  | zero => exact Nat.zero_le _
  | succ more =>
      rw [marks_succ_append] at whole
      have inner : token = marks more ++ other := by simpa using whole
      exact Nat.succ_le_succ (marked.largest more other inner left)

theorem marked_bare {token : List Char} (filled : token ≠ [])
    (bare : ∀ c rest, token ≠ 'M' :: '-' :: c :: rest) : Marked token 0 token := by
  refine ⟨rfl, filled, fun more other whole left => ?_⟩
  cases more with
  | zero => exact Nat.le_refl 0
  | succ more =>
      rw [marks_succ_append] at whole
      obtain ⟨c, rest, same⟩ := List.exists_cons_of_ne_nil
        (List.append_ne_nil_of_right_ne_nil (marks more) left)
      rw [same] at whole
      exact absurd whole (bare c rest)

theorem exists_marked {token : List Char} (filled : token ≠ []) :
    ∃ count key, Marked token count key ∧
      encodeChars token = List.replicate count escapeByte ++ encodeBare key := by
  fun_induction encodeChars token with
  | case1 c rest ih =>
      obtain ⟨count, key, marked, same⟩ := ih (List.cons_ne_nil c rest)
      exact ⟨count + 1, key, marked.cons, by rw [same, List.replicate_succ, List.cons_append]⟩
  | case2 token bare =>
      exact ⟨0, token, marked_bare filled fun c rest whole => bare c rest whole, rfl⟩

theorem Marked.encodeChars_eq {token key : List Char} {count : Nat}
    (marked : Marked token count key) :
    encodeChars token = List.replicate count escapeByte ++ encodeBare key := by
  have filled : token ≠ [] :=
    marked.whole ▸ List.append_ne_nil_of_right_ne_nil (marks count) marked.filled
  obtain ⟨count', key', marked', same⟩ := exists_marked filled
  obtain ⟨rfl, rfl⟩ := marked.unique marked'
  exact same

theorem mem_names_of_lookup {name : String} {bytes : List UInt8}
    (found : names.lookup name = some bytes) : (name, bytes) ∈ names := by
  obtain ⟨before, after, same, _⟩ := List.lookup_eq_some_iff.mp found
  rw [same]
  simp

theorem lookup_control (c : Char) : names.lookup (String.ofList ['C', '-', c]) = none := by
  have unlike : ∀ entry ∈ names, entry.1.toList.take 2 ≠ ['C', '-'] := by decide
  rcases found : names.lookup (String.ofList ['C', '-', c]) with - | bytes
  · rfl
  · exact absurd (by simp) (unlike _ (mem_names_of_lookup found))

theorem encodeBare_named {key : List Char} {bytes : List UInt8}
    (named : names.lookup (String.ofList key) = some bytes) : encodeBare key = bytes := by
  simp only [encodeBare, named]

theorem encodeBare_control {c : Char} {byte : UInt8} (control : control? c = some byte) :
    encodeBare ['C', '-', c] = [byte] := by
  simp only [encodeBare, lookup_control, control]

theorem encodeBare_text {key : List Char} (unnamed : names.lookup (String.ofList key) = none)
    (uncontrolled : ∀ c, key = ['C', '-', c] → control? c = none) :
    encodeBare key = Text.encode (String.ofList key) := by
  simp only [encodeBare, unnamed]
  split
  · rename_i c
    rw [uncontrolled c rfl]
  · rfl

theorem encodeBare_cases (key : List Char) :
    (∃ bytes, names.lookup (String.ofList key) = some bytes ∧ encodeBare key = bytes) ∨
    (∃ c byte, key = ['C', '-', c] ∧ control? c = some byte ∧ encodeBare key = [byte]) ∨
    (names.lookup (String.ofList key) = none ∧ (∀ c, key = ['C', '-', c] → control? c = none) ∧
      encodeBare key = Text.encode (String.ofList key)) := by
  rcases named : names.lookup (String.ofList key) with - | bytes
  · by_cases controlled : ∃ c byte, key = ['C', '-', c] ∧ control? c = some byte
    · obtain ⟨c, byte, rfl, control⟩ := controlled
      exact .inr (.inl ⟨c, byte, rfl, control, encodeBare_control control⟩)
    · have uncontrolled : ∀ c, key = ['C', '-', c] → control? c = none := fun c same =>
        Option.eq_none_iff_forall_ne_some.mpr fun byte control =>
          controlled ⟨c, byte, same, control⟩
      exact .inr (.inr ⟨rfl, uncontrolled, encodeBare_text named uncontrolled⟩)
  · exact .inl ⟨bytes, rfl, encodeBare_named named⟩

theorem length_le_encode (chars : List Char) :
    chars.length ≤ (Text.encode (String.ofList chars)).length := by
  rw [Text.encode_eq, String.toList_ofList]
  induction chars with
  | nil => exact Nat.zero_le _
  | cons c rest ih =>
      have some_byte : 0 < c.utf8Size := c.utf8Size_pos
      rw [List.flatMap_cons, List.length_append, String.length_utf8EncodeChar, List.length_cons]
      omega

theorem encodeBare_ne_nil {key : List Char} (filled : key ≠ []) : encodeBare key ≠ [] := by
  have sending : ∀ entry ∈ names, entry.2 ≠ [] := by decide
  rcases encodeBare_cases key with ⟨bytes, named, same⟩ | ⟨c, byte, _, _, same⟩ | ⟨_, _, same⟩
  · rw [same]
    exact sending _ (mem_names_of_lookup named)
  · rw [same]
    exact List.cons_ne_nil byte []
  · rw [same, ← List.length_pos_iff]
    exact Nat.lt_of_lt_of_le (List.length_pos_iff.mpr filled) (length_le_encode key)

/-- Neither a name nor a control character is sent as it is written. -/
theorem encodeBare_eq_text_iff {key : List Char} :
    encodeBare key = Text.encode (String.ofList key) ↔
      names.lookup (String.ofList key) = none ∧ ∀ c, key = ['C', '-', c] → control? c = none := by
  have unlike : ∀ entry ∈ names, entry.2 ≠ Text.encode entry.1 := by
    simp only [Text.encode_eq]
    decide
  refine ⟨fun verbatim => ?_, fun ⟨unnamed, uncontrolled⟩ => encodeBare_text unnamed uncontrolled⟩
  rcases encodeBare_cases key with
    ⟨bytes, named, same⟩ | ⟨c, byte, rfl, _, same⟩ | ⟨unnamed, plain, _⟩
  · exact absurd (same.symm.trans verbatim) (unlike _ (mem_names_of_lookup named))
  · have long := length_le_encode ['C', '-', c]
    rw [← verbatim, same] at long
    simp at long
  · exact ⟨unnamed, plain⟩

/-- A mark is never sent as it is written. -/
theorem Marked.encodeChars_eq_text_iff {token key : List Char} {count : Nat}
    (marked : Marked token count key) :
    encodeChars token = Text.encode (String.ofList token) ↔
      count = 0 ∧ encodeBare key = Text.encode (String.ofList key) := by
  rw [marked.encodeChars_eq, marked.whole]
  cases count with
  | zero => simp [marks]
  | succ count =>
      rw [marks_succ_append, Text.encode_eq, String.toList_ofList, List.flatMap_cons,
        List.replicate_succ, List.cons_append]
      refine ⟨fun same => ?_, fun unmarked => absurd unmarked.1 (Nat.succ_ne_zero count)⟩
      have first : escapeByte = 'M'.toUInt8 := (List.cons.inj same).1
      exact absurd first (by decide)

theorem encode_eq_nil_iff {token : String} : encode token = [] ↔ token = "" := by
  rw [encode, ← String.toList_eq_nil_iff]
  refine ⟨fun silent => ?_, fun empty => by rw [empty]; cbv⟩
  by_contra filled
  obtain ⟨count, key, marked, same⟩ := exists_marked filled
  rw [same] at silent
  exact encodeBare_ne_nil marked.filled (List.append_eq_nil_iff.mp silent).2

/-- A token sends an escape for each of its marks and then its key: the bytes of a name, the byte of
a control character, and a text as it is. No token but the empty one sends nothing, and apart from
marks, names and control characters none is altered. -/
theorem encode_marks_then_key (token : String) :
    (encode token = [] ↔ token = "") ∧
    (token ≠ "" → ∃! split : Nat × List Char, Marked token.toList split.1 split.2) ∧
    ∀ count key, Marked token.toList count key →
      (∀ bytes, names.lookup (String.ofList key) = some bytes →
        encode token = List.replicate count escapeByte ++ bytes) ∧
      (∀ c byte, key = ['C', '-', c] → control? c = some byte →
        encode token = List.replicate count escapeByte ++ [byte]) ∧
      (names.lookup (String.ofList key) = none → (∀ c, key = ['C', '-', c] → control? c = none) →
        encode token = List.replicate count escapeByte ++ (String.ofList key).toUTF8.toList) ∧
      (encode token = token.toUTF8.toList ↔ count = 0 ∧
        names.lookup (String.ofList key) = none ∧
          ∀ c, key = ['C', '-', c] → control? c = none) := by
  refine ⟨encode_eq_nil_iff, fun filled => ?_, fun count key marked => ?_⟩
  · obtain ⟨count, key, marked, _⟩ := exists_marked (mt String.toList_eq_nil_iff.mp filled)
    refine ⟨⟨count, key⟩, marked, fun split other => ?_⟩
    obtain ⟨same, same'⟩ := other.unique marked
    exact Prod.ext same same'
  · have sent : encode token = List.replicate count escapeByte ++ encodeBare key :=
      marked.encodeChars_eq
    refine ⟨fun bytes named => ?_, fun c byte same control => ?_,
      fun unnamed uncontrolled => ?_, ?_⟩
    · rw [sent, encodeBare_named named]
    · rw [sent, same, encodeBare_control control]
    · rw [sent, encodeBare_text unnamed uncontrolled, Text.encode]
    · have verbatim := marked.encodeChars_eq_text_iff
      rwa [String.ofList_toList, encodeBare_eq_text_iff] at verbatim

/-- A mark with nothing after it is a text of its own. -/
example : (encode "M-M-C-x").map UInt8.toNat = [27, 27, 24] ∧
    (encode "M-M-").map UInt8.toNat = [27, 77, 45] := by
  cbv

end TerminalScript.Keys
