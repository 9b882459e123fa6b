import TerminalScript.Proofs.Text.Tokens

/-!
Escape sequences with intermediate characters: an escape, some characters from the blank to the
slash and a final one. A designation of a character set has one of four of them and is taken as a
whole. Of any other such sequence only the beginning is taken, and the rest stays in the text.
-/

namespace TerminalScript.Text

def IsIntermediate (c : Char) : Prop :=
  ' ' ≤ c ∧ c ≤ '/'

def IsEnding (c : Char) : Prop :=
  '0' ≤ c ∧ c ≤ '~'

inductive Element
  | printable (c : Char) (shows : isControl c = false)
  | sequence (first : Char) (others : List Char) (final : Char)
      (inner : ∀ c ∈ first :: others, IsIntermediate c) (closes : IsEnding final)

namespace Element

def chars : Element → List Char
  | printable c _ => [c]
  | sequence first others final _ _ => escape :: first :: (others ++ [final])

def printed : Element → List Char
  | printable c _ => [c]
  | sequence _ _ _ _ _ => []

/-- What the scan leaves: a character that designates a set is taken with the next one, any other
intermediate character is taken alone, and the rest is text. -/
def left : Element → List Char
  | printable c _ => [c]
  | sequence first others final _ _ =>
      let rest := others ++ [final]
      if first ∈ charsetOpenings then rest.tail else rest

def Cleared : Element → Prop
  | printable _ _ => True
  | sequence first others _ _ _ => first ∈ charsetOpenings ∧ others = []

def render (elements : List Element) : String :=
  String.ofList (elements.flatMap chars)

def printedText (elements : List Element) : String :=
  String.ofList (elements.flatMap printed)

def leftText (elements : List Element) : String :=
  String.ofList (elements.flatMap left)

end Element

theorem isKept_of_printable {c : Char} (shows : isControl c = false) : isKept c = true := by
  rw [isKept_iff, shows]
  intro impossible
  cases impossible

theorem isControl_of_between {c : Char} (lower : ' ' ≤ c) (upper : c ≤ '~') :
    isControl c = false := by
  have above : 32 ≤ c.val.toNat := lower
  have below : c.val.toNat ≤ 126 := upper
  simp only [isControl, Bool.or_eq_false_iff, Bool.and_eq_false_iff, decide_eq_false_iff_not,
    UInt32.lt_iff_toNat_lt, UInt32.le_iff_toNat_le]
  refine ⟨?_, .inl ?_⟩
  · change ¬c.val.toNat < 32
    omega
  · change ¬127 ≤ c.val.toNat
    omega

theorem IsIntermediate.isKept {c : Char} (inner : IsIntermediate c) : isKept c = true :=
  isKept_of_printable (isControl_of_between inner.1 (Char.le_trans inner.2 (by decide)))

theorem IsEnding.isKept {c : Char} (closes : IsEnding c) : isKept c = true :=
  isKept_of_printable (isControl_of_between (Char.le_trans (by decide) closes.1) closes.2)

theorem IsIntermediate.introducer_eq {c : Char} (inner : IsIntermediate c)
    (unopening : c ∉ charsetOpenings) : introducer c = .other := by
  refine introducer_of_other ⟨?_, ?_, unopening⟩
  · rintro rfl
    exact absurd inner.2 (by decide)
  · intro member
    simp only [stringOpenings, List.mem_cons, List.not_mem_nil, or_false] at member
    rcases member with rfl | rfl | rfl | rfl | rfl <;> exact absurd inner.2 (by decide)

theorem plainChars_kept_append {chars : List Char} (keeps : ∀ c ∈ chars, isKept c = true)
    (rest : List Char) : plainChars [] (chars ++ rest) = chars ++ plainChars [] rest := by
  induction chars with
  | nil => rfl
  | cons c chars ih =>
      obtain ⟨keeps, others⟩ := List.forall_mem_cons.mp keeps
      rw [List.cons_append, plainChars_cons (ne_escape_of_isKept keeps), if_pos keeps]
      have moved : plainChars [c] (chars ++ rest) = [c] ++ plainChars [] (chars ++ rest) :=
        plainChars_append [] [c] (chars ++ rest)
      rw [moved, ih others]
      rfl

namespace Element

theorem plainChars_chars (element : Element) (rest : List Char) :
    plainChars [] (element.chars ++ rest) = element.left ++ plainChars [] rest := by
  cases element with
  | printable c shows =>
      exact plainChars_kept_append (List.forall_mem_singleton.mpr (isKept_of_printable shows)) rest
  | sequence first others final inner closes =>
      obtain ⟨opening, later⟩ := List.forall_mem_cons.mp inner
      have keeps : ∀ c ∈ others ++ [final], isKept c = true := by
        rw [List.forall_mem_append, List.forall_mem_singleton]
        exact ⟨fun c member => (later c member).isKept, closes.isKept⟩
      have scanned : plainChars [] (chars (.sequence first others final inner closes) ++ rest) =
          plainChars [] (afterEscape (first :: (others ++ [final] ++ rest))) :=
        plainChars_escape [] _
      rw [scanned, afterEscape, left]
      by_cases opens : first ∈ charsetOpenings
      · rw [introducer_of_charsetOpening opens, if_pos opens]
        have after : (others ++ [final] ++ rest).tail = (others ++ [final]).tail ++ rest :=
          List.tail_append_of_ne_nil (by simp)
        dsimp only
        rw [after]
        exact plainChars_kept_append (fun c member => keeps c (List.mem_of_mem_tail member)) rest
      · rw [opening.introducer_eq opens, if_neg opens]
        exact plainChars_kept_append keeps rest

theorem plainChars_flatMap (elements : List Element) (rest : List Char) :
    plainChars [] (elements.flatMap chars ++ rest) =
      elements.flatMap left ++ plainChars [] rest := by
  induction elements with
  | nil => rfl
  | cons element elements ih =>
      rw [List.flatMap_cons, List.flatMap_cons, List.append_assoc, List.append_assoc,
        plainChars_chars, ih]

theorem toList_plain_render (elements : List Element) :
    (plain (render elements)).toList = elements.flatMap left := by
  have alone := plainChars_flatMap elements []
  rw [List.append_nil, plainChars, List.reverse_nil, List.append_nil] at alone
  rw [toList_plain, render, String.toList_ofList, alone]

theorem left_eq_printed_iff (element : Element) : element.left = element.printed ↔
    element.Cleared := by
  cases element with
  | printable c shows => simp [left, printed, Cleared]
  | sequence first others final inner closes =>
      by_cases opens : first ∈ charsetOpenings
      · cases others <;> simp [left, printed, Cleared, opens]
      · simp [left, printed, Cleared, opens]

theorem length_printed_le (element : Element) : element.printed.length ≤ element.left.length := by
  cases element with
  | printable c shows => exact Nat.le_refl _
  | sequence first others final inner closes => exact Nat.zero_le _

theorem length_flatMap_printed_le (elements : List Element) :
    (elements.flatMap printed).length ≤ (elements.flatMap left).length := by
  induction elements with
  | nil => exact Nat.le_refl _
  | cons element elements ih =>
      have own := element.length_printed_le
      simp only [List.flatMap_cons, List.length_append]
      omega

/-- Each element leaves at least what is printed of it, so the texts are the same only if each of
them leaves no more. -/
theorem flatMap_left_eq_iff (elements : List Element) :
    elements.flatMap left = elements.flatMap printed ↔ ∀ element ∈ elements, element.Cleared := by
  induction elements with
  | nil => simp
  | cons element elements ih =>
      rw [List.forall_mem_cons, ← ih, ← left_eq_printed_iff, List.flatMap_cons, List.flatMap_cons]
      constructor
      · intro same
        have own := element.length_printed_le
        have later := length_flatMap_printed_le elements
        have total := congrArg List.length same
        simp only [List.length_append] at total
        exact List.append_inj same (by omega)
      · rintro ⟨own, later⟩
        rw [own, later]

end Element

/-- Of printable characters and sequences with intermediate characters, whatever follows them, the
printable characters are left, and of each sequence what comes after its first two characters, or
after three if it begins like a designation. So nothing of the sequences is left exactly if each has
a single intermediate character, and that is one of the four that designate a set. -/
theorem plain_elements (elements : List Element) (rest : String) :
    plain (Element.render elements ++ rest) = Element.leftText elements ++ plain rest ∧
    (plain (Element.render elements) = Element.printedText elements ↔
      ∀ element ∈ elements, element.Cleared) := by
  have scanned (rest : String) :
      plain (Element.render elements ++ rest) = Element.leftText elements ++ plain rest := by
    rw [← String.toList_inj]
    simpa [Element.render, Element.leftText] using
      Element.plainChars_flatMap elements rest.toList
  refine ⟨scanned rest, ?_⟩
  rw [← Element.flatMap_left_eq_iff, ← String.toList_inj, Element.toList_plain_render,
    Element.printedText, String.toList_ofList]

def utf8Switch : List Element :=
  [.sequence '%' [] 'G' (by simp [IsIntermediate]) ⟨by decide, by decide⟩, .printable 'a' (by decide)]

/-- The final character of the sequence stays in the text. -/
theorem utf8Switch_left :
    Element.render utf8Switch = "\x1b%Ga" ∧ Element.printedText utf8Switch = "a" ∧
      plain (Element.render utf8Switch) = "Ga" := by
  refine ⟨rfl, rfl, ?_⟩
  rw [← String.toList_inj, Element.toList_plain_render]
  rfl

end TerminalScript.Text
