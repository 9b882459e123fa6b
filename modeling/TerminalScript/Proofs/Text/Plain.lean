import Mathlib.Logic.Function.Iterate
import TerminalScript.Text.Plain

/-!
The scan for plain text, turn by turn. A turn takes one character or one escape sequence off the
text, so a text is through after as many turns as it has characters. What the turns keep are
characters of the text, in their order, and no control characters but line breaks and tabs: plain
text is what has no others, and stays as it is.
-/

namespace TerminalScript.Text

structure Scan where
  kept : List Char
  rest : List Char

def Scan.turn : Scan → Scan
  | ⟨kept, []⟩ => ⟨kept, []⟩
  | ⟨kept, c :: rest⟩ =>
      if c = escape then ⟨kept, afterEscape rest⟩
      else ⟨if isKept c then c :: kept else kept, rest⟩

def ControlFree (chars : List Char) : Prop :=
  ∀ c ∈ chars, isControl c = true → c = '\n' ∨ c = '\t'

theorem isKept_iff (c : Char) : isKept c = true ↔ (isControl c = true → c = '\n' ∨ c = '\t') := by
  simp only [isKept, Bool.or_eq_true, decide_eq_true_eq, Bool.not_eq_true']
  cases isControl c <;> simp

theorem controlFree_iff (chars : List Char) : ControlFree chars ↔ ∀ c ∈ chars, isKept c = true := by
  simp only [ControlFree, isKept_iff]

theorem ne_escape_of_isKept {c : Char} (kept : isKept c = true) : c ≠ escape := by
  rintro rfl
  exact absurd kept (by decide)

theorem plainChars_escape (kept rest : List Char) :
    plainChars kept (escape :: rest) = plainChars kept (afterEscape rest) := by
  rw [plainChars, if_pos rfl]

theorem plainChars_cons {c : Char} (unescaped : c ≠ escape) (kept rest : List Char) :
    plainChars kept (c :: rest) = plainChars (if isKept c then c :: kept else kept) rest := by
  rw [plainChars, if_neg unescaped]

theorem afterControlSequence_suffix (chars : List Char) : afterControlSequence chars <:+ chars := by
  induction chars with
  | nil => exact List.suffix_refl _
  | cons c rest ih =>
      rw [afterControlSequence]
      split
      · exact List.suffix_cons c rest
      · exact ih.trans (List.suffix_cons c rest)

theorem afterControlString_suffix (chars : List Char) : afterControlString chars <:+ chars := by
  induction chars with
  | nil => exact List.suffix_refl _
  | cons c rest ih =>
      have within : rest <:+ c :: rest := List.suffix_cons c rest
      rw [afterControlString]
      split
      · exact within
      · split
        · exact (List.tail_suffix rest).trans within
        · exact ih.trans within

/-- However an escape sequence ends, be it cut off, the scan goes on with the end of the text. -/
theorem afterEscape_suffix (chars : List Char) : afterEscape chars <:+ chars := by
  cases chars with
  | nil => exact List.suffix_refl _
  | cons c rest =>
      have within : rest <:+ c :: rest := List.suffix_cons c rest
      rw [afterEscape]
      cases introducer c with
      | controlSequence => exact (afterControlSequence_suffix rest).trans within
      | controlString => exact (afterControlString_suffix rest).trans within
      | charset => exact (List.tail_suffix rest).trans within
      | other => exact within

structure Scan.Reads (chars : List Char) (scan : Scan) : Prop where
  drawn : (scan.kept.reverse ++ scan.rest).Sublist chars
  allowed : ∀ c ∈ scan.kept, isKept c = true
  leads : plainChars scan.kept scan.rest = plainChars [] chars

theorem Scan.reads_start (chars : List Char) : Scan.Reads chars ⟨[], chars⟩ :=
  ⟨List.Sublist.refl _, by simp, rfl⟩

theorem Scan.Reads.turn {chars : List Char} {scan : Scan} (reads : scan.Reads chars) :
    scan.turn.Reads chars := by
  obtain ⟨kept, left⟩ := scan
  obtain ⟨drawn, allowed, leads⟩ := reads
  cases left with
  | nil => exact ⟨drawn, allowed, leads⟩
  | cons c rest =>
      have rest_sublist : (kept.reverse ++ rest).Sublist chars :=
        ((List.sublist_cons_self c rest).append_left _).trans drawn
      rw [Scan.turn]
      split
      · rename_i escaped
        subst escaped
        have shorter := (afterEscape_suffix rest).sublist.append_left kept.reverse
        exact ⟨shorter.trans rest_sublist, allowed, (plainChars_escape kept rest).symm.trans leads⟩
      · rename_i unescaped
        have leads := (plainChars_cons unescaped kept rest).symm.trans leads
        by_cases keeps : isKept c = true
        · rw [if_pos keeps] at leads ⊢
          refine ⟨by simpa using drawn, ?_, leads⟩
          exact List.forall_mem_cons.mpr ⟨keeps, allowed⟩
        · rw [if_neg keeps] at leads ⊢
          exact ⟨rest_sublist, allowed, leads⟩

theorem Scan.length_turn_le (scan : Scan) : scan.turn.rest.length ≤ scan.rest.length - 1 := by
  obtain ⟨kept, left⟩ := scan
  cases left with
  | nil => exact Nat.le_refl _
  | cons c rest =>
      rw [Scan.turn]
      split
      · exact afterEscape_length_le rest
      · exact Nat.le_refl _

theorem Scan.Reads.turns {chars : List Char} {scan : Scan} (reads : scan.Reads chars)
    (count : Nat) : (Scan.turn^[count] scan).Reads chars := by
  induction count with
  | zero => exact reads
  | succ count ih =>
      rw [Function.iterate_succ_apply']
      exact ih.turn

theorem Scan.length_turns_le (scan : Scan) (count : Nat) :
    (Scan.turn^[count] scan).rest.length ≤ scan.rest.length - count := by
  induction count with
  | zero => exact Nat.le_refl _
  | succ count ih =>
      rw [Function.iterate_succ_apply']
      have shorter := (Scan.turn^[count] scan).length_turn_le
      omega

/-- After a turn for each character nothing is left to scan, and plain text is what was kept. -/
theorem turns_eq (chars : List Char) :
    Scan.turn^[chars.length] ⟨[], chars⟩ = ⟨(plainChars [] chars).reverse, []⟩ := by
  generalize ended : Scan.turn^[chars.length] ⟨[], chars⟩ = scan
  have reads : scan.Reads chars := ended ▸ (Scan.reads_start chars).turns chars.length
  have short : scan.rest.length ≤ chars.length - chars.length :=
    ended ▸ Scan.length_turns_le ⟨[], chars⟩ chars.length
  obtain ⟨kept, left⟩ := scan
  have through : left = [] := List.length_eq_zero_iff.mp (by simpa using short)
  subst through
  rw [← reads.leads, plainChars, List.reverse_reverse]

theorem plainChars_reads (chars : List Char) :
    Scan.Reads chars ⟨(plainChars [] chars).reverse, []⟩ :=
  turns_eq chars ▸ (Scan.reads_start chars).turns chars.length

theorem plainChars_sublist (chars : List Char) : (plainChars [] chars).Sublist chars := by
  simpa using (plainChars_reads chars).drawn

theorem controlFree_plainChars (chars : List Char) : ControlFree (plainChars [] chars) := by
  rw [controlFree_iff]
  intro c member
  exact (plainChars_reads chars).allowed c (List.mem_reverse.mpr member)

theorem plainChars_of_isKept {chars : List Char} (keeps : ∀ c ∈ chars, isKept c = true)
    (kept : List Char) : plainChars kept chars = kept.reverse ++ chars := by
  induction chars generalizing kept with
  | nil => rw [plainChars, List.append_nil]
  | cons c rest ih =>
      obtain ⟨keeps, others⟩ := List.forall_mem_cons.mp keeps
      rw [plainChars_cons (ne_escape_of_isKept keeps), if_pos keeps, ih others]
      simp

theorem plainChars_eq_self_iff (chars : List Char) :
    plainChars [] chars = chars ↔ ControlFree chars := by
  constructor
  · intro same
    exact same ▸ controlFree_plainChars chars
  · intro free
    exact plainChars_of_isKept ((controlFree_iff chars).mp free) []

@[simp] theorem toList_plain (text : String) : (plain text).toList = plainChars [] text.toList :=
  String.toList_ofList

/-- The scan of any text, be its escape sequences whole or not, is through after a turn for each
character. Plain text is a subsequence of the text without control characters but line breaks and
tabs; exactly the texts without others are their own plain text, and plain text is one of them. -/
theorem plain_controlFree (text : String) :
    Scan.turn^[text.length] ⟨[], text.toList⟩ = ⟨(plain text).toList.reverse, []⟩ ∧
    (plain text).toList.Sublist text.toList ∧
    ControlFree (plain text).toList ∧
    (plain text = text ↔ ControlFree text.toList) ∧
    plain (plain text) = plain text := by
  have fixed (text : String) : plain text = text ↔ ControlFree text.toList := by
    rw [← String.toList_inj, toList_plain]
    exact plainChars_eq_self_iff text.toList
  have free : ControlFree (plain text).toList := by
    rw [toList_plain]
    exact controlFree_plainChars text.toList
  refine ⟨?_, ?_, free, fixed text, (fixed (plain text)).mpr free⟩
  · rw [toList_plain, ← String.length_toList]
    exact turns_eq text.toList
  · rw [toList_plain]
    exact plainChars_sublist text.toList

end TerminalScript.Text
