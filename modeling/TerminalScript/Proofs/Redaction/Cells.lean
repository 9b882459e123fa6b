import Mathlib.Data.List.Induction
import TerminalScript.Proofs.Redaction.Fills
import TerminalScript.Redaction

/-!
The characters of a text while one pattern after another is replaced in it. Each character keeps the
place that it had at first, and the marks that are put in have none, so at any time it is told what
is left of the text and what was struck.
-/

namespace TerminalScript

open Pattern (Span Ordered)

/-- A character in a text that is being redacted, and its place in the text at first. What was put
in has none. -/
structure Cell where
  char : Char
  origin : Option Nat
  deriving Inhabited, DecidableEq

namespace Cell

def ofText (place : Nat) : List Char → List Cell
  | [] => []
  | c :: rest => ⟨c, some place⟩ :: ofText (place + 1) rest

def ofMark (chars : List Char) : List Cell :=
  chars.map fun c => ⟨c, none⟩

def found (pattern : Pattern) (cells : List Cell) : List Span :=
  pattern.spans (cells.map char).toArray

def replaced (cells : List Cell) (pattern : Pattern) : List Cell :=
  Fill.apply 0 cells (Fill.all (ofMark redactedMark.toList) (found pattern cells))

def left (patterns : List Pattern) (text : String) : List Cell :=
  patterns.foldl replaced (ofText 0 text.toList)

theorem chars_ofText (place : Nat) (chars : List Char) :
    (ofText place chars).map char = chars := by
  induction chars generalizing place with
  | nil => rfl
  | cons c rest ih => rw [ofText, List.map_cons, ih]

theorem chars_ofMark (chars : List Char) : (ofMark chars).map char = chars := by
  simp [ofMark, Function.comp_def]

theorem found_ordered (pattern : Pattern) (cells : List Cell) :
    Ordered cells.length 0 (found pattern cells) := by
  simpa [found] using pattern.spans_ordered (cells.map char).toArray

theorem chars_replaced (cells : List Cell) (pattern : Pattern) :
    String.ofList ((replaced cells pattern).map char) =
      pattern.replaceAll redactedMark (String.ofList (cells.map char)) := by
  have ordered := found_ordered pattern cells
  rw [← List.length_map char] at ordered
  rw [replaced, Fill.map_apply_all, chars_ofMark, Pattern.replaceAll, String.toList_ofList,
    ← found, replaceSpans_eq_apply ordered, List.drop_zero]

/-- What is left in the end is the redacted text. -/
theorem chars_left (redactor : Redactor) (text : String) :
    (left redactor.patterns text).map char = (redactor.redact text).toList := by
  have folded (patterns : List Pattern) (cells : List Cell) :
      String.ofList ((patterns.foldl replaced cells).map char) =
        patterns.foldl (fun text pattern => pattern.replaceAll redactedMark text)
          (String.ofList (cells.map char)) := by
    induction patterns generalizing cells with
    | nil => rfl
    | cons pattern rest ih => rw [List.foldl_cons, List.foldl_cons, ih, chars_replaced]
  have whole := congrArg String.toList (folded redactor.patterns (ofText 0 text.toList))
  rwa [String.toList_ofList, chars_ofText, String.ofList_toList] at whole

def Follows (pending : List Char) (place next : Nat) : Prop :=
  (place = next ∧ pending = []) ∨ (place ≤ next ∧ redactedMark.toList <:+: pending)

theorem Follows.le {pending : List Char} {place next : Nat} (follows : Follows pending place next) :
    place ≤ next := by
  rcases follows with ⟨rfl, -⟩ | ⟨before, -⟩
  · exact Nat.le_refl place
  · exact before

/-- Cells that are left of a text from a place on: its characters in their order, and wherever some
of them are missing, a whole mark. What was put in after the last of them is pending. -/
def Traced (text : List Char) : Nat → List Char → List Cell → Prop
  | place, pending, [] => Follows pending place text.length
  | place, pending, ⟨c, none⟩ :: rest =>
      c ∈ redactedMark.toList ∧ Traced text place (pending ++ [c]) rest
  | place, pending, ⟨c, some origin⟩ :: rest =>
      Follows pending place origin ∧ text[origin]? = some c ∧ Traced text (origin + 1) [] rest

namespace Traced

variable {text pending : List Char} {place : Nat} {cells front middle back : List Cell}

theorem ofText (front : List Char) (back : List Char) :
    Traced (front ++ back) front.length [] (Cell.ofText front.length back) := by
  induction back generalizing front with
  | nil => exact .inl (by simp)
  | cons c rest ih =>
      have later := ih (front ++ [c])
      rw [List.append_assoc, List.singleton_append, List.length_append] at later
      exact ⟨.inl ⟨rfl, rfl⟩, by simp, later⟩

/-- After a whole mark, what is left may begin later. -/
theorem after_mark {later : Nat} {earlier : List Char} (traced : Traced text later earlier cells)
    (before : place ≤ later) (marked : redactedMark.toList <:+: pending) :
    Traced text place pending cells := by
  induction cells generalizing place later earlier pending with
  | nil => exact .inr ⟨Nat.le_trans before traced.le, marked⟩
  | cons cell rest ih =>
      obtain ⟨c, _ | origin⟩ := cell
      · exact ⟨traced.1, ih traced.2 before (marked.trans (List.prefix_append _ _).isInfix)⟩
      · exact ⟨.inr ⟨Nat.le_trans before traced.1.le, marked⟩, traced.2⟩

theorem drop {earlier : List Char} (traced : Traced text place earlier (middle ++ back))
    (marked : redactedMark.toList <:+: pending) : Traced text place pending back := by
  induction middle generalizing place earlier with
  | nil => exact after_mark traced (Nat.le_refl place) marked
  | cons cell rest ih =>
      obtain ⟨c, _ | origin⟩ := cell
      · exact ih traced.2
      · exact after_mark (ih traced.2.2) (Nat.le_succ_of_le traced.1.le) marked

theorem ofMark {chars : List Char} (made : ∀ c ∈ chars, c ∈ redactedMark.toList)
    (traced : Traced text place (pending ++ chars) back) :
    Traced text place pending (Cell.ofMark chars ++ back) := by
  induction chars generalizing pending with
  | nil => rwa [List.append_nil] at traced
  | cons c rest ih =>
      obtain ⟨first, others⟩ := List.forall_mem_cons.mp made
      rw [List.append_cons] at traced
      exact ⟨first, ih others traced⟩

theorem replace (traced : Traced text place pending (front ++ middle))
    (change : ∀ place pending, Traced text place pending middle →
      Traced text place pending back) :
    Traced text place pending (front ++ back) := by
  induction front generalizing place pending with
  | nil => exact change place pending traced
  | cons cell rest ih =>
      obtain ⟨c, _ | origin⟩ := cell
      · exact ⟨traced.1, ih traced.2⟩
      · exact ⟨traced.1, traced.2.1, ih traced.2.2⟩

theorem apply {spans : List Span} {start : Nat} (traced : Traced text place pending cells)
    (ordered : Ordered (start + cells.length) start spans) :
    Traced text place pending
      (Fill.apply start cells (Fill.all (Cell.ofMark redactedMark.toList) spans)) := by
  induction spans generalizing start place pending cells with
  | nil => exact traced
  | cons span rest ih =>
      obtain ⟨first, own, later⟩ := ordered
      have inside := later.le
      have past : span.start - start + (span.stop - span.start) = span.stop - start := by omega
      rw [← List.take_append_drop (span.start - start) cells] at traced
      refine traced.replace fun place pending traced => ?_
      -- What the span takes in is dropped, and the mark is pending in its place.
      rw [← List.take_append_drop (span.stop - span.start) (List.drop _ cells), List.drop_drop,
        past] at traced
      have dropped := traced.drop (List.suffix_append pending redactedMark.toList).isInfix
      refine ofMark (fun _ member => member) (ih dropped ?_)
      rwa [List.length_drop, show span.stop + (cells.length - (span.stop - start)) =
        start + cells.length by omega]

end Traced

def Keeps (cells : List Cell) (place : Nat) : Prop :=
  ∃ cell ∈ cells, cell.origin = some place

def Strikes (pattern : Pattern) (cells : List Cell) (place : Nat) : Prop :=
  ∃ index cell, cells[index]? = some cell ∧ cell.origin = some place ∧
    Inside (found pattern cells) index

theorem keeps_cons {cell : Cell} {rest : List Cell} {place : Nat} :
    Keeps (cell :: rest) place ↔ cell.origin = some place ∨ Keeps rest place := by
  simp [Keeps]

namespace Traced

variable {text pending : List Char} {place : Nat} {cells : List Cell}

theorem bounds (traced : Traced text place pending cells) {origin : Nat}
    (keeps : Keeps cells origin) : place ≤ origin ∧ origin < text.length := by
  induction cells generalizing place pending with
  | nil => simp [Keeps] at keeps
  | cons cell rest ih =>
      obtain ⟨c, _ | own⟩ := cell
      · exact ih traced.2 ((keeps_cons.mp keeps).resolve_left (by simp))
      · obtain ⟨follows, held, later⟩ := traced
        have inside := follows.le
        rcases keeps_cons.mp keeps with same | kept
        · obtain rfl : own = origin := Option.some.inj same
          exact ⟨inside, (List.getElem?_eq_some_iff.mp held).1⟩
        · have both := ih later kept
          omega

/-- A character is left at one place only. -/
theorem index_unique (traced : Traced text place pending cells) {index other : Nat}
    {first second : Cell} {origin : Nat} (held : cells[index]? = some first)
    (held' : cells[other]? = some second) (own : first.origin = some origin)
    (own' : second.origin = some origin) : index = other := by
  induction cells generalizing place pending index other with
  | nil => simp at held
  | cons cell rest ih =>
      have later : ∃ place pending, Traced text place pending rest ∧
          ∀ origin ∈ cell.origin, ¬Keeps rest origin := by
        obtain ⟨c, _ | start⟩ := cell
        · exact ⟨place, _, traced.2, by simp⟩
        · refine ⟨start + 1, [], traced.2.2, fun origin same kept => ?_⟩
          obtain rfl := Option.some.inj same
          exact absurd (traced.2.2.bounds kept).1 (by omega)
      obtain ⟨start, pending, traced, apart⟩ := later
      cases index with
      | zero =>
          obtain rfl := Option.some.inj held
          cases other with
          | zero => rfl
          | succ other => exact absurd ⟨second, List.mem_of_getElem? held', own'⟩ (apart origin own)
      | succ index =>
          cases other with
          | zero =>
              obtain rfl := Option.some.inj held'
              exact absurd ⟨first, List.mem_of_getElem? held, own⟩ (apart origin own')
          | succ other => rw [ih traced held held']

end Traced

theorem getElem?_ofText (start : Nat) (chars : List Char) (place : Nat) :
    (ofText start chars)[place]? = chars[place]?.map fun c => ⟨c, some (start + place)⟩ := by
  induction chars generalizing start place with
  | nil => rfl
  | cons c rest ih =>
      cases place with
      | zero => rfl
      | succ place =>
          rw [ofText, List.getElem?_cons_succ, List.getElem?_cons_succ, ih, Nat.add_right_comm,
            Nat.add_assoc]

/-- A match that is found again as it was is struck as a whole. -/
theorem strikes_of_infix {text : List Char} {cells : List Cell} {pattern : Pattern} {span again : Span}
    (found : again ∈ found pattern cells)
    (same : ((ofText 0 text).take span.stop).drop span.start <:+:
      (cells.take again.stop).drop again.start) {place : Nat} (first : span.start ≤ place)
    (last : place < span.stop) (inside : place < text.length) : Strikes pattern cells place := by
  have own : ((ofText 0 text).take span.stop)[place]? = some ⟨text[place], some place⟩ := by
    simp [last, getElem?_ofText, inside]
  have member : (⟨text[place], some place⟩ : Cell) ∈ (cells.take again.stop).drop again.start := by
    refine same.subset (List.mem_iff_getElem?.mpr ⟨place - span.start, ?_⟩)
    rw [List.getElem?_drop, Nat.add_sub_cancel' first, own]
  obtain ⟨offset, held⟩ := List.mem_iff_getElem?.mp member
  rw [List.getElem?_drop, List.getElem?_take] at held
  split at held
  · rename_i before
    exact ⟨again.start + offset, _, held, rfl, again, found, Nat.le_add_right _ _, before⟩
  · cases held

theorem keeps_replaced {text : List Char} {cells : List Cell} (traced : Traced text 0 [] cells)
    (pattern : Pattern) {place : Nat} :
    Keeps (replaced cells pattern) place ↔ Keeps cells place ∧ ¬Strikes pattern cells place := by
  have ordered := found_ordered pattern cells
  rw [← Fill.spans_all (ofMark redactedMark.toList) (found pattern cells)] at ordered
  simp only [Keeps, replaced, Fill.mem_apply ordered, Fill.spans_all, Nat.zero_add]
  constructor
  · rintro ⟨cell, ⟨fill, member, marked⟩ | ⟨index, held, outside⟩, own⟩
    · obtain ⟨span, -, rfl⟩ := List.mem_map.mp member
      obtain ⟨c, -, rfl⟩ := List.mem_map.mp marked
      cases own
    · refine ⟨⟨cell, List.mem_of_getElem? held, own⟩, ?_⟩
      rintro ⟨other, cell', held', own', inside⟩
      exact outside (traced.index_unique held held' own own' ▸ inside)
  · rintro ⟨⟨cell, member, own⟩, unstruck⟩
    obtain ⟨index, held⟩ := List.mem_iff_getElem?.mp member
    exact ⟨cell, .inr ⟨index, held, fun inside => unstruck ⟨index, cell, held, own, inside⟩⟩, own⟩

theorem keeps_ofText (start : Nat) (chars : List Char) {place : Nat} :
    Keeps (ofText start chars) place ↔ start ≤ place ∧ place < start + chars.length := by
  induction chars generalizing start with
  | nil => simp [ofText, Keeps]
  | cons c rest ih =>
      rw [ofText, keeps_cons, ih, List.length_cons, Option.some_inj]
      omega

theorem left_traced (patterns : List Pattern) (text : String) :
    Traced text.toList 0 [] (left patterns text) := by
  have folded (cells : List Cell) (traced : Traced text.toList 0 [] cells) :
      Traced text.toList 0 [] (patterns.foldl replaced cells) := by
    induction patterns generalizing cells with
    | nil => exact traced
    | cons pattern rest ih =>
        refine ih _ (traced.apply ?_)
        rw [Nat.zero_add]
        exact found_ordered pattern cells
  exact folded _ (Traced.ofText [] text.toList)

theorem left_concat (patterns : List Pattern) (pattern : Pattern) (text : String) :
    left (patterns ++ [pattern]) text = replaced (left patterns text) pattern := by
  rw [left, List.foldl_append]
  rfl

/-- A character of the text is gone exactly if one of the patterns found it in what the patterns
before it had left. -/
theorem not_keeps_left {patterns : List Pattern} {text : String} {place : Nat}
    (inside : place < text.toList.length) :
    ¬Keeps (left patterns text) place ↔
      ∃ before pattern after, patterns = before ++ pattern :: after ∧
        Strikes pattern (left before text) place := by
  induction patterns using List.reverseRecOn with
  | nil =>
      have kept : Keeps (left [] text) place := (keeps_ofText 0 text.toList).mpr (by omega)
      simp [kept]
  | append_singleton earlier last ih =>
      rw [left_concat, keeps_replaced (left_traced earlier text), not_and_not_right]
      constructor
      · intro struck
        by_cases kept : Keeps (left earlier text) place
        · exact ⟨earlier, last, [], rfl, struck kept⟩
        · obtain ⟨before, pattern, after, same, found⟩ := ih.mp kept
          exact ⟨before, pattern, after ++ [last], by simp [same], found⟩
      · rintro ⟨before, pattern, after, same, struck⟩ kept
        rcases List.eq_nil_or_concat after with rfl | ⟨others, final, rfl⟩
        · obtain ⟨rfl, ends⟩ := List.append_inj' same rfl
          obtain rfl := List.singleton_inj.mp ends
          exact struck
        · rw [List.concat_eq_append, ← List.cons_append, ← List.append_assoc] at same
          obtain ⟨rfl, -⟩ := List.append_inj' same rfl
          exact absurd kept (ih.mpr ⟨before, pattern, others, rfl, struck⟩)

end Cell

end TerminalScript
