import TerminalScript.Pattern.Basic

/-!
Where the matches of a pattern are. A thread begins at the place of its search or after it, and not
after the place that it has come to, so the matches lie within the text, each after the one before
it.
-/

namespace TerminalScript.Pattern

def Ordered (limit : Nat) : Nat → List Span → Prop
  | place, [] => place ≤ limit
  | place, span :: rest =>
      place ≤ span.start ∧ span.start ≤ span.stop ∧ Ordered limit span.stop rest

theorem Ordered.le {limit place : Nat} {spans : List Span} (ordered : Ordered limit place spans) :
    place ≤ limit := by
  induction spans generalizing place with
  | nil => exact ordered
  | cons span rest ih =>
      obtain ⟨first, own, later⟩ := ordered
      exact Nat.le_trans first (Nat.le_trans own (ih later))

theorem Ordered.mono {limit place earlier : Nat} {spans : List Span}
    (ordered : Ordered limit place spans) (before : earlier ≤ place) :
    Ordered limit earlier spans := by
  cases spans with
  | nil => exact Nat.le_trans before ordered
  | cons span rest => exact ⟨Nat.le_trans before ordered.1, ordered.2⟩

theorem Ordered.stop_le {limit place : Nat} {spans : List Span}
    (ordered : Ordered limit place spans) {span : Span} (member : span ∈ spans) :
    span.stop ≤ limit := by
  induction spans generalizing place with
  | nil => simp at member
  | cons first rest ih =>
      obtain ⟨_, _, later⟩ := ordered
      rcases List.mem_cons.mp member with rfl | other
      · exact later.le
      · exact ih later other

variable {program : Program} {low high place : Nat}

def Threads.Within (low high : Nat) (threads : Threads) : Prop :=
  ∀ thread ∈ threads.list, low ≤ thread.start ∧ thread.start ≤ high

theorem Threads.Within.mono {threads : Threads} {later : Nat}
    (within : threads.Within low high) (after : high ≤ later) : threads.Within low later :=
  fun thread member => ⟨(within thread member).1, Nat.le_trans (within thread member).2 after⟩

theorem follow_within {before after : Option Char} {mark start fuel : Nat} {stack : List Nat}
    {threads : Threads} (own : low ≤ start ∧ start ≤ high) (within : threads.Within low high) :
    (follow program before after mark start fuel stack threads).Within low high := by
  fun_induction follow program before after mark start fuel stack threads with
  | case1 => exact within
  | case2 => exact within
  | case3 _ _ _ _ _ ih => exact ih within
  | case4 _ _ _ _ _ _ _ _ _ ih => exact ih within
  | case5 _ _ _ _ _ _ _ _ _ _ ih => exact ih within
  | case6 fuel index stack threads _ marked _ _ _ ih =>
      apply ih
      intro thread member
      rcases Array.mem_push.mp member with earlier | rfl
      · exact within thread earlier
      · exact own

theorem enter_within {before after : Option Char} {mark start index : Nat} {threads : Threads}
    (own : low ≤ start ∧ start ≤ high) (within : threads.Within low high) :
    (enter program before after mark start index threads).Within low high :=
  follow_within own within

structure Span.Between (low high : Nat) (span : Span) : Prop where
  low : low ≤ span.start
  own : span.start ≤ span.stop
  high : span.stop ≤ high

theorem advance_between (program : Program) (c after : Option Char) {limit : Nat}
    (inside : place ≤ limit) {threads : List Thread}
    (began : ∀ thread ∈ threads, low ≤ thread.start ∧ thread.start ≤ place)
    {found : Option Span} (between : ∀ span ∈ found, span.Between low limit) {next : Threads}
    (within : next.Within low place) :
    let moved := advance program c after place threads found next
    (∀ span ∈ moved.1, span.Between low limit) ∧ moved.2.Within low place := by
  induction threads generalizing found next with
  | nil => exact ⟨between, within⟩
  | cons thread rest ih =>
      obtain ⟨own, others⟩ := List.forall_mem_cons.mp began
      rw [advance]
      split
      · refine ⟨fun span same => ?_, within⟩
        obtain rfl := Option.some.inj same
        exact ⟨own.1, own.2, inside⟩
      · split
        · split
          · exact ih others between (enter_within own within)
          · exact ih others between within
        · exact ih others between within
      · exact ih others between within

theorem searchFrom_between {text : Array Char} {before : Option Char} {fuel : Nat}
    (later : low ≤ place) (enough : place + fuel ≤ text.size + 1) {found : Option Span}
    (between : ∀ span ∈ found, span.Between low text.size) {threads : Threads}
    (within : threads.Within low place) :
    ∀ span ∈ searchFrom program text before fuel place found threads,
      span.Between low text.size := by
  induction fuel generalizing before place found threads with
  | zero => exact between
  | succ fuel ih =>
      let entered : Threads := if found.isSome then threads
        else enter program before text[place]? (place + 1) place program.entry threads
      have begun : entered.Within low place := by
        unfold entered
        split
        · exact within
        · exact enter_within ⟨later, Nat.le_refl place⟩ within
      have empty : Threads.Within low place ⟨#[], entered.marks⟩ := by
        intro thread member
        simp at member
      have moved := advance_between program text[place]? text[place + 1]? (by omega)
        (fun thread member => begun thread (Array.mem_toList_iff.mp member)) between empty
      have step : searchFrom program text before (fuel + 1) place found threads =
          if entered.list.isEmpty ∧ found.isSome then found
          else
            let moved := advance program text[place]? text[place + 1]? place entered.list.toList
              found ⟨#[], entered.marks⟩
            searchFrom program text text[place]? fuel (place + 1) moved.1 moved.2 := rfl
      rw [step]
      split
      · exact between
      · exact ih (Nat.le_succ_of_le later) (by omega) moved.1 (moved.2.mono (Nat.le_succ place))

theorem search?_between {text : Array Char} {span : Span}
    (found : search? program text place = some span) : span.Between place text.size := by
  have empty : Threads.Within place place ⟨#[], Array.replicate program.instructions.size 0⟩ := by
    intro thread member
    simp at member
  rw [search?] at found
  by_cases inside : place ≤ text.size
  · exact searchFrom_between (Nat.le_refl place) (by omega) (by simp) empty span found
  · rw [show text.size + 1 - place = 0 by omega, searchFrom] at found
    cases found

theorem spansFrom_ordered {text : Array Char} {fuel : Nat} {last : Option Nat}
    (inside : place ≤ text.size) :
    Ordered text.size place (spansFrom program text fuel place last) := by
  induction fuel generalizing place last with
  | zero => exact inside
  | succ fuel ih =>
      rw [spansFrom]
      split
      · exact inside
      rename_i span found
      have between := search?_between found
      split
      · split
        · rename_i more
          exact (ih more).mono (Nat.le_succ place)
        · exact inside
      · exact ⟨between.low, between.own, ih between.high⟩

theorem spans_ordered (pattern : Pattern) (text : Array Char) :
    Ordered text.size 0 (pattern.spans text) :=
  spansFrom_ordered (Nat.zero_le _)

end TerminalScript.Pattern
