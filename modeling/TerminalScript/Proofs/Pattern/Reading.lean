import TerminalScript.Proofs.Matcher.Occurrences
import TerminalScript.Proofs.Pattern.Quotation

/-!
The search for the program that spells a text. Its threads are the places where the text may have
begun, the earliest first, and each waits at the instruction for the next character. So the search
finds the first place where the text stands, and the matches are its occurrences from left to right.
-/

namespace TerminalScript.Pattern

variable {program : Program} {literal : List Char} {text : Array Char} {low place start : Nat}

structure Reading (literal : List Char) (text : Array Char) (place start : Nat) : Prop where
  ahead : place ≤ start + literal.length
  read : ∀ count, start + count < place → text[start + count]? = literal[count]?

theorem reading_self : Reading literal text place place :=
  ⟨Nat.le_add_right _ _, fun count impossible => by omega⟩

theorem reading_succ (begun : start ≤ place) :
    Reading literal text (place + 1) start ↔
      Reading literal text place start ∧ place < start + literal.length ∧
        text[place]? = literal[place - start]? := by
  constructor
  · rintro ⟨ahead, read⟩
    have last := read (place - start) (by omega)
    rw [Nat.add_sub_cancel' begun] at last
    exact ⟨⟨by omega, fun count before => read count (by omega)⟩, by omega, last⟩
  · rintro ⟨⟨_, read⟩, ahead, last⟩
    refine ⟨ahead, fun count before => ?_⟩
    rcases Nat.lt_or_eq_of_le (Nat.le_of_lt_succ before) with earlier | same
    · exact read count earlier
    · rw [same, last, ← same, Nat.add_sub_cancel_left]

theorem reading_end_iff :
    Reading literal text (start + literal.length) start ↔ literal <+: text.toList.drop start := by
  rw [List.prefix_iff_getElem?]
  constructor
  · intro reading count inside
    rw [List.getElem?_drop, Array.getElem?_toList, reading.read count (by omega),
      List.getElem?_eq_getElem inside]
  · intro same
    refine ⟨Nat.le_refl _, fun count before => ?_⟩
    have inside : count < literal.length := by omega
    have there := same count inside
    rwa [List.getElem?_drop, Array.getElem?_toList, ← List.getElem?_eq_getElem inside] at there

theorem reading_of_occurs (occurs : literal <+: text.toList.drop start)
    (ahead : place ≤ start + literal.length) : Reading literal text place start :=
  ⟨ahead, fun count before => (reading_end_iff.mpr occurs).read count (by omega)⟩

theorem end_le_of_occurs (filled : literal ≠ []) (occurs : literal <+: text.toList.drop start) :
    start + literal.length ≤ text.size := by
  have long : 0 < literal.length := List.length_pos_iff.mpr filled
  have size : text.toList.length = text.size := Array.length_toList
  have fits := occurs.length_le
  rw [List.length_drop, size] at fits
  omega

theorem contains_single (c d : Char) :
    Unicode.RangeSet.contains (CharSet.single c).toArray d.toNat = true ↔ d = c := by
  have same : d = c ↔ d.toNat = c.toNat := by rw [Char.toNat_inj]
  have below : Unicode.countBelow
      (fun index => ((CharSet.single c).toArray[index]?.getD
        (Unicode.codeLimit, Unicode.codeLimit)).1) d.toNat (CharSet.single c).toArray.size =
      if c.toNat ≤ d.toNat then 1 else 0 := by
    simp [Unicode.countBelow, CharSet.single, Unicode.countBelow.search]
  rw [Unicode.RangeSet.contains, below, same]
  by_cases reached : c.toNat ≤ d.toNat
  · simp only [reached, if_true, CharSet.single]
    simp
    omega
  · simp [reached]
    omega

theorem follow_nil {before after : Option Char} {mark start fuel : Nat} {threads : Threads} :
    follow program before after mark start fuel [] threads = threads := by
  cases fuel <;> rfl

namespace Spells

theorem stays (spells : Spells program literal) {index : Nat} (inside : index ≤ literal.length) :
    program.instructions[index]? = some .accept ∨
      ∃ set next, program.instructions[index]? = some (.chars set next) := by
  cases index with
  | zero => exact .inl spells.accept
  | succ left =>
      have bound : left < literal.reverse.length := by
        rw [List.length_reverse]
        omega
      exact .inr ⟨_, _, spells.chars left _ (List.getElem?_eq_getElem bound)⟩

theorem enter_eq (spells : Spells program literal) {before after : Option Char}
    {mark index : Nat} (inside : index ≤ literal.length) {threads : Threads}
    (size : threads.marks.size = literal.length + 1) (fresh : threads.marks[index]? ≠ some mark) :
    enter program before after mark start index threads =
      ⟨threads.list.push ⟨index, start⟩, threads.marks.setIfInBounds index mark⟩ := by
  have known : index < threads.marks.size := by omega
  have marked := Array.getElem?_eq_getElem known
  rw [marked] at fresh
  rw [enter, follow, marked, Option.getD_some, if_neg fun same => fresh (congrArg some same)]
  rcases spells.stays inside with there | ⟨set, next, there⟩
  · simp only [there, follow_nil]
  · simp only [there, follow_nil]

end Spells

/-- A thread that waits for one character moves on if that is the one that comes. -/
theorem advance_single {read after : Option Char} {thread : Thread} {rest : List Thread}
    {found : Option Span} {next : Threads} {c : Char} {target : Nat}
    (there : program.instructions[thread.position]? =
      some (.chars (CharSet.single c).toArray target)) :
    advance program read after place (thread :: rest) found next =
      if read = some c then
        advance program read after place rest found
          (enter program read after (place + 2) thread.start target next)
      else advance program read after place rest found next := by
  rw [advance]
  simp only [there]
  cases read with
  | none => rfl
  | some d =>
      simp only [contains_single, Option.some.injEq]

def threadAt (literal : List Char) (place start : Nat) : Thread :=
  ⟨start + literal.length - place, start⟩

structure Marks (literal : List Char) (bound : Nat) (marks : Array Nat) : Prop where
  size : marks.size = literal.length + 1
  le : ∀ mark ∈ marks, mark ≤ bound

theorem Marks.set {bound mark : Nat} {marks : Array Nat} (held : Marks literal bound marks)
    (below : mark ≤ bound) (index : Nat) :
    Marks literal bound (marks.setIfInBounds index mark) := by
  refine ⟨by rw [Array.size_setIfInBounds, held.size], fun other member => ?_⟩
  rcases Array.mem_or_eq_of_mem_setIfInBounds member with kept | rfl
  · exact held.le other kept
  · exact below

theorem Marks.mono {bound more : Nat} {marks : Array Nat} (held : Marks literal bound marks)
    (above : bound ≤ more) : Marks literal more marks :=
  ⟨held.size, fun mark member => Nat.le_trans (held.le mark member) above⟩

theorem Marks.ne {bound mark index : Nat} {marks : Array Nat} (held : Marks literal bound marks)
    (above : bound < mark) : marks[index]? ≠ some mark := by
  intro there
  have low := held.le mark (Array.mem_of_getElem? there)
  omega

/-- The instruction of a thread that has not read all of the literal tests its next character. -/
theorem Spells.exists_waits (spells : Spells program literal) (begun : start ≤ place)
    (ahead : place < start + literal.length) :
    ∃ c, literal[place - start]? = some c ∧
      program.instructions[(threadAt literal place start).position]? =
        some (.chars (CharSet.single c).toArray (start + literal.length - (place + 1))) := by
  have inside : place - start < literal.length := by omega
  refine ⟨literal[place - start], List.getElem?_eq_getElem inside, ?_⟩
  have mirrored : literal.length - 1 - (start + literal.length - (place + 1)) = place - start := by
    omega
  have next : literal.reverse[start + literal.length - (place + 1)]? =
      some literal[place - start] := by
    rw [List.getElem?_reverse (by omega), mirrored, List.getElem?_eq_getElem inside]
  have position : (threadAt literal place start).position =
      start + literal.length - (place + 1) + 1 := by
    change start + literal.length - place = _
    omega
  rw [position, spells.chars _ _ next]

/-- The threads that read on past a character are those whose next one it is. -/
theorem Spells.advance_reading (spells : Spells program literal) (text : Array Char)
    (after : Option Char) {starts : List Nat} (ascending : starts.Pairwise (· < ·))
    (begun : ∀ start ∈ starts, start ≤ place ∧ place < start + literal.length) (next : Threads)
    (marks : Marks literal (place + 2) next.marks)
    (fresh : ∀ start ∈ starts,
      next.marks[start + literal.length - (place + 1)]? ≠ some (place + 2)) :
    let moved := advance program text[place]? after place
      (starts.map (threadAt literal place)) none next
    moved.1 = none ∧
    moved.2.list.toList = next.list.toList ++
      (starts.filter fun start => text[place]? = literal[place - start]?).map
        (threadAt literal (place + 1)) ∧
    Marks literal (place + 2) moved.2.marks ∧
    moved.2.marks[literal.length]? = next.marks[literal.length]? := by
  induction starts generalizing next with
  | nil => exact ⟨rfl, by simp [advance], marks, rfl⟩
  | cons start rest ih =>
      obtain ⟨before, later⟩ := List.pairwise_cons.mp ascending
      obtain ⟨⟨own, ahead⟩, others⟩ := List.forall_mem_cons.mp begun
      obtain ⟨unmarked, unmarked_others⟩ := List.forall_mem_cons.mp fresh
      obtain ⟨c, waits, there⟩ := spells.exists_waits own ahead
      rw [List.map_cons, advance_single there, List.filter_cons, waits]
      by_cases same : text[place]? = some c
      · -- Threads that began later wait further on, so this one marks no instruction of theirs.
        have still : ∀ other ∈ rest, (next.marks.setIfInBounds
            (start + literal.length - (place + 1)) (place + 2))[
              other + literal.length - (place + 1)]? ≠ some (place + 2) := by
          intro other member
          have beyond := before other member
          rw [Array.getElem?_setIfInBounds_ne (by omega)]
          exact unmarked_others other member
        obtain ⟨unfound, list, marks', kept⟩ := ih later others
          ⟨next.list.push (threadAt literal (place + 1) start),
            next.marks.setIfInBounds (start + literal.length - (place + 1)) (place + 2)⟩
          (marks.set (Nat.le_refl _) _) still
        rw [if_pos same, if_pos (by simpa using same),
          spells.enter_eq (by omega) marks.size unmarked]
        refine ⟨unfound, list.trans ?_, marks', kept.trans ?_⟩
        · rw [Array.toList_push, List.append_assoc, List.map_cons]
          rfl
        · exact Array.getElem?_setIfInBounds_ne (by omega)
      · rw [if_neg same, if_neg (by simpa using same)]
        exact ih later others next marks unmarked_others

/-- The places where the literal may have begun are known, and so are the instructions at which
their threads wait. -/
structure Tracks (literal : List Char) (text : Array Char) (low stop place : Nat)
    (starts : List Nat) (list : Array Thread) : Prop where
  list : list.toList = starts.map (threadAt literal place)
  ascending : starts.Pairwise (· < ·)
  mem_iff : ∀ start, start ∈ starts ↔
    low ≤ start ∧ start < stop ∧ Reading literal text place start

theorem Tracks.enter {starts : List Nat} {list : Array Thread}
    (tracks : Tracks literal text low place place starts list) (later : low ≤ place) :
    Tracks literal text low (place + 1) place (starts ++ [place])
      (list.push ⟨literal.length, place⟩) := by
  constructor
  · have own : threadAt literal place place = ⟨literal.length, place⟩ := by
      rw [threadAt, Nat.add_sub_cancel_left]
    rw [Array.toList_push, tracks.list, List.map_append, ← own]
    rfl
  · refine List.pairwise_append.mpr ⟨tracks.ascending, List.pairwise_singleton _ _, ?_⟩
    intro start member last single
    rw [List.mem_singleton.mp single]
    exact ((tracks.mem_iff start).mp member).2.1
  · intro start
    rw [List.mem_append, List.mem_singleton, tracks.mem_iff]
    constructor
    · rintro (⟨above, below, reading⟩ | rfl)
      · exact ⟨above, by omega, reading⟩
      · exact ⟨later, Nat.lt_succ_self _, reading_self⟩
    · rintro ⟨above, below, reading⟩
      rcases Nat.lt_or_eq_of_le (Nat.le_of_lt_succ below) with earlier | same
      · exact .inl ⟨above, earlier, reading⟩
      · exact .inr same

/-- The threads that have not read all of the literal by a place. -/
theorem Tracks.advance {starts : List Nat} {list moved : Array Thread}
    (tracks : Tracks literal text low (place + 1) place starts list)
    (unfinished : ∀ start ∈ starts, place < start + literal.length)
    (moved_list : moved.toList =
      (starts.filter fun start => text[place]? = literal[place - start]?).map
        (threadAt literal (place + 1))) :
    Tracks literal text low (place + 1) (place + 1)
      (starts.filter fun start => text[place]? = literal[place - start]?) moved := by
  refine ⟨moved_list, tracks.ascending.filter _, fun start => ?_⟩
  rw [List.mem_filter, decide_eq_true_eq]
  constructor
  · rintro ⟨member, next⟩
    obtain ⟨above, below, reading⟩ := (tracks.mem_iff start).mp member
    exact ⟨above, below, (reading_succ (by omega)).mpr ⟨reading, unfinished start member, next⟩⟩
  · rintro ⟨above, below, reading⟩
    obtain ⟨reading, _, next⟩ := (reading_succ (by omega)).mp reading
    exact ⟨(tracks.mem_iff start).mpr ⟨above, below, reading⟩, next⟩

/-- The threads that read the whole literal by a place began first. -/
theorem Tracks.eq_cons_of_finished {stop : Nat} {starts : List Nat} {list : Array Thread}
    (tracks : Tracks literal text low stop place starts list) (member : start ∈ starts)
    (finished : start + literal.length = place) : ∃ rest, starts = start :: rest := by
  cases starts with
  | nil => simp at member
  | cons first rest =>
      rcases List.mem_cons.mp member with rfl | behind
      · exact ⟨rest, rfl⟩
      · have before := (List.pairwise_cons.mp tracks.ascending).1 start behind
        have ahead := ((tracks.mem_iff first).mp (by simp)).2.2.ahead
        omega

theorem Spells.advance_finished (spells : Spells program literal)
    (finished : start + literal.length = place) {read after : Option Char} {rest : List Thread}
    {next : Threads} :
    Pattern.advance program read after place (threadAt literal place start :: rest) none next =
      (some ⟨start, place⟩, next) := by
  have position : (threadAt literal place start).position = 0 := by
    change start + literal.length - place = 0
    omega
  rw [Pattern.advance, position]
  simp only [spells.accept, threadAt]

def FirstMatch (literal : List Char) (text : Array Char) (low : Nat) : Option Span → Prop
  | none => ∀ start, low ≤ start → ¬literal <+: text.toList.drop start
  | some span => low ≤ span.start ∧ span.stop = span.start + literal.length ∧
      literal <+: text.toList.drop span.start ∧
      ∀ start, low ≤ start → start < span.start → ¬literal <+: text.toList.drop start

def Missed (literal : List Char) (text : Array Char) (low place : Nat) : Prop :=
  ∀ start, low ≤ start → start + literal.length < place → ¬literal <+: text.toList.drop start

theorem Tracks.firstMatch {starts : List Nat} {list : Array Thread}
    (tracks : Tracks literal text low (place + 1) place starts list)
    (missed : Missed literal text low place) (member : start ∈ starts)
    (finished : start + literal.length = place) :
    FirstMatch literal text low (some ⟨start, place⟩) := by
  obtain ⟨above, _, reading⟩ := (tracks.mem_iff start).mp member
  refine ⟨above, finished.symm, reading_end_iff.mp (finished ▸ reading), ?_⟩
  intro earlier above before
  exact missed earlier above (finished ▸ Nat.add_lt_add_right before literal.length)

theorem Tracks.missed_succ {starts : List Nat} {list : Array Thread}
    (tracks : Tracks literal text low (place + 1) place starts list)
    (missed : Missed literal text low place)
    (unfinished : ∀ start ∈ starts, place < start + literal.length) :
    Missed literal text low (place + 1) := by
  intro start above before occurs
  rcases Nat.lt_or_eq_of_le (Nat.le_of_lt_succ before) with earlier | same
  · exact missed start above earlier occurs
  · have reading : Reading literal text place start := reading_of_occurs occurs (by omega)
    have ahead := unfinished start ((tracks.mem_iff start).mpr ⟨above, by omega, reading⟩)
    exact absurd same.symm (Nat.ne_of_lt ahead)

theorem searchFrom_found {before : Option Char} {fuel : Nat} {span : Span} {marks : Array Nat} :
    searchFrom program text before fuel place (some span) ⟨#[], marks⟩ = some span := by
  cases fuel with
  | zero => rfl
  | succ fuel => rfl

/-- As long as nothing is found, a thread begins at each place. -/
theorem Spells.searchFrom_succ (spells : Spells program literal) {before : Option Char} {fuel : Nat}
    {threads : Threads} (size : threads.marks.size = literal.length + 1)
    (fresh : threads.marks[literal.length]? ≠ some (place + 1)) :
    searchFrom program text before (fuel + 1) place none threads =
      let moved := advance program text[place]? text[place + 1]? place
        (threads.list.push ⟨literal.length, place⟩).toList none
        ⟨#[], threads.marks.setIfInBounds literal.length (place + 1)⟩
      searchFrom program text text[place]? fuel (place + 1) moved.1 moved.2 := by
  have entering : enter program before text[place]? (place + 1) place program.entry threads =
      ⟨threads.list.push ⟨literal.length, place⟩,
        threads.marks.setIfInBounds literal.length (place + 1)⟩ := by
    rw [spells.entry]
    exact spells.enter_eq (Nat.le_refl _) size fresh
  rw [searchFrom]
  simp only [Option.isSome_none, Bool.false_eq_true, if_false, and_false, entering]

theorem Spells.searchFrom_first (spells : Spells program literal) (filled : literal ≠ [])
    {before : Option Char} {fuel : Nat} (enough : place + fuel = text.size + 1)
    (later : low ≤ place) {starts : List Nat} {threads : Threads}
    (tracks : Tracks literal text low place place starts threads.list)
    (marks : Marks literal (place + 1) threads.marks)
    (fresh : threads.marks[literal.length]? ≠ some (place + 1))
    (missed : Missed literal text low place) :
    FirstMatch literal text low (searchFrom program text before fuel place none threads) := by
  induction fuel generalizing before place starts threads with
  | zero =>
      intro start above occurs
      have inside := end_le_of_occurs filled occurs
      exact missed start above (by omega) occurs
  | succ fuel ih =>
      have entered := tracks.enter later
      have marked := marks.set (Nat.le_refl _) literal.length
      rw [spells.searchFrom_succ marks.size fresh, entered.list]
      by_cases finished : ∃ start ∈ starts ++ [place], start + literal.length = place
      · -- The thread that has read it all comes first, and it ends those that began after it.
        obtain ⟨start, member, finished⟩ := finished
        obtain ⟨rest, same⟩ := entered.eq_cons_of_finished member finished
        rw [same, List.map_cons, spells.advance_finished finished]
        dsimp only
        rw [searchFrom_found]
        exact entered.firstMatch missed member finished
      · have unfinished : ∀ start ∈ starts ++ [place], place < start + literal.length := by
          intro start member
          have ahead := ((entered.mem_iff start).mp member).2.2.ahead
          exact Nat.lt_of_le_of_ne ahead fun same => finished ⟨start, member, same.symm⟩
        have begun : ∀ start ∈ starts ++ [place], start ≤ place ∧ place < start + literal.length :=
          fun start member => ⟨Nat.le_of_lt_succ ((entered.mem_iff start).mp member).2.1,
            unfinished start member⟩
        obtain ⟨unfound, list, marks, kept⟩ := spells.advance_reading text text[place + 1]?
          entered.ascending begun ⟨#[], threads.marks.setIfInBounds literal.length (place + 1)⟩
          (marked.mono (Nat.le_succ _)) (fun _ _ => marked.ne (Nat.lt_succ_self _))
        dsimp only
        rw [unfound]
        exact ih (by omega) (by omega) (entered.advance unfinished (by simpa using list)) marks
          (kept ▸ marked.ne (Nat.lt_succ_self _)) (entered.missed_succ missed unfinished)

theorem Spells.search?_first (spells : Spells program literal) (filled : literal ≠ [])
    (inside : place ≤ text.size) :
    FirstMatch literal text place (search? program text place) := by
  have empty : Tracks literal text place place place [] #[] := ⟨rfl, .nil, by simp; omega⟩
  have unread : Missed literal text place place := fun start above before => by omega
  rw [search?]
  refine spells.searchFrom_first filled (by omega) (Nat.le_refl place) empty ?_ ?_ unread
  · exact ⟨by rw [Array.size_replicate, spells.size], by simp⟩
  · rw [Array.getElem?_replicate]
    split <;> simp

end TerminalScript.Pattern
