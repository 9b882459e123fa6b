import Mathlib.Algebra.BigOperators.Group.List.Basic
import Mathlib.Data.List.Basic
import TerminalScript.Pattern.Basic

/-!
The expression of a text: its characters, each that could mean something else behind a backslash.
Whatever the text is, the expression is read as its characters one after another, and it becomes a
program that tests them one after another. Only a very long text has no program.
-/

namespace TerminalScript.Pattern

def quote (text : List Char) : List Char :=
  text.flatMap fun c => if Parser.isMeta c then ['\\', c] else [c]

def literalNode (text : List Char) : Node :=
  Parser.sequenceOf (text.reverse.map (.literal · false))

def spelling (text : List Char) : List Expression :=
  text.map fun c => .chars (CharSet.single c)

theorem length_le_quote (text : List Char) : text.length ≤ (quote text).length := by
  rw [quote, List.length_flatMap]
  induction text with
  | nil => exact Nat.zero_le _
  | cons c rest ih =>
      rw [List.map_cons, List.sum_cons, List.length_cons]
      split <;> simp only [List.length_cons, List.length_nil] <;> omega

namespace Parser

variable {c : Char} {rest : List Char} {names : List String}

theorem run_bind {α β : Type} {first : Parser α} {next : α → Parser β} {cursor cursor' : Cursor}
    {value : α} (ran : first cursor = some (value, cursor')) :
    (first >>= next) cursor = next value cursor' := by
  simp only [bind, StateT.bind, ran, Option.bind_some]

theorem space_unspaced : space ⟨rest, false, names⟩ = some ((), ⟨rest, false, names⟩) :=
  rfl

theorem peek?_cons : peek? ⟨c :: rest, false, names⟩ = some (some c, ⟨c :: rest, false, names⟩) :=
  rfl

theorem bump_cons : bump ⟨c :: rest, false, names⟩ = some ((), ⟨rest, false, names⟩) :=
  rfl

theorem escape_meta (special : isMeta c = true) :
    escape ⟨'\\' :: c :: rest, false, names⟩ = some (.literal c false, ⟨rest, false, names⟩) := by
  have every : ∀ c ∈ "\\.+*?()|[]\x7b\x7d^$#&-~".toList,
      escape ⟨'\\' :: c :: rest, false, names⟩ =
        some (.literal c false, ⟨rest, false, names⟩) := by
    simp only [String.reduceToList, List.forall_mem_cons]
    exact ⟨rfl, rfl, rfl, rfl, rfl, rfl, rfl, rfl, rfl, rfl, rfl, rfl, rfl, rfl, rfl, rfl, rfl, rfl,
      by simp⟩
  exact every c (List.contains_iff_mem.mp special)

/-- A character that is not special stands for itself wherever it is read. -/
theorem expression_plain (plain : isMeta c = false) (branches parts : List Node) (fuel : Nat) :
    expression branches parts (fuel + 1) ⟨c :: rest, false, names⟩ =
      expression branches (.literal c false :: parts) fuel ⟨rest, false, names⟩ := by
  rw [expression, run_bind space_unspaced, run_bind peek?_cons]
  dsimp only
  split
  case h_13 => exact run_bind bump_cons
  all_goals exact absurd plain (by decide)

theorem expression_meta (special : isMeta c = true) (branches parts : List Node) (fuel : Nat) :
    expression branches parts (fuel + 1) ⟨'\\' :: c :: rest, false, names⟩ =
      expression branches (.literal c false :: parts) fuel ⟨rest, false, names⟩ := by
  rw [expression, run_bind space_unspaced, run_bind peek?_cons]
  exact run_bind (escape_meta special)

theorem expression_quote (text : List Char) (parts : List Node) {fuel : Nat}
    (enough : text.length < fuel) :
    expression [] parts fuel ⟨quote text, false, names⟩ =
      some (sequenceOf (text.reverse.map (.literal · false) ++ parts), ⟨[], false, names⟩) := by
  induction text generalizing parts fuel with
  | nil =>
      obtain ⟨fuel, rfl⟩ := Nat.exists_eq_add_one.mpr enough
      rfl
  | cons c rest ih =>
      obtain ⟨fuel, rfl⟩ := Nat.exists_eq_add_one.mpr (Nat.zero_lt_of_lt enough)
      have later : expression [] (.literal c false :: parts) fuel ⟨quote rest, false, names⟩ =
          some (sequenceOf ((c :: rest).reverse.map (.literal · false) ++ parts),
            ⟨[], false, names⟩) := by
        rw [ih _ (Nat.lt_of_succ_lt_succ enough)]
        simp
      by_cases special : isMeta c = true
      · rw [quote, List.flatMap_cons, if_pos special]
        exact (expression_meta special [] parts fuel).trans later
      · rw [quote, List.flatMap_cons, if_neg special]
        exact (expression_plain (Bool.not_eq_true _ ▸ special) [] parts fuel).trans later

theorem sequenceOf_several {parts : List Node} (several : 2 ≤ parts.length) :
    sequenceOf parts = .concatenation parts.reverse := by
  match parts, several with
  | _ :: _ :: _, _ => rfl

end Parser

variable {text : List Char}

theorem literalNode_cases (filled : text ≠ []) :
    (∃ c, text = [c] ∧ literalNode text = .literal c false) ∨
      literalNode text = .concatenation (text.map (.literal · false)) := by
  have long : 0 < text.length := List.length_pos_iff.mpr filled
  by_cases single : text.length = 1
  · obtain ⟨c, rfl⟩ := List.length_eq_one_iff.mp single
    exact .inl ⟨c, rfl, rfl⟩
  · have several : 2 ≤ (text.reverse.map (Node.literal · false)).length := by
      rw [List.length_map, List.length_reverse]
      omega
    refine .inr ?_
    rw [literalNode, Parser.sequenceOf_several several, ← List.map_reverse, List.reverse_reverse]

theorem itemsDepth_literals (text : List Char) :
    Node.itemsDepth (text.map (.literal · false)) = 0 := by
  induction text with
  | nil => rfl
  | cons c rest ih =>
      rw [List.map_cons, Node.itemsDepth, ih]
      rfl

theorem parse?_quote (filled : text ≠ []) :
    parse? false (String.ofList (quote text)) = some (literalNode text) := by
  have shallow : (literalNode text).depth ≤ depthLimit := by
    rcases literalNode_cases filled with ⟨c, _, same⟩ | same
    · rw [same]
      exact Nat.zero_le _
    · rw [same, Node.depth, itemsDepth_literals]
      decide
  have enough : text.length < 2 * (quote text).length + 2 := by
    have short := length_le_quote text
    omega
  have read : Parser.expression [] [] _ ⟨quote text, false, []⟩ = _ :=
    Parser.expression_quote text [] enough
  rw [List.append_nil] at read
  simp only [parse?, String.toList_ofList, StateT.run, read]
  simp only [bind, Option.bind_some, List.isEmpty_nil, Bool.true_and, decide_eq_true_eq]
  exact if_pos shallow

theorem expressionOf?_literal (c : Char) :
    expressionOf? {} (.literal c false) = some (.chars (CharSet.single c), {}) := by
  rw [expressionOf?]
  rfl

theorem expressionsOf?_literals (text : List Char) :
    expressionsOf? {} (text.map (.literal · false)) = some (spelling text, {}) := by
  induction text with
  | nil =>
      rw [List.map_nil, expressionsOf?]
      rfl
  | cons c rest ih =>
      rw [List.map_cons, expressionsOf?, expressionOf?_literal]
      dsimp only
      rw [ih]
      rfl

/-- A single character is no sequence, but it takes as much and becomes the same code. -/
theorem exists_expression (filled : text ≠ []) :
    ∃ expression, expressionOf? {} (literalNode text) = some (expression, {}) ∧
      expression.size = sizes (spelling text) ∧
      expression.emitter = sequenceEmitter (spelling text) := by
  rcases literalNode_cases filled with ⟨c, rfl, same⟩ | same
  · refine ⟨.chars (CharSet.single c), by rw [same, expressionOf?_literal], ?_, ?_⟩
    · simp [spelling, sizes]
    · funext next code
      simp [spelling, sequenceEmitter]
  · refine ⟨.sequence (spelling text), ?_, ?_, ?_⟩
    · rw [same, expressionOf?, expressionsOf?_literals]
    · rw [Expression.size]
    · rw [Expression.emitter]

theorem sizes_spelling (text : List Char) :
    sizes (spelling text) = literalSize (String.ofList text) := by
  induction text with
  | nil => rfl
  | cons c rest ih =>
      have whole : sizes (spelling (c :: rest)) =
          setSize (CharSet.single c) + sizes (spelling rest) := by
        rw [spelling, List.map_cons, sizes, Expression.size]
        rfl
      have own : setSize (CharSet.single c) = literalSize (String.singleton c) := by
        simp only [setSize, CharSet.single?_single]
      rw [whole, ih, own, literalSize, literalSize, literalSize, ← Nat.mul_add,
        ← String.utf8ByteSize_append, ← String.ofList_cons]

structure Spells (program : Program) (text : List Char) : Prop where
  size : program.instructions.size = text.length + 1
  entry : program.entry = text.length
  accept : program.instructions[0]? = some .accept
  chars : ∀ (left : Nat) (c : Char), text.reverse[left]? = some c →
    program.instructions[left + 1]? = some (.chars (CharSet.single c).toArray left)

theorem spells_spelling (text : List Char) :
    Spells ⟨(sequenceEmitter (spelling text) 0 #[.accept]).1,
      (sequenceEmitter (spelling text) 0 #[.accept]).2⟩ text := by
  induction text with
  | nil => exact ⟨rfl, rfl, rfl, by simp⟩
  | cons c rest ih =>
      have step : sequenceEmitter (spelling (c :: rest)) 0 #[.accept] =
          emit (.chars (CharSet.single c).toArray (sequenceEmitter (spelling rest) 0 #[.accept]).1)
            (sequenceEmitter (spelling rest) 0 #[.accept]).2 := by
        rw [spelling, List.map_cons, sequenceEmitter, Expression.emitter]
        rfl
      obtain ⟨size, entry, accept, chars⟩ := ih
      dsimp only at size entry accept chars
      rw [step, emit, entry]
      constructor
      · dsimp only
        rw [Array.size_push, size, List.length_cons]
      · exact size
      · dsimp only
        rw [Array.getElem?_push, if_neg (by omega)]
        exact accept
      · intro left d there
        dsimp only
        rw [Array.getElem?_push]
        rw [List.reverse_cons, List.getElem?_append, List.length_reverse] at there
        split at there
        · rw [if_neg (by omega)]
          exact chars left d there
        · obtain ⟨last, same⟩ := List.getElem?_eq_some_iff.mp there
          rw [List.length_singleton] at last
          obtain rfl : left = rest.length := by omega
          obtain rfl : c = d := by simpa using same
          rw [if_pos (by omega)]

theorem compile_quote_of_long (filled : text ≠ [])
    (long : sizeLimit < literalSize (String.ofList text)) :
    compile {} (String.ofList (quote text)) = .error (.tooLarge sizeLimit) := by
  obtain ⟨expression, resolved, size, _⟩ := exists_expression filled
  rw [sizes_spelling] at size
  simp only [compile, parse?_quote filled, resolved, size]
  exact if_pos long

/-- A quoted text that is not too long has the program that spells it. -/
theorem compile_quote (filled : text ≠ []) (short : literalSize (String.ofList text) ≤ sizeLimit) :
    ∃ pattern, compile {} (String.ofList (quote text)) = .ok pattern ∧
      Spells pattern.program text := by
  obtain ⟨expression, resolved, size, emitter⟩ := exists_expression filled
  rw [sizes_spelling] at size
  simp only [compile, parse?_quote filled, resolved, size]
  rw [if_neg (Nat.not_lt.mpr short)]
  refine ⟨_, rfl, ?_⟩
  rw [Program.ofExpression, emitter]
  exact spells_spelling text

end TerminalScript.Pattern
