import TerminalScript.Proofs.Macro.Filling

/-!
Filling a step that was read. A field of a step is a text, which is kept as it was written, or it
has no placeholders once it was read. So what was read of a step is filled as what was written is.
-/

namespace TerminalScript

open Json Document Placeholder

section Faithful

variable {α : Type} {reader : Reader α} {encode : α → Value}

structure Faithful (reader : Reader α) (encode : α → Value) : Prop where
  read : ∀ {value item}, reader value = .ok item → ∀ arguments,
    reader (substitute arguments (encode item)) = reader (substitute arguments value)
  nullable : ∀ {value item}, reader value = .ok item → value ≠ .null → ∀ arguments,
    nullable reader (substitute arguments (encode item)) =
      nullable reader (substitute arguments value)

theorem faithful_of_exact (exact : ∀ value item, reader value = .ok item → encode item = value) :
    Faithful reader encode := by
  constructor
  · intro value item read arguments
    rw [exact value item read]
  · intro value item read _ arguments
    rw [exact value item read]

theorem faithful_of_fixed (codec : Codec reader encode)
    (fixed : ∀ arguments value item, reader value = .ok item →
      substitute arguments value = value) : Faithful reader encode := by
  have kept : ∀ arguments item, substitute arguments (encode item) = encode item :=
    fun arguments item => fixed arguments (encode item) item (codec.read item)
  constructor
  · intro value item read arguments
    rw [kept, fixed arguments value item read, codec.read, read]
  · intro value item read present arguments
    rw [kept, fixed arguments value item read, nullable_of_ne_null (codec.present item)
      (codec.read item), nullable_of_ne_null present read]

theorem faithful_of_number (codec : Codec reader encode)
    (numeric : ∀ value item, reader value = .ok item → ∃ number, value = .number number) :
    Faithful reader encode := by
  refine faithful_of_fixed codec fun arguments value item read => ?_
  obtain ⟨number, rfl⟩ := numeric value item read
  rfl

theorem faithful_text : Faithful text Value.text := by
  refine faithful_of_exact fun value item read => ?_
  cases value <;> cases read
  rfl

theorem faithful_texts : Faithful (list text) Value.ofTexts := by
  refine faithful_of_exact fun value items read => ?_
  cases value with
  | array values =>
      rw [list, mapM_eq_ok] at read
      have same : items.map Value.text = values := by
        rw [← List.forall₂_eq_eq_eq, List.forall₂_map_left_iff]
        refine read.flip.imp fun item value read => ?_
        cases value <;> cases read
        rfl
      rw [Value.ofTexts, same]
  | _ => cases read

theorem word64_number {expected : String} (value : Value) (item : UInt64)
    (read : word64 expected value = .ok item) : ∃ number, value = .number number := by
  cases value with
  | number number => exact ⟨number, rfl⟩
  | _ => cases read

theorem faithful_milliseconds : Faithful milliseconds (.number ∘ .natural) :=
  faithful_of_number .milliseconds word64_number

theorem faithful_count : Faithful count (.number ∘ .natural) :=
  faithful_of_number .count word64_number

theorem faithful_word16 : Faithful word16 (.number ∘ .natural ∘ UInt16.toUInt64) := by
  refine faithful_of_number .word16 fun value item read => ?_
  cases value with
  | number number => exact ⟨number, rfl⟩
  | _ => cases read

theorem faithful_word32 : Faithful word32 (.number ∘ .natural ∘ UInt32.toUInt64) := by
  refine faithful_of_number .word32 fun value item read => ?_
  cases value with
  | number number => exact ⟨number, rfl⟩
  | _ => cases read

theorem faithful_signed : Faithful integer32 StepKind.toFields.signed := by
  refine faithful_of_number StepKind.signedCodec fun value item read => ?_
  cases value with
  | number number => exact ⟨number, rfl⟩
  | _ => cases read

variable {variants : List (String × α)} {loose : Bool}

theorem substitute_of_choice (plain : ∀ name ∈ variants.map Prod.fst, '$' ∉ name.toList)
    {value : Value} {item : α} (read : choice loose variants value = .ok item)
    (arguments : Arguments) : substitute arguments value = value := by
  have known : ∀ name, choice.find variants name = .ok item → '$' ∉ name.toList := by
    intro name found
    rw [choice.find] at found
    split at found
    · rename_i lookup
      obtain ⟨before, after, same, _⟩ := List.lookup_eq_some_iff.mp lookup
      exact plain name (by simp [same])
    · cases found
  unfold choice at read
  split at read
  · exact substitute_of_plain (known _ read)
  · obtain ⟨_, _, read⟩ := bind_eq_ok.mp read
    split at read
    · rfl
    · rfl
    · cases read
  · cases read
  · cases read

theorem faithful_choice (codec : Codec (choice loose variants) encode)
    (plain : ∀ name ∈ variants.map Prod.fst, '$' ∉ name.toList) :
    Faithful (choice loose variants) encode :=
  faithful_of_fixed codec fun arguments _ _ read => substitute_of_choice plain read arguments

theorem faithful_choices {encode : List α → Value}
    (codec : Codec (list (choice loose variants)) encode)
    (plain : ∀ name ∈ variants.map Prod.fst, '$' ∉ name.toList) :
    Faithful (list (choice loose variants)) encode := by
  refine faithful_of_fixed codec fun arguments value items read => ?_
  cases value with
  | array values =>
      rw [list, mapM_eq_ok] at read
      have same : values.map (substitute arguments) = values := by
        induction read with
        | nil => rfl
        | cons first _ ih => rw [List.map_cons, substitute_of_choice plain first, ih]
      rw [substitute, substituteItems_eq_map, same]
  | _ => cases read

end Faithful

section Refills

variable {α β : Type} {arguments : Arguments} {source filled : List (String × Value)}
  {name : String} {reader : Reader α} {encode : α → Value}

def Filled (arguments : Arguments) (names : List String) (filled fields : List (String × Value)) :
    Prop :=
  ∀ name ∈ names, ∀ held, Holds fields name held →
    Holds filled name (held.map (substitute arguments))

/-- A record reads from the filled fields whatever it builds from its source, filled as well. -/
def Refills (arguments : Arguments) (source filled : List (String × Value)) (record : Record α) :
    Prop :=
  ∀ item, record.build (Record.sourceOf (substituteFields arguments source)) = .ok item →
    record.Reads filled item

theorem Refills.seq {functions : Record (α → β)} {items : Record α}
    (first : Refills arguments source filled functions)
    (second : Refills arguments source filled items) :
    Refills arguments source filled (functions <*> items) := by
  intro result built
  obtain ⟨function, item, made, found, rfl⟩ := Record.build_seq_eq_ok.mp built
  exact (first function made).seq (second item found)

theorem Refills.map {record : Record α} (change : α → β)
    (refills : Refills arguments source filled record) :
    Refills arguments source filled (change <$> record) := by
  intro result built
  obtain ⟨_, item, ⟨⟩, found, rfl⟩ := Record.build_seq_eq_ok.mp built
  exact (refills item found).map change

theorem refills_required (faithful : Faithful reader encode) {item : α}
    (read : (Record.required name reader).build (Record.sourceOf source) = .ok item)
    (holds : Holds filled name ((some (encode item)).map (substitute arguments))) :
    Refills arguments source filled (.required name reader) := by
  intro again built
  simp only [Record.required, Record.sourceOf, lookup_substituteFields] at read built
  rcases found : source.lookup name with - | value
  · rw [found] at read
    cases read
  · rw [found] at read built
    exact Record.reads_required holds ((faithful.read read arguments).trans built)

theorem refills_optional (faithful : Faithful reader encode) {given : Option α}
    (read : (Record.optional name reader).build (Record.sourceOf source) = .ok given)
    (holds : Holds filled name ((given.map encode).map (substitute arguments))) :
    Refills arguments source filled (.optional name reader) := by
  intro again built
  simp only [Record.optional, Record.defaulted, Record.sourceOf, lookup_substituteFields]
    at read built
  rcases found : source.lookup name with - | value
  · rw [found] at read built
    cases read
    exact Record.reads_defaulted holds built
  · rw [found] at read built
    refine Record.reads_defaulted holds ?_
    -- An absent value is filled with nothing; a text may be filled with an absent value.
    by_cases absent : value = .null
    · subst absent
      cases read
      exact built
    · obtain ⟨item, kept, rfl⟩ : ∃ item, reader value = .ok item ∧ some item = given := by
        cases value with
        | null => exact absurd rfl absent
        | _ => exact map_eq_ok.mp read
      exact (faithful.nullable kept absent arguments).trans built

theorem Matcher.refills {matcher : Matcher}
    (read : Matcher.record.build (Record.sourceOf source) = .ok matcher)
    (given : Filled arguments Matcher.record.names filled matcher.toFields) :
    Refills arguments source filled Matcher.record := by
  obtain ⟨contains, regex, flags⟩ := matcher
  simp only [record, Record.build_seq_eq_ok, Record.build_map_eq_ok] at read
  obtain ⟨_, _, ⟨_, _, ⟨_, first, rfl⟩, second, rfl⟩, third, ⟨⟩⟩ := read
  refine .seq (.seq (.map mk (refills_optional faithful_text first ?_))
    (refills_optional faithful_text second ?_)) (refills_optional faithful_text third ?_)
  all_goals exact given _ (by decide) _ (by simp [Holds, toFields])

theorem StepCommon.refills {common : StepCommon}
    (read : StepCommon.record.build (Record.sourceOf source) = .ok common)
    (given : Filled arguments StepCommon.record.names filled common.toFields) :
    Refills arguments source filled StepCommon.record := by
  obtain ⟨id, description, timeout, poll, scope, lines, directory⟩ := common
  simp only [record, Record.build_seq_eq_ok, Record.build_map_eq_ok] at read
  obtain ⟨_, _, ⟨_, _, ⟨_, _, ⟨_, _, ⟨_, _, ⟨_, _, ⟨_, first, rfl⟩, second, rfl⟩, third, rfl⟩,
    fourth, rfl⟩, fifth, rfl⟩, sixth, rfl⟩, seventh, ⟨⟩⟩ := read
  refine .seq (.seq (.seq (.seq (.seq (.seq (.map mk (refills_optional faithful_text first ?_))
    (refills_optional faithful_text second ?_)) (refills_optional faithful_milliseconds third ?_))
    (refills_optional faithful_milliseconds fourth ?_))
    (refills_optional (faithful_choice Scope.codec (by decide)) fifth ?_))
    (refills_optional faithful_count sixth ?_)) (refills_optional faithful_text seventh ?_)
  all_goals exact given _ (by decide) _ (by simp [Holds, toFields])

namespace StepKind

theorem refilled_record {record : Record StepKind} {reader : FieldReader} {typed kind : StepKind}
    (known : ofRecord record = reader)
    (refills : record.build (Record.sourceOf source) = .ok typed →
      Refills arguments source filled record)
    (read : reader source = .ok typed)
    (again : reader (substituteFields arguments source) = .ok kind) : reader filled = .ok kind := by
  subst known
  have built := (Record.readFields_eq_ok.mp read).built
  have rebuilt := (Record.readFields_eq_ok.mp again).built
  exact Record.readFields_eq_ok.mpr (refills built kind rebuilt)

theorem refilled_matcher {make : Matcher → StepKind} {reader : FieldReader} {matcher : Matcher}
    {kind : StepKind} (known : ofMatcher make = reader)
    (distinct : ∀ other, make other = make matcher → other = matcher)
    (given : Filled arguments Matcher.record.names filled matcher.toFields)
    (read : reader source = .ok (make matcher))
    (again : reader (substituteFields arguments source) = .ok kind) : reader filled = .ok kind := by
  subst known
  obtain ⟨typed, read, same⟩ := map_eq_ok.mp read
  obtain ⟨found, reread, rfl⟩ := map_eq_ok.mp again
  rw [distinct typed same] at read
  have refills := Matcher.refills (Record.readFields_eq_ok.mp read).built given
  have reads := refills found (Record.readFields_eq_ok.mp reread).built
  exact map_eq_ok.mpr ⟨found, Record.readFields_eq_ok.mpr reads, rfl⟩

theorem readCount_eq_ok {fields : List (String × Value)} {kind : StepKind} :
    readCount fields = .ok kind ↔ ∃ matcher bounds, Matcher.record.Reads fields matcher ∧
      CountBounds.record.Reads fields bounds ∧
      kind = .expectCount matcher bounds.equals bounds.atLeast bounds.atMost := by
  rw [readCount, check_bind_eq_ok, bind_eq_ok]
  constructor
  · rintro ⟨_, matcher, first, remaining⟩
    obtain ⟨bounds, second, ⟨⟩⟩ := bind_eq_ok.mp remaining
    exact ⟨matcher, bounds, Record.readFields_eq_ok.mp first, Record.readFields_eq_ok.mp second,
      rfl⟩
  · rintro ⟨matcher, bounds, first, second, rfl⟩
    refine ⟨Record.checkFields_eq_ok.mpr second.checked, matcher,
      Record.readFields_eq_ok.mpr first, ?_⟩
    exact bind_eq_ok.mpr ⟨bounds, Record.readFields_eq_ok.mpr second, rfl⟩

theorem refilled_count {matcher : Matcher} {equals atLeast atMost : Option UInt64}
    {kind : StepKind} (read : readCount source = .ok (.expectCount matcher equals atLeast atMost))
    (given : Filled arguments (Matcher.record.names ++ CountBounds.record.names) filled
      (expectCount matcher equals atLeast atMost).toFields)
    (again : readCount (substituteFields arguments source) = .ok kind) :
    readCount filled = .ok kind := by
  obtain ⟨_, bounds, matched, bounded, ⟨⟩⟩ := readCount_eq_ok.mp read
  obtain ⟨found, limits, matched_again, bounded_again, rfl⟩ := readCount_eq_ok.mp again
  have matcher_given : Filled arguments Matcher.record.names filled matcher.toFields :=
    fun name known held holds =>
      given name (List.mem_append_left _ known) held ((holds_expectCount known).mpr holds)
  have refills : Refills arguments source filled CountBounds.record := by
    obtain ⟨equals, atLeast, atMost⟩ := bounds
    have built := bounded.built
    simp only [CountBounds.record, Record.build_seq_eq_ok, Record.build_map_eq_ok] at built
    obtain ⟨_, _, ⟨_, _, ⟨_, first, rfl⟩, second, rfl⟩, third, ⟨⟩⟩ := built
    refine .seq (.seq (.map CountBounds.mk (refills_optional faithful_count first ?_))
      (refills_optional faithful_count second ?_)) (refills_optional faithful_count third ?_)
    all_goals
      exact given _ (List.mem_append_right _ (by decide)) _
        (by simp [Holds, toFields, Matcher.toFields])
  exact readCount_eq_ok.mpr ⟨found, limits,
    Matcher.refills matched.built matcher_given found matched_again.built,
    refills limits bounded_again.built, rfl⟩

/-- The reader that read a template reads its filled fields as it reads what was written, filled. -/
theorem refilled {typed kind : StepKind} {reader : FieldReader}
    (known : readers.lookup typed.typeName = some reader) (read : reader source = .ok typed)
    (plain : typed.isCall = false) (given : Filled arguments typed.fieldNames filled typed.toFields)
    (again : reader (substituteFields arguments source) = .ok kind) : reader filled = .ok kind := by
  cases typed with
  | line text keys post =>
      refine refilled_record (Option.some.inj known) (fun read => ?_) read again
      simp only [Record.build_seq_eq_ok, Record.build_map_eq_ok] at read
      obtain ⟨_, _, ⟨_, _, ⟨_, first, rfl⟩, second, rfl⟩, third, ⟨⟩⟩ := read
      refine .seq (.seq (.map line (refills_required faithful_text first ?_))
        (refills_optional faithful_texts second ?_))
        (refills_optional faithful_milliseconds third ?_)
      all_goals exact given _ (by simp [fieldNames]) _ (by simp [Holds, toFields, eq_comm])
  | sendKeys tokens =>
      refine refilled_record (Option.some.inj known) (fun read => ?_) read again
      obtain ⟨_, read, ⟨⟩⟩ := Record.build_map_eq_ok.mp read
      refine .map sendKeys (refills_required faithful_text read ?_)
      exact given _ (by simp [fieldNames]) _ (by simp [Holds, toFields, eq_comm])
  | keys tokens =>
      refine refilled_record (Option.some.inj known) (fun read => ?_) read again
      obtain ⟨_, read, ⟨⟩⟩ := Record.build_map_eq_ok.mp read
      refine .map keys (refills_required faithful_texts read ?_)
      exact given _ (by simp [fieldNames]) _ (by simp [Holds, toFields, eq_comm])
  | paste text =>
      refine refilled_record (Option.some.inj known) (fun read => ?_) read again
      obtain ⟨_, read, ⟨⟩⟩ := Record.build_map_eq_ok.mp read
      refine .map paste (refills_required faithful_text read ?_)
      exact given _ (by simp [fieldNames]) _ (by simp [Holds, toFields, eq_comm])
  | sleep ms =>
      refine refilled_record (Option.some.inj known) (fun read => ?_) read again
      obtain ⟨_, read, ⟨⟩⟩ := Record.build_map_eq_ok.mp read
      refine .map sleep (refills_required faithful_milliseconds read ?_)
      exact given _ (by simp [fieldNames]) _ (by simp [Holds, toFields, eq_comm])
  | resize cols rows =>
      refine refilled_record (Option.some.inj known) (fun read => ?_) read again
      simp only [Record.build_seq_eq_ok, Record.build_map_eq_ok] at read
      obtain ⟨_, _, ⟨_, first, rfl⟩, second, ⟨⟩⟩ := read
      refine .seq (.map resize (refills_required faithful_word16 first ?_))
        (refills_required faithful_word16 second ?_)
      all_goals exact given _ (by simp [fieldNames]) _ (by simp [Holds, toFields, eq_comm])
  | waitFor matcher =>
      exact refilled_matcher (Option.some.inj known) (fun _ => waitFor.inj) given read again
  | waitForNot matcher =>
      exact refilled_matcher (Option.some.inj known) (fun _ => waitForNot.inj) given read again
  | expect matcher =>
      exact refilled_matcher (Option.some.inj known) (fun _ => expect.inj) given read again
  | expectCount matcher equals atLeast atMost =>
      obtain rfl : readCount = reader := Option.some.inj known
      exact refilled_count read given again
  | waitForExit =>
      cases Option.some.inj known
      exact again
  | capture name format =>
      refine refilled_record (Option.some.inj known) (fun read => ?_) read again
      simp only [Record.build_seq_eq_ok, Record.build_map_eq_ok] at read
      obtain ⟨_, _, ⟨_, first, rfl⟩, second, ⟨⟩⟩ := read
      refine .seq (.map capture (refills_optional faithful_text first ?_))
        (refills_optional (faithful_choice CaptureFormat.codec (by decide)) second ?_)
      all_goals exact given _ (by simp [fieldNames]) _ (by simp [Holds, toFields, eq_comm])
  | waitForStable stable =>
      refine refilled_record (Option.some.inj known) (fun read => ?_) read again
      obtain ⟨_, read, ⟨⟩⟩ := Record.build_map_eq_ok.mp read
      refine .map waitForStable (refills_required faithful_milliseconds read ?_)
      exact given _ (by simp [fieldNames]) _ (by simp [Holds, toFields, eq_comm])
  | call name args => cases plain
  | mouse action button x y delta modifiers =>
      refine refilled_record (Option.some.inj known) (fun read => ?_) read again
      simp only [Record.build_seq_eq_ok, Record.build_map_eq_ok] at read
      obtain ⟨_, _, ⟨_, _, ⟨_, _, ⟨_, _, ⟨_, _, ⟨_, first, rfl⟩, second, rfl⟩, third, rfl⟩,
        fourth, rfl⟩, fifth, rfl⟩, sixth, ⟨⟩⟩ := read
      refine .seq (.seq (.seq (.seq (.seq (.map mouse
        (refills_required (faithful_choice MouseAction.codec (by decide)) first ?_))
        (refills_optional (faithful_choice MouseButton.codec (by decide)) second ?_))
        (refills_optional faithful_word32 third ?_)) (refills_optional faithful_word32 fourth ?_))
        (refills_optional faithful_signed fifth ?_))
        (refills_optional (faithful_choices Modifier.listCodec (by decide)) sixth ?_)
      all_goals exact given _ (by simp [fieldNames]) _ (by simp [Holds, toFields, eq_comm])
  | scroll direction amount =>
      refine refilled_record (Option.some.inj known) (fun read => ?_) read again
      simp only [Record.build_seq_eq_ok, Record.build_map_eq_ok] at read
      obtain ⟨_, _, ⟨_, first, rfl⟩, second, ⟨⟩⟩ := read
      refine .seq (.map scroll
        (refills_required (faithful_choice ScrollDirection.codec (by decide)) first ?_))
        (refills_optional faithful_word32 second ?_)
      all_goals exact given _ (by simp [fieldNames]) _ (by simp [Holds, toFields, eq_comm])

end StepKind

namespace StepKind

theorem readFields_again {typed kind : StepKind} (read : readFields source = .ok typed)
    (again : readFields (substituteFields arguments source) = .ok kind) :
    typed.typeName = kind.typeName ∧
      ∃ reader, readers.lookup typed.typeName = some reader ∧
        reader (source.filter (·.1 ≠ "type")) = .ok typed ∧
        reader (substituteFields arguments (source.filter (·.1 ≠ "type"))) = .ok kind := by
  obtain ⟨tag, reader, held, found, read⟩ := readFields_eq_ok.mp read
  obtain ⟨filled_tag, filled_reader, held_again, found_again, again⟩ := readFields_eq_ok.mp again
  obtain ⟨name, known, form⟩ := readerOf_eq_ok found
  have typed_name : typed.typeName = name := typeName_of_reader known read
  -- The type is the same with or without arguments, so both are read by one reader.
  have unchanged : substitute arguments tag = tag := by
    rcases form with rfl | ⟨number, rfl⟩
    · rw [← typed_name]
      exact substitute_of_plain typed.typeName_plain
    · rfl
  rw [lookup_substituteFields, held, Option.map_some, unchanged] at held_again
  cases held_again
  cases found.symm.trans found_again
  rw [← substituteFields_filter fun name => decide (name ≠ "type")] at again
  have distinct : (readers.map Prod.fst).Nodup := by decide
  rw [typed_name]
  exact ⟨(typeName_of_reader known again).symm, reader,
    (lookup_eq_some_iff_mem distinct).mpr known, read, again⟩

end StepKind

/-- Filling the step that a template was read as gives the step that the filled template is. -/
theorem Step.refilled {written : List (String × Value)} {typed step : Step}
    (read : readFields written = .ok typed)
    (again : readFields (substituteFields arguments written) = .ok step)
    (plain : step.kind.isCall = false) :
    readFields (substituteFields arguments (sortFields typed.fields)) = .ok step := by
  obtain ⟨common, kind⟩ := readFields_eq_ok.mp read
  obtain ⟨common_again, kind_again⟩ := readFields_eq_ok.mp again
  rw [← substituteFields_filter fun name => !StepCommon.record.names.contains name] at kind_again
  obtain ⟨same, reader, selected, kind, kind_again⟩ := StepKind.readFields_again kind kind_again
  refine readFields_of_parts ?_ ?_ fun others kept => ?_
  · have given : Filled arguments StepCommon.record.names
        (substituteFields arguments (sortFields typed.fields)) typed.common.toFields :=
      fun _ known _ holds => holds_filled (holds_common known holds)
    exact StepCommon.refills common.built given step.common common_again.built
  · have tagged : Holds (substituteFields arguments (sortFields typed.fields)) "type"
        (some (.text typed.typeName)) := holds_filled_type typed
    rwa [typeName, same] at tagged
  · have uncalled : typed.kind.isCall = false := (StepKind.isCall_congr same).trans plain
    have given : Filled arguments typed.kind.fieldNames others typed.kind.toFields :=
      fun name known _ holds =>
        kept name (fieldNames_apart known) _ (holds_filled (holds_kind known holds))
    refine ⟨reader, ?_, StepKind.refilled selected kind uncalled given kind_again⟩
    rwa [typeName, ← same]

end Refills

end TerminalScript
