import TerminalScript.Proofs.Document.Reading
import TerminalScript.Step.Document

/-!
A step is read back from what it is written as. Its common fields, its `type`, the fields of its
kind and those of a matcher stand side by side in one object under names that are all different.
-/

namespace TerminalScript

open Json Document

theorem Scope.codec : Codec (choice true named) (.text ∘ name) :=
  .choice fun value => by cases value <;> rfl

theorem CaptureFormat.codec : Codec (choice true named) (.text ∘ name) :=
  .choice fun value => by cases value <;> rfl

theorem MouseAction.codec : Codec (choice true named) (.text ∘ name) :=
  .choice fun value => by cases value <;> rfl

theorem MouseButton.codec : Codec (choice true named) (.text ∘ name) :=
  .choice fun value => by cases value <;> rfl

theorem Modifier.codec : Codec (choice true named) (.text ∘ name) :=
  .choice fun value => by cases value <;> rfl

theorem ScrollDirection.codec : Codec (choice true named) (.text ∘ name) :=
  .choice fun value => by cases value <;> rfl

theorem Modifier.listCodec :
    Codec (list (choice true Modifier.named)) fun names => .ofTexts (names.map Modifier.name) := by
  have items := Modifier.codec.list
  simpa only [Value.ofTexts, List.map_map] using items

theorem StepKind.signedCodec : Codec integer32 toFields.signed := by
  refine ⟨fun value => ?_, fun value => ?_⟩
  · have least := value.le_toInt
    have most := value.toInt_lt
    unfold toFields.signed
    split
    · simp only [integer32, Int32.toInt_toInt64, Int32.ofInt_toInt]
      rw [if_pos (by omega)]
    · rename_i natural
      rw [Int32.lt_iff_toInt_lt, Int32.toInt_zero, Int.not_lt] at natural
      have same : value.toInt.toNat.toUInt64.toNat = value.toInt.toNat :=
        UInt64.toNat_ofNat_of_lt' (by unfold UInt64.size; omega)
      simp only [integer32, same, Int.toNat_of_nonneg natural, Int32.ofInt_toInt]
      rw [if_pos (by omega)]
  · unfold toFields.signed
    split <;> simp

theorem Matcher.reads {matcher : Matcher} {fields : List (String × Value)}
    (agree : Agree record.names fields matcher.toFields) : record.Reads fields matcher := by
  obtain ⟨contains, regex, flags⟩ := matcher
  refine .seq (.seq (.map mk (Codec.text.reads_optional ?_)) (Codec.text.reads_optional ?_))
    (Codec.text.reads_optional ?_)
  all_goals exact agree _ (by decide) _ (by simp [Holds, toFields])

theorem Matcher.toFields_names (matcher : Matcher) :
    (matcher.toFields.map Prod.fst).Sublist record.names := by
  rw [toFields, List.append_assoc]
  exact optionalField_append_names (optionalField_append_names optionalField_names)

theorem StepCommon.toFields_names (common : StepCommon) :
    (common.toFields.map Prod.fst).Sublist record.names := by
  simp only [toFields, List.append_assoc]
  exact optionalField_append_names (optionalField_append_names (optionalField_append_names
    (optionalField_append_names (optionalField_append_names
      (optionalField_append_names optionalField_names)))))

theorem StepCommon.reads {common : StepCommon} {fields : List (String × Value)}
    (agree : Agree record.names fields common.toFields) : record.Reads fields common := by
  obtain ⟨id, description, timeout, poll, scope, lines, directory⟩ := common
  refine .seq (.seq (.seq (.seq (.seq (.seq (.map mk (Codec.text.reads_optional ?_))
    (Codec.text.reads_optional ?_)) (Codec.milliseconds.reads_optional ?_))
    (Codec.milliseconds.reads_optional ?_)) (Scope.codec.reads_optional ?_))
    (Codec.count.reads_optional ?_)) (Codec.text.reads_optional ?_)
  all_goals exact agree _ (by decide) _ (by simp [Holds, toFields])

namespace StepKind

def fieldNames : StepKind → List String
  | line .. => ["text", "submitKeys", "postTypeMs"]
  | sendKeys .. => ["keys"]
  | keys .. => ["keys"]
  | paste .. => ["text"]
  | sleep .. => ["ms"]
  | resize .. => ["cols", "rows"]
  | waitFor .. => Matcher.record.names
  | waitForNot .. => Matcher.record.names
  | expect .. => Matcher.record.names
  | expectCount .. => Matcher.record.names ++ CountBounds.record.names
  | waitForExit => []
  | capture .. => ["name", "format"]
  | waitForStable .. => ["stableMs"]
  | call .. => ["name", "args"]
  | mouse .. => ["action", "button", "x", "y", "delta", "modifiers"]
  | scroll .. => ["direction", "amount"]

theorem holds_expectCount {matcher : Matcher} {equals atLeast atMost : Option UInt64}
    {name : String} {held : Option Value} (known : name ∈ Matcher.record.names) :
    Holds (expectCount matcher equals atLeast atMost).toFields name held ↔
      Holds matcher.toFields name held := by
  refine holds_congr fun value => ?_
  change name ∈ ["contains", "regex", "regexFlags"] at known
  simp only [List.mem_cons, List.not_mem_nil, or_false] at known
  rcases known with rfl | rfl | rfl <;> simp [toFields]

theorem reads {kind : StepKind} {fields : List (String × Value)}
    (agree : Agree kind.fieldNames fields kind.toFields) :
    ∃ reader, readers.lookup kind.typeName = some reader ∧ reader fields = .ok kind := by
  cases kind with
  | line text keys post =>
      refine ⟨_, rfl, Record.readFields_eq_ok.mpr (.seq (.seq (.map line
        (Codec.text.reads_required ?_)) (Codec.texts.reads_optional ?_))
        (Codec.milliseconds.reads_optional ?_))⟩
      all_goals exact agree _ (by simp [fieldNames]) _ (by simp [Holds, toFields, eq_comm])
  | sendKeys tokens =>
      refine ⟨_, rfl, Record.readFields_eq_ok.mpr (.map sendKeys (Codec.text.reads_required ?_))⟩
      exact agree _ (by simp [fieldNames]) _ (by simp [Holds, toFields, eq_comm])
  | keys tokens =>
      refine ⟨_, rfl, Record.readFields_eq_ok.mpr (.map keys (Codec.texts.reads_required ?_))⟩
      exact agree _ (by simp [fieldNames]) _ (by simp [Holds, toFields, eq_comm])
  | paste text =>
      refine ⟨_, rfl, Record.readFields_eq_ok.mpr (.map paste (Codec.text.reads_required ?_))⟩
      exact agree _ (by simp [fieldNames]) _ (by simp [Holds, toFields, eq_comm])
  | sleep ms =>
      refine ⟨_, rfl, Record.readFields_eq_ok.mpr (.map sleep
        (Codec.milliseconds.reads_required ?_))⟩
      exact agree _ (by simp [fieldNames]) _ (by simp [Holds, toFields, eq_comm])
  | resize cols rows =>
      refine ⟨_, rfl, Record.readFields_eq_ok.mpr (.seq (.map resize
        (Codec.word16.reads_required ?_)) (Codec.word16.reads_required ?_))⟩
      all_goals exact agree _ (by simp [fieldNames]) _ (by simp [Holds, toFields, eq_comm])
  | waitFor matcher =>
      exact ⟨_, rfl, by rw [ofMatcher, Record.readFields_eq_ok.mpr (Matcher.reads agree)]; rfl⟩
  | waitForNot matcher =>
      exact ⟨_, rfl, by rw [ofMatcher, Record.readFields_eq_ok.mpr (Matcher.reads agree)]; rfl⟩
  | expect matcher =>
      exact ⟨_, rfl, by rw [ofMatcher, Record.readFields_eq_ok.mpr (Matcher.reads agree)]; rfl⟩
  | expectCount matcher equals atLeast atMost =>
      have matched : Agree Matcher.record.names fields matcher.toFields :=
        fun name known held holds =>
          agree name (List.mem_append_left _ known) held ((holds_expectCount known).mpr holds)
      have bounded : CountBounds.record.Reads fields ⟨equals, atLeast, atMost⟩ := by
        refine .seq (.seq (.map CountBounds.mk (Codec.count.reads_optional ?_))
          (Codec.count.reads_optional ?_)) (Codec.count.reads_optional ?_)
        all_goals
          exact agree _ (List.mem_append_right _ (by decide)) _
            (by simp [Holds, toFields, Matcher.toFields])
      refine ⟨_, rfl, ?_⟩
      rw [readCount, check_bind_eq_ok, Record.checkFields_eq_ok, bind_eq_ok]
      refine ⟨bounded.checked, matcher, Record.readFields_eq_ok.mpr (Matcher.reads matched), ?_⟩
      rw [Record.readFields_eq_ok.mpr bounded]
      rfl
  | waitForExit => exact ⟨_, rfl, rfl⟩
  | capture name format =>
      refine ⟨_, rfl, Record.readFields_eq_ok.mpr (.seq (.map capture
        (Codec.text.reads_optional ?_)) (CaptureFormat.codec.reads_optional ?_))⟩
      all_goals exact agree _ (by simp [fieldNames]) _ (by simp [Holds, toFields, eq_comm])
  | waitForStable stable =>
      refine ⟨_, rfl, Record.readFields_eq_ok.mpr (.map waitForStable
        (Codec.milliseconds.reads_required ?_))⟩
      exact agree _ (by simp [fieldNames]) _ (by simp [Holds, toFields, eq_comm])
  | call name args =>
      refine ⟨_, rfl, Record.readFields_eq_ok.mpr (.seq (.map call
        (Codec.text.reads_required ?_)) (Codec.object.reads_optional ?_))⟩
      all_goals exact agree _ (by simp [fieldNames]) _ (by simp [Holds, toFields, eq_comm])
  | mouse action button x y delta modifiers =>
      refine ⟨_, rfl, Record.readFields_eq_ok.mpr (.seq (.seq (.seq (.seq (.seq (.map mouse
        (MouseAction.codec.reads_required ?_)) (MouseButton.codec.reads_optional ?_))
        (Codec.word32.reads_optional ?_)) (Codec.word32.reads_optional ?_))
        (signedCodec.reads_optional ?_)) (Modifier.listCodec.reads_optional ?_))⟩
      all_goals exact agree _ (by simp [fieldNames]) _ (by simp [Holds, toFields, eq_comm])
  | scroll direction amount =>
      refine ⟨_, rfl, Record.readFields_eq_ok.mpr (.seq (.map scroll
        (ScrollDirection.codec.reads_required ?_)) (Codec.word32.reads_optional ?_))⟩
      all_goals exact agree _ (by simp [fieldNames]) _ (by simp [Holds, toFields, eq_comm])

theorem toFields_names (kind : StepKind) :
    (kind.toFields.map Prod.fst).Sublist kind.fieldNames := by
  cases kind with
  | line text keys post =>
      exact (optionalField_append_names optionalField_names).cons_cons _
  | waitFor matcher => exact matcher.toFields_names
  | waitForNot matcher => exact matcher.toFields_names
  | expect matcher => exact matcher.toFields_names
  | expectCount matcher equals atLeast atMost =>
      simp only [toFields, List.append_assoc]
      rw [List.map_append]
      exact matcher.toFields_names.append (optionalField_append_names
        (optionalField_append_names optionalField_names))
  | capture name format => exact optionalField_append_names optionalField_names
  | call name args => exact optionalField_names.cons_cons _
  | mouse action button x y delta modifiers =>
      simp only [toFields, List.append_assoc, List.cons_append]
      exact (optionalField_append_names (optionalField_append_names (optionalField_append_names
        (optionalField_append_names optionalField_names)))).cons_cons _
  | scroll direction amount => exact optionalField_names.cons_cons _
  | _ => exact List.Sublist.refl _

theorem readerOf_eq_ok {tag : Value} {reader : FieldReader} (found : readerOf tag = .ok reader) :
    ∃ name, (name, reader) ∈ readers ∧ (tag = .text name ∨ ∃ number, tag = .number number) := by
  unfold readerOf at found
  split at found
  · rename_i name
    split at found
    · rename_i known
      cases found
      obtain ⟨before, after, same, _⟩ := List.lookup_eq_some_iff.mp known
      exact ⟨name, by simp [same], .inl rfl⟩
    · cases found
  · rename_i position
    split at found
    · rename_i entry known
      cases found
      exact ⟨_, List.mem_of_getElem? known, .inr ⟨_, rfl⟩⟩
    · cases found
  · cases found

theorem readFields_eq_ok {fields : List (String × Value)} {kind : StepKind} :
    readFields fields = .ok kind ↔ ∃ tag reader, fields.lookup "type" = some tag ∧
      readerOf tag = .ok reader ∧ reader (fields.filter (·.1 ≠ "type")) = .ok kind := by
  rw [readFields]
  cases fields.lookup "type" with
  | none => simp
  | some tag => simp [bind_eq_ok]

theorem typeName_of_reader {name : String} {reader : FieldReader} (known : (name, reader) ∈ readers)
    {fields : List (String × Value)} {kind : StepKind} (read : reader fields = .ok kind) :
    kind.typeName = name := by
  have typed : ∀ {record : Record StepKind}, record.Makes (fun kind => kind.typeName = name) →
      record.readFields fields = .ok kind → kind.typeName = name :=
    fun makes read => makes _ kind (Record.readFields_eq_ok.mp read).built
  have matched : ∀ {make : Matcher → StepKind}, (∀ matcher, (make matcher).typeName = name) →
      ofMatcher make fields = .ok kind → kind.typeName = name := by
    intro make always read
    rw [ofMatcher] at read
    obtain ⟨matcher, _, rfl⟩ := map_eq_ok.mp read
    exact always matcher
  simp only [readers, List.mem_cons, Prod.mk.injEq, List.not_mem_nil, or_false] at known
  rcases known with ⟨rfl, rfl⟩ | ⟨rfl, rfl⟩ | ⟨rfl, rfl⟩ | ⟨rfl, rfl⟩ | ⟨rfl, rfl⟩ | ⟨rfl, rfl⟩ |
    ⟨rfl, rfl⟩ | ⟨rfl, rfl⟩ | ⟨rfl, rfl⟩ | ⟨rfl, rfl⟩ | ⟨rfl, rfl⟩ | ⟨rfl, rfl⟩ | ⟨rfl, rfl⟩ |
    ⟨rfl, rfl⟩ | ⟨rfl, rfl⟩ | ⟨rfl, rfl⟩
  · exact typed (.seq (.seq (Record.makes_map fun _ _ _ => rfl))) read
  · exact typed (Record.makes_map fun _ => rfl) read
  · exact typed (Record.makes_map fun _ => rfl) read
  · exact typed (Record.makes_map fun _ => rfl) read
  · exact typed (Record.makes_map fun _ => rfl) read
  · exact typed (.seq (Record.makes_map fun _ _ => rfl)) read
  · exact matched (fun _ => rfl) read
  · exact matched (fun _ => rfl) read
  · exact matched (fun _ => rfl) read
  · obtain ⟨_, read⟩ := check_bind_eq_ok.mp read
    obtain ⟨matcher, _, read⟩ := bind_eq_ok.mp read
    obtain ⟨bounds, _, ⟨⟩⟩ := bind_eq_ok.mp read
    rfl
  · cases read
    rfl
  · exact typed (.seq (Record.makes_map fun _ _ => rfl)) read
  · exact typed (Record.makes_map fun _ => rfl) read
  · exact typed (.seq (Record.makes_map fun _ _ => rfl)) read
  · exact typed (.seq (.seq (.seq (.seq (.seq (Record.makes_map fun _ _ _ _ _ _ => rfl)))))) read
  · exact typed (.seq (Record.makes_map fun _ _ => rfl)) read

end StepKind

namespace Step

def fields (step : Step) : List (String × Value) :=
  step.common.toFields ++ ("type", .text step.typeName) :: step.kind.toFields

def fieldNames (step : Step) : List String :=
  StepCommon.record.names ++ "type" :: step.kind.fieldNames

def Written (step : Step) : Value → Prop :=
  Widened step.fieldNames [] step.toJson

theorem written_toJson (step : Step) : step.Written step.toJson :=
  .refl_ofFields (by simp)

theorem fieldNames_distinct (step : Step) : step.fieldNames.Nodup := by
  obtain ⟨common, kind⟩ := step
  cases kind <;> exact of_decide_eq_true rfl

theorem fieldNames_apart {step : Step} {name : String} (known : name ∈ step.kind.fieldNames) :
    name ∉ "type" :: StepCommon.record.names := by
  have distinct := List.nodup_append.mp step.fieldNames_distinct
  rw [List.mem_cons, not_or]
  constructor
  · rintro rfl
    exact (List.nodup_cons.mp distinct.2.1).1 known
  · intro common
    exact distinct.2.2 name common name (List.mem_cons_of_mem _ known) rfl

theorem fields_names (step : Step) : (step.fields.map Prod.fst).Sublist step.fieldNames := by
  rw [fields, List.map_append]
  exact step.common.toFields_names.append (step.kind.toFields_names.cons_cons _)

theorem fields_distinct (step : Step) : (step.fields.map Prod.fst).Nodup :=
  step.fieldNames_distinct.sublist step.fields_names

theorem holds_common {step : Step} {name : String} {held : Option Value}
    (known : name ∈ StepCommon.record.names) (holds : Holds step.common.toFields name held) :
    Holds step.fields name held := by
  have distinct := (List.nodup_append.mp step.fieldNames_distinct).2.2
  refine (holds_append_left fun other => ?_).mpr holds
  have later := (step.kind.toFields_names.cons_cons "type").mem other
  exact distinct name known name later rfl

theorem holds_kind {step : Step} {name : String} {held : Option Value}
    (known : name ∈ step.kind.fieldNames) (holds : Holds step.kind.toFields name held) :
    Holds step.fields name held := by
  have apart := fieldNames_apart known
  rw [List.mem_cons, not_or] at apart
  have untyped : name ∉ [("type", Value.text step.typeName)].map Prod.fst := by
    simpa using apart.1
  refine (holds_append_right fun common => ?_).mpr ((holds_append_right untyped).mpr holds)
  exact apart.2 (step.common.toFields_names.mem common)

theorem holds_type (step : Step) : Holds step.fields "type" (some (.text step.typeName)) := by
  have distinct := List.nodup_append.mp step.fieldNames_distinct
  have uncommon : "type" ∉ step.common.toFields.map Prod.fst := fun common =>
    distinct.2.2 _ (step.common.toFields_names.mem common) _ List.mem_cons_self rfl
  have unkind : "type" ∉ step.kind.toFields.map Prod.fst := fun kind =>
    (List.nodup_cons.mp distinct.2.1).1 (step.kind.toFields_names.mem kind)
  refine (holds_append_right uncommon).mpr ?_
  have single : Holds [("type", Value.text step.typeName)] "type" (some (.text step.typeName)) := by
    simp [Holds, eq_comm]
  exact (holds_append_left unkind).mpr single

theorem readFields_eq_ok {fields : List (String × Value)} {step : Step} :
    readFields fields = .ok step ↔ StepCommon.record.Reads fields step.common ∧
      StepKind.readFields (fields.filter fun field =>
        !StepCommon.record.names.contains field.1) = .ok step.kind := by
  rw [readFields, bind_eq_ok]
  constructor
  · rintro ⟨common, first, remaining⟩
    obtain ⟨kind, second, ⟨⟩⟩ := bind_eq_ok.mp remaining
    exact ⟨Record.readFields_eq_ok.mp first, second⟩
  · rintro ⟨common, kind⟩
    exact ⟨step.common, Record.readFields_eq_ok.mpr common, bind_eq_ok.mpr ⟨step.kind, kind, rfl⟩⟩

/-- A step is read from its common fields, its type, and what its reader finds among the others. -/
theorem readFields_of_parts {step : Step} {fields : List (String × Value)}
    (common : StepCommon.record.Reads fields step.common)
    (typed : Holds fields "type" (some (.text step.typeName)))
    (kind : ∀ others, (∀ name ∉ "type" :: StepCommon.record.names, ∀ held,
        Holds fields name held → Holds others name held) →
      ∃ reader, StepKind.readers.lookup step.typeName = some reader ∧
        reader others = .ok step.kind) : readFields fields = .ok step := by
  let uncommon := fields.filter fun field => !StepCommon.record.names.contains field.1
  have kept : ∀ name ∉ StepCommon.record.names, ∀ held, Holds fields name held →
      Holds uncommon name held := by
    intro name absent held holds
    exact (holds_filter (fun name => !StepCommon.record.names.contains name)
      (by simpa using absent)).mpr holds
  obtain ⟨reader, found, read⟩ := kind (uncommon.filter (·.1 ≠ "type")) <| by
    intro name absent held holds
    rw [List.mem_cons, not_or] at absent
    exact (holds_filter (fun name => decide (name ≠ "type")) (by simpa using absent.1)).mpr
      (kept name absent.2 held holds)
  have tagged := (kept "type" (by decide) _ typed).lookup
  have selected : StepKind.readerOf (.text step.typeName) = .ok reader := by
    rw [StepKind.readerOf, found]
  exact readFields_eq_ok.mpr ⟨common,
    StepKind.readFields_eq_ok.mpr ⟨_, reader, tagged, selected, read⟩⟩

structure Shown (step : Step) (fields : List (String × Value)) : Prop where
  common : Agree StepCommon.record.names fields step.common.toFields
  typed : Holds fields "type" (some (.text step.typeName))
  kind : Agree step.kind.fieldNames fields step.kind.toFields

theorem Shown.readFields {step : Step} {fields : List (String × Value)}
    (shown : step.Shown fields) : readFields fields = .ok step := by
  refine readFields_of_parts (StepCommon.reads shown.common) shown.typed fun others kept => ?_
  exact StepKind.reads fun name known held holds =>
    kept name (fieldNames_apart known) held (shown.kind name known held holds)

theorem Written.shown {step : Step} {value : Value} (written : step.Written value) :
    ∃ fields, value = .object fields ∧ step.Shown fields := by
  obtain ⟨fields, rfl, shows⟩ := Widened.ofFields step.fields_distinct written
  have kept : Agree step.fieldNames fields step.fields := shows.agree
  refine ⟨fields, rfl, ?_, ?_, ?_⟩
  · intro name known held holds
    exact kept name (List.mem_append_left _ known) held (holds_common known holds)
  · exact kept "type" (List.mem_append_right _ List.mem_cons_self) _ step.holds_type
  · intro name known held holds
    have inside := List.mem_append_right StepCommon.record.names (List.mem_cons_of_mem "type" known)
    exact kept name inside held (holds_kind known holds)

theorem read_of_written {step : Step} {value : Value} (written : step.Written value) :
    read value = .ok step := by
  obtain ⟨fields, rfl, shown⟩ := written.shown
  exact shown.readFields

end Step

end TerminalScript
