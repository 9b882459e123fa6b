import TerminalScript.Document.Record
import TerminalScript.Proofs.Document.Fields
import TerminalScript.Proofs.Outcomes

/-!
Reading what was written. A record reads its value off fields if each of them, where the record
knows its name, has the shape that is wanted there; it does not look at the others. A reader and an
encoding belong together if the reader gives back what was encoded.
-/

namespace TerminalScript.Document

open Json

namespace Record

variable {α β : Type} {fields : List (String × Value)} {name : String} {held : Option Value}

def sourceOf (fields : List (String × Value)) : Source :=
  ⟨fun name => fields.lookup name, .missingField, false⟩

structure Reads (record : Record α) (fields : List (String × Value)) (value : α) : Prop where
  checked : ∀ field ∈ fields, ∀ check, record.checks.lookup field.1 = some check →
    check field.2 = .ok ()
  built : record.build (sourceOf fields) = .ok value

theorem checkFields_eq_ok {record : Record α} :
    record.checkFields fields = .ok () ↔ ∀ field ∈ fields, ∀ check,
      record.checks.lookup field.1 = some check → check field.2 = .ok () := by
  rw [checkFields, List.forM_eq_forM, forM_eq_ok]
  refine forall₂_congr fun field _ => ?_
  obtain ⟨name, value⟩ := field
  dsimp only
  cases record.checks.lookup name <;> simp

theorem readFields_eq_ok {record : Record α} {value : α} :
    record.readFields fields = .ok value ↔ record.Reads fields value := by
  rw [readFields, check_bind_eq_ok, checkFields_eq_ok]
  exact ⟨fun ⟨checked, built⟩ => ⟨checked, built⟩, fun reads => ⟨reads.checked, reads.built⟩⟩

theorem reads_pure (value : α) : (pure value : Record α).Reads fields value := by
  refine ⟨?_, rfl⟩
  intro field member check found
  cases (found : none = some check)

theorem build_seq_eq_ok {functions : Record (α → β)} {arguments : Record α} {source : Source}
    {value : β} :
    (functions <*> arguments).build source = .ok value ↔
      ∃ function argument, functions.build source = .ok function ∧
        arguments.build source = .ok argument ∧ function argument = value := by
  constructor
  · intro built
    obtain ⟨function, first, remaining⟩ := bind_eq_ok.mp built
    obtain ⟨argument, second, same⟩ := bind_eq_ok.mp remaining
    exact ⟨function, argument, first, second, Except.ok.inj same⟩
  · rintro ⟨function, argument, first, second, rfl⟩
    exact bind_eq_ok.mpr ⟨function, first, bind_eq_ok.mpr ⟨argument, second, rfl⟩⟩

theorem build_map_eq_ok {record : Record α} {change : α → β} {source : Source} {value : β} :
    (change <$> record).build source = .ok value ↔
      ∃ item, record.build source = .ok item ∧ change item = value := by
  refine build_seq_eq_ok.trans ⟨?_, ?_⟩
  · rintro ⟨_, item, ⟨⟩, built, same⟩
    exact ⟨item, built, same⟩
  · rintro ⟨item, built, same⟩
    exact ⟨change, item, rfl, built, same⟩

def Makes (property : α → Prop) (record : Record α) : Prop :=
  ∀ source value, record.build source = .ok value → property value

theorem Makes.seq {property : β → Prop} {functions : Record (α → β)} {arguments : Record α}
    (makes : functions.Makes fun function => ∀ argument, property (function argument)) :
    (functions <*> arguments).Makes property := by
  intro source value built
  obtain ⟨function, argument, first, _, rfl⟩ := build_seq_eq_ok.mp built
  exact makes source function first argument

theorem makes_map {property : β → Prop} {record : Record α} {change : α → β}
    (always : ∀ value, property (change value)) : (change <$> record).Makes property := by
  intro source value built
  obtain ⟨item, _, rfl⟩ := build_map_eq_ok.mp built
  exact always item

theorem Reads.seq {functions : Record (α → β)} {arguments : Record α} {function : α → β}
    {argument : α} (first : functions.Reads fields function)
    (second : arguments.Reads fields argument) :
    (functions <*> arguments).Reads fields (function argument) := by
  refine ⟨?_, build_seq_eq_ok.mpr ⟨function, argument, first.built, second.built, rfl⟩⟩
  intro field member check found
  have either : (functions.checks ++ arguments.checks).lookup field.1 = some check := found
  rw [List.lookup_append] at either
  rcases known : functions.checks.lookup field.1 with - | own
  · rw [known, Option.none_or] at either
    exact second.checked field member check either
  · rw [known, Option.some_or] at either
    exact first.checked field member check (known.trans either)

theorem Reads.map {record : Record α} {value : α} (change : α → β)
    (reads : record.Reads fields value) : (change <$> record).Reads fields (change value) :=
  (reads_pure change).seq reads

theorem reads_of_single {record : Record α} {wanted : Value → Except Fault Unit} {value : α}
    (single : record.checks = [(name, wanted)]) (holds : Holds fields name held)
    (fits : ∀ found ∈ held, wanted found = .ok ())
    (built : record.build (sourceOf fields) = .ok value) : record.Reads fields value := by
  refine ⟨?_, built⟩
  rintro ⟨other, found⟩ member check lookup
  rw [single, List.lookup_cons] at lookup
  by_cases same : other = name
  · subst same
    rw [beq_self_eq_true] at lookup
    cases lookup
    exact fits found ((holds found).mp member)
  · have different : (other == name) = false := by simpa using same
    rw [different] at lookup
    cases lookup

theorem check_eq_ok {reader : Reader α} {found : Value} {value : α}
    (read : reader found = .ok value) : check reader found = .ok () := by
  rw [check, read]
  rfl

theorem reads_required {reader : Reader α} {found : Value} {value : α}
    (holds : Holds fields name (some found)) (read : reader found = .ok value) :
    (required name reader).Reads fields value := by
  refine reads_of_single rfl holds ?_ ?_
  · rintro _ ⟨⟩
    exact check_eq_ok read
  · simp only [required, sourceOf, holds.lookup]
    exact read

theorem reads_defaulted {reader : Reader α} {default value : α} (holds : Holds fields name held)
    (read : held.elim (.ok default) reader = .ok value) :
    (defaulted name reader default).Reads fields value := by
  refine reads_of_single rfl holds ?_ ?_
  · rintro found ⟨⟩
    exact check_eq_ok read
  · simp only [defaulted, sourceOf, holds.lookup]
    cases held <;> exact read

theorem reads_expected {reader : Reader α} {value : Option α} (holds : Holds fields name held)
    (read : held.elim (.ok none) (nullable reader) = .ok value) :
    (expected name reader).Reads fields value := by
  refine reads_of_single rfl holds ?_ ?_
  · rintro found ⟨⟩
    exact check_eq_ok read
  · simp only [expected, sourceOf, holds.lookup]
    cases held <;> exact read

end Record

theorem nullable_of_ne_null {α : Type} {reader : Reader α} {found : Value} {value : α}
    (present : found ≠ .null) (read : reader found = .ok value) :
    nullable reader found = .ok (some value) := by
  cases found with
  | null => exact absurd rfl present
  | _ => simp only [nullable, read, Except.map]

structure Codec {α : Type} (reader : Reader α) (encode : α → Value) : Prop where
  read : ∀ value, reader (encode value) = .ok value
  present : ∀ value, encode value ≠ .null

namespace Codec

variable {α : Type} {reader : Reader α} {encode : α → Value} {fields : List (String × Value)}
  {name : String}

theorem nullable (codec : Codec reader encode) (given : Option α) :
    (given.map encode).elim (.ok none) (Document.nullable reader) = .ok given := by
  cases given with
  | none => rfl
  | some value => exact nullable_of_ne_null (codec.present value) (codec.read value)

theorem reads_required (codec : Codec reader encode) {value : α}
    (holds : Holds fields name (some (encode value))) :
    (Record.required name reader).Reads fields value :=
  Record.reads_required holds (codec.read value)

theorem reads_optional (codec : Codec reader encode) {given : Option α}
    (holds : Holds fields name (given.map encode)) :
    (Record.optional name reader).Reads fields given :=
  Record.reads_defaulted holds (codec.nullable given)

theorem reads_defaulted (codec : Codec reader encode) {value default : α}
    (holds : Holds fields name (some (encode value))) :
    (Record.defaulted name reader default).Reads fields value :=
  Record.reads_defaulted holds (codec.read value)

/-- An empty list is left out where a missing one is read as empty. -/
theorem reads_unless_empty {items : List α} {encode : List α → Value}
    {reader : Reader (List α)} (codec : Codec reader encode)
    (holds : Holds fields name ((if items.isEmpty then none else some items).map encode)) :
    (Record.defaulted name reader []).Reads fields items := by
  refine Record.reads_defaulted holds ?_
  cases items with
  | nil => rfl
  | cons item rest => exact codec.read (item :: rest)

theorem text : Codec Document.text Value.text :=
  ⟨fun _ => rfl, by simp⟩

theorem path : Codec Document.path Value.text :=
  ⟨fun _ => rfl, by simp⟩

theorem boolean : Codec Document.boolean Value.boolean :=
  ⟨fun _ => rfl, by simp⟩

theorem milliseconds : Codec Document.milliseconds (.number ∘ .natural) :=
  ⟨fun _ => rfl, by simp⟩

theorem count : Codec Document.count (.number ∘ .natural) :=
  ⟨fun _ => rfl, by simp⟩

theorem word16 : Codec Document.word16 (.number ∘ .natural ∘ UInt16.toUInt64) := by
  refine ⟨fun value => ?_, by simp⟩
  have small : value.toNat < UInt16.size := value.toNat_lt_size
  simp [Document.word16, unsigned, small, Except.map]

theorem word32 : Codec Document.word32 (.number ∘ .natural ∘ UInt32.toUInt64) := by
  refine ⟨fun value => ?_, by simp⟩
  have small : value.toNat < UInt32.size := value.toNat_lt_size
  simp [Document.word32, unsigned, small, Except.map]

theorem choice {loose : Bool} {variants : List (String × α)} {written : α → String}
    (named : ∀ value, variants.lookup (written value) = some value) :
    Codec (Document.choice loose variants) (.text ∘ written) := by
  refine ⟨fun value => ?_, by simp⟩
  simp only [Function.comp_apply, Document.choice, Document.choice.find, named value]

theorem list (codec : Codec reader encode) :
    Codec (Document.list reader) (fun items => .array (items.map encode)) := by
  refine ⟨fun items => ?_, by simp⟩
  rw [Document.list, mapM_eq_ok, List.forall₂_map_left_iff, List.forall₂_same]
  exact fun value _ => codec.read value

theorem object : Codec Document.fields Value.object :=
  ⟨fun _ => rfl, by simp⟩

theorem texts : Codec (Document.list Document.text) Value.ofTexts :=
  list text

end Codec

end TerminalScript.Document
