import TerminalScript.Step.Rules

/-!
The written form of a step: one flat object, told apart by its `type`, in which the common fields,
the fields of the kind and those of a matcher stand side by side.
-/

namespace TerminalScript

open Json Document

namespace StepCommon

def record : Record StepCommon :=
  mk <$> .optional "id" text <*> .optional "description" text <*>
    .optional "timeoutMs" milliseconds <*> .optional "pollMs" milliseconds <*>
    .optional "scope" (choice true Scope.named) <*> .optional "scrollbackLines" count <*>
    .optional "capturesDir" text

def read : Reader StepCommon :=
  record.read "StepCommon"

def toFields (common : StepCommon) : List (String × Value) :=
  optionalField "id" .text common.id ++
    optionalField "description" .text common.description ++
    optionalField "timeoutMs" (.number ∘ .natural) common.timeoutMs ++
    optionalField "pollMs" (.number ∘ .natural) common.pollMs ++
    optionalField "scope" (.text ∘ Scope.name) common.scope ++
    optionalField "scrollbackLines" (.number ∘ .natural) common.scrollbackLines ++
    optionalField "capturesDir" .text common.capturesDir

end StepCommon

namespace StepKind

abbrev FieldReader := List (String × Value) → Except Fault StepKind

def ofRecord (record : Record StepKind) : FieldReader :=
  record.readFields

def ofMatcher (kind : Matcher → StepKind) : FieldReader :=
  fun fields => (Matcher.record.readFields fields).map kind

structure CountBounds where
  equals : Option UInt64
  atLeast : Option UInt64
  atMost : Option UInt64

def CountBounds.record : Record CountBounds :=
  CountBounds.mk <$> .optional "equals" count <*> .optional "atLeast" count <*>
    .optional "atMost" count

def readCount : FieldReader := fun fields => do
  CountBounds.record.checkFields fields
  let matcher ← Matcher.record.readFields fields
  let bounds ← CountBounds.record.readFields fields
  pure (.expectCount matcher bounds.equals bounds.atLeast bounds.atMost)

def readers : List (String × FieldReader) :=
  [("line", ofRecord (line <$> .required "text" text <*> .optional "submitKeys" (list text) <*>
      .optional "postTypeMs" milliseconds)),
    ("sendKeys", ofRecord (sendKeys <$> .required "keys" text)),
    ("keys", ofRecord (keys <$> .required "keys" (list text))),
    ("paste", ofRecord (paste <$> .required "text" text)),
    ("sleep", ofRecord (sleep <$> .required "ms" milliseconds)),
    ("resize", ofRecord (resize <$> .required "cols" word16 <*> .required "rows" word16)),
    ("waitFor", ofMatcher waitFor),
    ("waitForNot", ofMatcher waitForNot),
    ("expect", ofMatcher expect),
    ("expectCount", readCount),
    ("waitForExit", fun _ => .ok waitForExit),
    ("capture", ofRecord (capture <$> .optional "name" text <*>
      .optional "format" (choice true CaptureFormat.named))),
    ("waitForStable", ofRecord (waitForStable <$> .required "stableMs" milliseconds)),
    ("macro", ofRecord (call <$> .required "name" text <*> .optional "args" fields)),
    ("mouse", ofRecord (mouse <$> .required "action" (choice true MouseAction.named) <*>
      .optional "button" (choice true MouseButton.named) <*> .optional "x" word32 <*>
      .optional "y" word32 <*> .optional "delta" integer32 <*>
      .optional "modifiers" (list (choice true Modifier.named)))),
    ("scroll", ofRecord (scroll <$> .required "direction" (choice true ScrollDirection.named) <*>
      .optional "amount" word32))]

def readerOf : Value → Except Fault FieldReader
  | .text name =>
      match readers.lookup name with
      | some reader => .ok reader
      | none => .error (.unknownVariant name (readers.map (·.1)))
  | .number (.natural position) =>
      match readers[position.toNat]? with
      | some (_, reader) => .ok reader
      | none =>
          .error (.wrongValue (.number (.natural position)) "variant index 0 <= i < 16")
  | other => .error (.wrongType other "variant identifier")

def readFields (fields : List (String × Value)) : Except Fault StepKind :=
  match fields.lookup "type" with
  | none => .error (.missingField "type")
  | some tag => do
      let reader ← readerOf tag
      reader (fields.filter (·.1 ≠ "type"))

def toFields : StepKind → List (String × Value)
  | line text submitKeys postTypeMs =>
      ("text", .text text) :: optionalField "submitKeys" .ofTexts submitKeys ++
        optionalField "postTypeMs" (.number ∘ .natural) postTypeMs
  | sendKeys tokens => [("keys", .text tokens)]
  | keys tokens => [("keys", .ofTexts tokens)]
  | paste text => [("text", .text text)]
  | sleep ms => [("ms", .number (.natural ms))]
  | resize cols rows =>
      [("cols", .number (.natural cols.toUInt64)), ("rows", .number (.natural rows.toUInt64))]
  | waitFor matcher => matcher.toFields
  | waitForNot matcher => matcher.toFields
  | expect matcher => matcher.toFields
  | expectCount matcher equals atLeast atMost =>
      matcher.toFields ++ optionalField "equals" (.number ∘ .natural) equals ++
        optionalField "atLeast" (.number ∘ .natural) atLeast ++
        optionalField "atMost" (.number ∘ .natural) atMost
  | waitForExit => []
  | capture name format =>
      optionalField "name" .text name ++ optionalField "format" (.text ∘ CaptureFormat.name) format
  | waitForStable stableMs => [("stableMs", .number (.natural stableMs))]
  | call name args => ("name", .text name) :: optionalField "args" .object args
  | mouse action button x y delta modifiers =>
      ("action", .text action.name) :: optionalField "button" (.text ∘ MouseButton.name) button ++
        optionalField "x" (.number ∘ .natural ∘ UInt32.toUInt64) x ++
        optionalField "y" (.number ∘ .natural ∘ UInt32.toUInt64) y ++
        optionalField "delta" signed delta ++
        optionalField "modifiers" (fun names => .ofTexts (names.map Modifier.name)) modifiers
  | scroll direction amount =>
      ("direction", .text direction.name) ::
        optionalField "amount" (.number ∘ .natural ∘ UInt32.toUInt64) amount
where
  signed (value : Int32) : Value :=
    if value < 0 then .number (.negative value.toInt64)
    else .number (.natural value.toInt.toNat.toUInt64)

end StepKind

namespace Step

def readFields (fields : List (String × Value)) : Except Fault Step := do
  let common ← StepCommon.record.readFields fields
  let kind ← StepKind.readFields
    (fields.filter fun field => !StepCommon.record.names.contains field.1)
  pure { common, kind }

def read : Reader Step
  | .object fields => readFields fields
  | other => .error (.wrongType other "struct Step")

def toJson (step : Step) : Value :=
  .ofFields (step.common.toFields ++ ("type", .text step.typeName) :: step.kind.toFields)

def ofJson (value : Value) : Checked Step := do
  let step ← (read value).mapError fun fault => .of (.readable "step" fault)
  step.check
  pure step

end Step

end TerminalScript
