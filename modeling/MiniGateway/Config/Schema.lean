/-
  The format of the configuration document, as a table, and what is wrong with a document that does
  not have it.

  A `Section` is one kind of object of the document and `Section.fields` lists its fields, each with
  the `Rule` that its value must meet.  A `Fault` is a place of the document together with a message
  that is true of it.  Nothing here refers to the parser.
-/
import MiniGateway.Config.Parse

namespace MiniGateway

open Binary64 (Double)

/-! ### Places in a document -/

/-- One step from a value into it. -/
inductive PathStep
  | field (key : ByteString)
  | item (index : ℕ)

/-- The value one step into this one. -/
def Json.child : Json → PathStep → Option Json
  | .object members, .field key => find members key
  | .array items, .item index => items[index]?
  | _, _ => none

/-- The value at a path. -/
def Json.locate (root : Json) (path : List PathStep) : Option Json := path.foldlM Json.child root

/-- A path as the error texts give it. -/
def renderPath (path : List PathStep) : ByteString :=
  path.foldl
    (fun text step =>
      match step with
      | .field key => fieldPath text key
      | .item index => itemPath text index)
    (lit "root")

@[simp] theorem Json.locate_nil (root : Json) : root.locate [] = some root := rfl

theorem Json.locate_append (root : Json) (path : List PathStep) (step : PathStep) :
    root.locate (path ++ [step]) = (root.locate path).bind (Json.child · step) := by
  unfold Json.locate
  rw [List.foldlM_append]
  cases path.foldlM Json.child root with
  | none => rfl
  | some value => simp

theorem Json.locate_field {root : Json} {path : List PathStep}
    {members : List (ByteString × Json)} (h : root.locate path = some (.object members))
    (key : ByteString) : root.locate (path ++ [PathStep.field key]) = Json.find members key := by
  rw [Json.locate_append, h]
  rfl

theorem Json.locate_item {root : Json} {path : List PathStep} {items : List Json}
    (h : root.locate path = some (.array items)) (index : ℕ) :
    root.locate (path ++ [PathStep.item index]) = items[index]? := by
  rw [Json.locate_append, h]
  rfl

@[simp] theorem renderPath_field (path : List PathStep) (key : ByteString) :
    renderPath (path ++ [PathStep.field key]) = fieldPath (renderPath path) key := by
  simp [renderPath]

@[simp] theorem renderPath_item (path : List PathStep) (index : ℕ) :
    renderPath (path ++ [PathStep.item index]) = itemPath (renderPath path) index := by
  simp [renderPath]

/-! ### Rules -/

/-- A number that is a non-negative integer, as the document writes it. -/
def Json.natural? : Json → Option ℕ
  | .unsigned n => some n.toNat
  | .integer n => if n.toInt < 0 then none else some n.toInt.toNat
  | _ => none

/-- The names of the value types. -/
def valueTypeNames : List ByteString :=
  [lit "integer", lit "double", lit "boolean", lit "string", lit "bytes", lit "byte_array"]

/-- What a value must be. -/
inductive Rule
  | object
  | array
  /-- An array with items. -/
  | items
  /-- An array of texts, at least one and all different. -/
  | names
  | text (allowEmpty : Bool)
  | boolean
  | size
  | duration
  | number
  | numberOrNull
  /-- An object whose values are texts. -/
  | texts
  | valueType
  | nullable (rule : Rule)

/-- The value meets the rule. -/
def Rule.Fit : Rule → Json → Prop
  | .object, value => ∃ members, value = .object members
  | .array, value => ∃ items, value = .array items
  | .items, value => ∃ items, value = .array items ∧ items ≠ []
  | .names, value =>
    ∃ names : List ByteString,
      value = .array (names.map .string) ∧ names ≠ [] ∧ [] ∉ names ∧ names.Nodup
  | .text allowEmpty, value => ∃ text, value = .string text ∧ (text = [] → allowEmpty = true)
  | .boolean, value => ∃ flag, value = .boolean flag
  | .size, value => ∃ n, value.natural? = some n ∧ 0 < n
  | .duration, value => ∃ n, value.natural? = some n ∧ 0 < n ∧ n ≤ millisecondsMax
  | .number, value => ∃ d, asNumber value = some d ∧ d.isFinite = true
  | .numberOrNull, value => value = .null ∨ ∃ d, asNumber value = some d ∧ d.isFinite = true
  | .texts, value =>
    ∃ members, value = .object members ∧ ∀ member ∈ members, ∃ text, member.2 = .string text
  | .valueType, value => ∃ name, value = .string name ∧ name ∈ valueTypeNames
  | .nullable rule, value => value = .null ∨ rule.Fit value

/-- The value breaks the rule as the message says. -/
inductive Rule.Unfit : Rule → Json → ByteString → Prop
  | object {value : Json} : (∀ members, value ≠ .object members) →
      Unfit .object value (lit "must be an object")
  | array {value : Json} : (∀ items, value ≠ .array items) →
      Unfit .array value (lit "must be an array")
  | items {value : Json} : (∀ items, value ≠ .array items) →
      Unfit .items value (lit "must be an array")
  | noItems : Unfit .items (.array []) (lit "must not be empty")
  | names {value : Json} : (∀ items, value = .array items → items = []) →
      Unfit .names value (lit "must be a non-empty array")
  | text {value : Json} {allowEmpty : Bool} : (∀ text, value ≠ .string text) →
      Unfit (.text allowEmpty) value (lit "must be a string")
  | noText : Unfit (.text false) (.string []) (lit "must not be empty")
  | boolean {value : Json} : (∀ flag, value ≠ .boolean flag) →
      Unfit .boolean value (lit "must be a boolean")
  | sizeType {value : Json} : value.natural? = none →
      Unfit .size value (lit "must be a non-negative integer")
  | size {value : Json} : value.natural? = some 0 →
      Unfit .size value (lit "must be a positive size")
  | durationType {value : Json} : value.natural? = none →
      Unfit .duration value (lit "must be a non-negative integer")
  | duration {value : Json} {n : ℕ} : value.natural? = some n → n = 0 ∨ millisecondsMax < n →
      Unfit .duration value (lit "must be a positive duration")
  | number {value : Json} : asNumber value = none →
      Unfit .number value (lit "must be a number")
  | notFinite {value : Json} {d : Double} : asNumber value = some d → d.isFinite = false →
      Unfit .number value (lit "must be finite")
  | numberOrNull {value : Json} : value ≠ .null → asNumber value = none →
      Unfit .numberOrNull value (lit "must be a number or null")
  | notFiniteOrNull {value : Json} {d : Double} : asNumber value = some d → d.isFinite = false →
      Unfit .numberOrNull value (lit "must be finite")
  | texts {value : Json} : (∀ members, value ≠ .object members) →
      Unfit .texts value (lit "must be an object containing string values")
  | valueTypeText {value : Json} {message : ByteString} : Unfit (.text false) value message →
      Unfit .valueType value message
  | valueType {name : ByteString} : name ∉ valueTypeNames →
      Unfit .valueType (.string name) (lit "unsupported value type '" ++ name ++ lit "'")
  | nullable {rule : Rule} {value : Json} {message : ByteString} : value ≠ .null →
      Unfit rule value message → Unfit (.nullable rule) value message

/-! ### Sections -/

/-- A field of a section. -/
structure Field where
  key : ByteString
  required : Bool
  rule : Rule

/-- The kinds of objects of the document. -/
inductive Section
  | document
  | runtime
  | device
  | point
  | group
  | plugin

/-- The fields of a section, in the order in which the parser reads them. -/
def Section.fields : Section → List Field
  | .document =>
    [⟨lit "runtime", true, .object⟩, ⟨lit "devices", true, .items⟩, ⟨lit "groups", true, .array⟩,
      ⟨lit "processors", true, .array⟩, ⟨lit "event_publishers", true, .array⟩,
      ⟨lit "device_control_sources", false, .array⟩]
  | .runtime =>
    [⟨lit "run_duration_ms", false, .nullable .duration⟩, ⟨lit "raw_queue_capacity", true, .size⟩,
      ⟨lit "control_queue_capacity", false, .size⟩]
  | .device =>
    [⟨lit "id", true, .text false⟩, ⟨lit "driver", true, .text false⟩,
      ⟨lit "driver_config", true, .object⟩, ⟨lit "library", false, .nullable (.text false)⟩,
      ⟨lit "connection", true, .texts⟩, ⟨lit "points", true, .items⟩]
  | .point =>
    [⟨lit "name", true, .text false⟩, ⟨lit "type", true, .valueType⟩,
      ⟨lit "unit", true, .text true⟩, ⟨lit "address", true, .texts⟩, ⟨lit "scale", true, .number⟩,
      ⟨lit "offset", true, .number⟩, ⟨lit "minimum", false, .numberOrNull⟩,
      ⟨lit "maximum", false, .numberOrNull⟩]
  | .group =>
    [⟨lit "id", true, .text false⟩, ⟨lit "device_id", true, .text false⟩,
      ⟨lit "interval_ms", true, .duration⟩, ⟨lit "timeout_ms", true, .duration⟩,
      ⟨lit "points", true, .names⟩]
  | .plugin =>
    [⟨lit "id", true, .text false⟩, ⟨lit "type", true, .text false⟩,
      ⟨lit "enabled", false, .boolean⟩, ⟨lit "config", true, .object⟩,
      ⟨lit "library", false, .nullable (.text false)⟩]

/-- The members that list plugins. -/
def pluginKeys : List ByteString :=
  [lit "processors", lit "event_publishers", lit "device_control_sources"]

/-- Where a device is. -/
def devicePath (device : ℕ) : List PathStep := [.field (lit "devices"), .item device]

/-- Where the sections of the document are. -/
inductive SectionAt : List PathStep → Section → Prop
  | document : SectionAt [] .document
  | runtime : SectionAt [.field (lit "runtime")] .runtime
  | device (index : ℕ) : SectionAt (devicePath index) .device
  | point (device index : ℕ) :
      SectionAt (devicePath device ++ [PathStep.field (lit "points")] ++ [PathStep.item index])
        .point
  | group (index : ℕ) : SectionAt [.field (lit "groups"), .item index] .group
  | plugin {key : ByteString} (index : ℕ) : key ∈ pluginKeys →
      SectionAt [.field key, .item index] .plugin

/-- The rule that the value at a place must meet. -/
inductive Demand : List PathStep → Rule → Prop
  | whole {path : List PathStep} {s : Section} : SectionAt path s → Demand path .object
  | field {path : List PathStep} {s : Section} {field : Field} : SectionAt path s →
      field ∈ s.fields → Demand (path ++ [PathStep.field field.key]) field.rule
  | name {path : List PathStep} (index : ℕ) : SectionAt path .group →
      Demand (path ++ [PathStep.field (lit "points")] ++ [PathStep.item index]) (.text false)

/-- The array at the path names its items: their fields `key` are all different.  The last argument
is how a message about two equal names starts. -/
inductive Named : List PathStep → ByteString → ByteString → Prop
  | devices : Named [.field (lit "devices")] (lit "id") (lit "duplicate device id '")
  | points (device : ℕ) :
      Named (devicePath device ++ [PathStep.field (lit "points")]) (lit "name")
        (lit "duplicate point '")
  | groups : Named [.field (lit "groups")] (lit "id") (lit "duplicate group id '")
  | plugins {key : ByteString} : key ∈ pluginKeys →
      Named [.field key] (lit "id") (lit "duplicate plugin id '")

/-! ### Faults -/

/-- The message is about the value at the path, and what it says of the document is true. -/
inductive Fault (root : Json) : List PathStep → ByteString → Prop
  | missing {path : List PathStep} {s : Section} {field : Field}
      {members : List (ByteString × Json)} : SectionAt path s → field ∈ s.fields →
      field.required = true → root.locate path = some (.object members) →
      Json.find members field.key = none →
      Fault root (path ++ [PathStep.field field.key]) (lit "is a required field")
  | unfit {path : List PathStep} {rule : Rule} {value : Json} {message : ByteString} :
      Demand path rule → root.locate path = some value → rule.Unfit value message →
      Fault root path message
  | entry {path : List PathStep} {members : List (ByteString × Json)} {key : ByteString}
      {value : Json} : Demand path .texts → root.locate path = some (.object members) →
      (key, value) ∈ members → (∀ text, value ≠ .string text) →
      Fault root (path ++ [PathStep.field key]) (lit "must be a string")
  | repeated {path : List PathStep} {first second : ℕ} {text : ByteString} :
      Demand path .names → first < second →
      root.locate (path ++ [PathStep.item first]) = some (.string text) →
      root.locate (path ++ [PathStep.item second]) = some (.string text) →
      Fault root (path ++ [PathStep.item second]) (lit "must be unique within the array")
  | duplicate {path : List PathStep} {key label text : ByteString} {first second : ℕ} :
      Named path key label → first < second →
      root.locate (path ++ [PathStep.item first] ++ [PathStep.field key]) = some (.string text) →
      root.locate (path ++ [PathStep.item second] ++ [PathStep.field key]) = some (.string text) →
      Fault root (path ++ [PathStep.item second] ++ [PathStep.field key]) (label ++ text ++ lit "'")
  | inverted {path : List PathStep} {minimum maximum : Json} {low high : Double} :
      SectionAt path .point →
      root.locate (path ++ [PathStep.field (lit "minimum")]) = some minimum →
      root.locate (path ++ [PathStep.field (lit "maximum")]) = some maximum →
      asNumber minimum = some low → asNumber maximum = some high → high.lt low = true →
      Fault root path (lit "minimum must not exceed maximum")
  | unknownDevice {path : List PathStep} {id : ByteString} : SectionAt path .group →
      root.locate (path ++ [PathStep.field (lit "device_id")]) = some (.string id) →
      (∀ device, root.locate (devicePath device ++ [PathStep.field (lit "id")]) ≠
        some (.string id)) →
      Fault root (path ++ [PathStep.field (lit "device_id")])
        (lit "references an unknown device")
  | unknownPoint {path : List PathStep} {id name : ByteString} {device index : ℕ} :
      SectionAt path .group →
      root.locate (path ++ [PathStep.field (lit "device_id")]) = some (.string id) →
      root.locate (devicePath device ++ [PathStep.field (lit "id")]) = some (.string id) →
      root.locate (path ++ [PathStep.field (lit "points")] ++ [PathStep.item index]) =
        some (.string name) →
      (∀ point,
        root.locate (devicePath device ++ [PathStep.field (lit "points")] ++
          [PathStep.item point] ++ [PathStep.field (lit "name")]) ≠ some (.string name)) →
      Fault root (path ++ [PathStep.field (lit "points")])
        (lit "references unknown point '" ++ name ++ lit "'")

/-- The error text of a fault. -/
def Faulty (root : Json) (text : ByteString) : Prop :=
  ∃ path message, Fault root path message ∧ text = renderPath path ++ lit ": " ++ message

end MiniGateway
