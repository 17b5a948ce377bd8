/-
  The payload of the MQTT publisher (`event_to_json` of `mqtt_event_publisher.cpp`) and what a JSON
  reader makes of it.

  The functions append to the output stream, here the bytes written so far.  How the stream prints a
  finite `double` with 17 digits is a parameter, of which only that it is a JSON number is used.
-/
import MiniGateway.Binary64.Arithmetic
import MiniGateway.Decimal

namespace MiniGateway

open Binary64 (Double)

/-! ### Writing -/

/-- `quality_name`. -/
def qualityName : Quality → ByteString
  | .good => lit "good"
  | .timeout => lit "timeout"
  | .disconnected => lit "disconnected"
  | .decodeError => lit "decode_error"
  | .outOfRange => lit "out_of_range"
  | .bad => lit "bad"

/-- `output << std::setprecision(17) << item` for a finite `item`. -/
structure FloatFormat where
  print : Double → ByteString
  /-- A finite number is printed as a JSON number. -/
  isNumber : ∀ d, d.isFinite = true → JsonText.isNumber (print d) = true

/-- `hex[n & 0x0fU]`. -/
def hexDigit (n : ℕ) : UInt8 := (lit "0123456789abcdef").getD (n % 16) 0

/-- What the loop of `append_json_string` writes for one character. -/
def jsonCharacter (character : UInt8) : ByteString :=
  if character = 34 then lit "\\\""
  else if character = 92 then lit "\\\\"
  else if character = 8 then lit "\\b"
  else if character = 12 then lit "\\f"
  else if character = 10 then lit "\\n"
  else if character = 13 then lit "\\r"
  else if character = 9 then lit "\\t"
  else if character < 32 then
    lit "\\u00" ++ [hexDigit (character.toNat / 16), hexDigit character.toNat]
  else [character]

/-- `append_json_string`. -/
def appendJsonString (output value : ByteString) : ByteString :=
  output ++ lit "\"" ++ value.flatMap jsonCharacter ++ lit "\""

/-- The loops that put a comma in front of every item but the first; `index` counts the items
written. -/
def appendItems {α : Type*} (append : ByteString → α → ByteString) (output : ByteString)
    (index : ℕ) : List α → ByteString
  | [] => output
  | item :: rest =>
    appendItems append (append (if index ≠ 0 then output ++ lit "," else output) item)
      (index + 1) rest

/-- `append_json_scalar`. -/
def appendJsonScalar (format : FloatFormat) (output : ByteString) : Scalar → ByteString
  | .integer item => output ++ decimalInt item.toInt
  | .double item => if item.isFinite then output ++ format.print item else output ++ lit "null"
  | .boolean item => output ++ if item then lit "true" else lit "false"
  | .byteArray item =>
    appendItems (fun output byte => output ++ decimal byte.toNat) (output ++ lit "[") 0 item ++
      lit "]"
  | .string item => appendJsonString output item

/-- The body of the loop over the readings. -/
def appendReading (format : FloatFormat) (output : ByteString) (reading : Reading) : ByteString :=
  let output := appendJsonString (output ++ lit "\x7b\"point\":") reading.point
  let output := appendJsonScalar format (output ++ lit ",\"value\":") reading.value
  let output := appendJsonString (output ++ lit ",\"quality\":") (qualityName reading.quality)
  let output := appendJsonString (output ++ lit ",\"unit\":") reading.unit
  let output := output ++ lit ",\"source_time_ns\":" ++ decimalInt reading.sourceTimeNs
  let output := output ++ lit ",\"received_time_ns\":" ++ decimalInt reading.receivedTimeNs
  output ++ lit ",\"derived\":" ++ (if reading.derived then lit "true" else lit "false") ++ lit "\x7d"

/-- `event_to_json`. -/
def eventToJson (format : FloatFormat) (event : Event) : ByteString :=
  let output := appendJsonString (lit "\x7b\"event_id\":") event.eventId
  let output := appendJsonString (output ++ lit ",\"device_id\":") event.deviceId
  let output := appendJsonString (output ++ lit ",\"source\":") event.source
  let output := appendJsonString (output ++ lit ",\"model_version\":") event.modelVersion
  appendItems (appendReading format) (output ++ lit ",\"readings\":[") 0 event.readings ++ lit "]\x7d"

/-! ### What is to be read -/

open JsonText (Value)

/-- A number that is an integer. -/
def IsInteger (n : ℤ) (value : Value) : Prop :=
  ∃ text, value = .number text ∧ JsonText.integer? text = some n

/-- The JSON value of a scalar: the same integer, boolean, string or list of bytes; the printed
number of a finite `double`, and null for one that is not. -/
def ScalarDecodes (format : FloatFormat) : Scalar → Value → Prop
  | .integer n, value => IsInteger n.toInt value
  | .double d, value => value = if d.isFinite then .number (format.print d) else .null
  | .boolean b, value => value = .boolean b
  | .byteArray bytes, value =>
    ∃ items, value = .array items ∧ List.Forall₂ (fun byte => IsInteger byte.toNat) bytes items
  | .string s, value => value = .string s

/-- The JSON value of a reading: exactly these members. -/
def ReadingDecodes (format : FloatFormat) (reading : Reading) (value : Value) : Prop :=
  ∃ scalar sourceTime receivedTime, ScalarDecodes format reading.value scalar ∧
    IsInteger reading.sourceTimeNs sourceTime ∧ IsInteger reading.receivedTimeNs receivedTime ∧
    value = .object [(lit "point", .string reading.point), (lit "value", scalar),
      (lit "quality", .string (qualityName reading.quality)), (lit "unit", .string reading.unit),
      (lit "source_time_ns", sourceTime), (lit "received_time_ns", receivedTime),
      (lit "derived", .boolean reading.derived)]

/-- The JSON value of an event: exactly these members, and one value for each reading. -/
def EventDecodes (format : FloatFormat) (event : Event) (value : Value) : Prop :=
  ∃ readings, List.Forall₂ (ReadingDecodes format) event.readings readings ∧
    value = .object [(lit "event_id", .string event.eventId),
      (lit "device_id", .string event.deviceId), (lit "source", .string event.source),
      (lit "model_version", .string event.modelVersion), (lit "readings", .array readings)]

/-! ### Strings -/

/-- An escaped character is read as itself. -/
theorem readString_jsonCharacter (c : UInt8) (rest : List UInt8) :
    JsonText.readString (jsonCharacter c ++ rest) = JsonText.push [c] (JsonText.readString rest) := by
  by_cases hquote : c = 34
  · subst hquote
    exact JsonText.readString_escape rest (e := 34) rfl
  by_cases hbackslash : c = 92
  · subst hbackslash
    exact JsonText.readString_escape rest (e := 92) rfl
  by_cases hb : c = 8
  · subst hb
    exact JsonText.readString_escape rest (e := 98) rfl
  by_cases hf : c = 12
  · subst hf
    exact JsonText.readString_escape rest (e := 102) rfl
  by_cases hn : c = 10
  · subst hn
    exact JsonText.readString_escape rest (e := 110) rfl
  by_cases hr : c = 13
  · subst hr
    exact JsonText.readString_escape rest (e := 114) rfl
  by_cases ht : c = 9
  · subst ht
    exact JsonText.readString_escape rest (e := 116) rfl
  unfold jsonCharacter
  rw [if_neg hquote, if_neg hbackslash, if_neg hb, if_neg hf, if_neg hn, if_neg hr, if_neg ht]
  by_cases hcontrol : c < 32
  · -- the two hexadecimal digits of a control character
    have hdigits : ∀ n < 32, JsonText.codeUnit 48 48 (hexDigit (n / 16)) (hexDigit n) = some n := by
      decide +kernel
    have hlt : c.toNat < 32 := hcontrol
    have hunit := hdigits c.toNat hlt
    have hread := JsonText.readString_unicode rest hunit (by omega)
    rw [if_pos hcontrol]
    rw [UInt8.ofNat_toNat] at hread
    exact hread
  · rw [if_neg hcontrol]
    exact JsonText.readString_plain rest hquote hbackslash hcontrol

theorem readString_flatMap (value rest : ByteString) :
    JsonText.readString (value.flatMap jsonCharacter ++ 34 :: rest) = some (value, rest) := by
  induction value with
  | nil => exact JsonText.readString_quote rest
  | cons c value ih =>
    rw [List.flatMap_cons, List.append_assoc, readString_jsonCharacter, ih]
    rfl

/-- What `append_json_string` writes. -/
def jsonString (value : ByteString) : ByteString := 34 :: value.flatMap jsonCharacter ++ [34]

theorem appendJsonString_eq (output value : ByteString) :
    appendJsonString output value = output ++ jsonString value := by
  unfold appendJsonString jsonString
  rw [List.append_assoc, List.append_assoc]
  rfl

theorem reads_jsonString (value : ByteString) :
    JsonText.Reads (jsonString value) (.string value) :=
  .string (readString_flatMap value)

/-! ### Integers -/

/-- A printed integer is read back. -/
theorem integer_decimalInt (n : ℤ) : JsonText.isNumber (decimalInt n) = true ∧
    JsonText.integer? (decimalInt n) = some n := by
  have hdigits := digits_decimal n.natAbs
  have hvalue := digitsValue_decimal n.natAbs
  unfold decimalInt
  split_ifs with hneg
  · refine ⟨hdigits.isNumber_neg, ?_⟩
    show JsonText.integer? (45 :: decimal n.natAbs) = some n
    rw [hdigits.integer?_neg, hvalue]
    congr 1
    omega
  · refine ⟨hdigits.isNumber, ?_⟩
    rw [hdigits.integer?, hvalue]
    congr 1
    omega

theorem isInteger_decimalInt (n : ℤ) : IsInteger n (.number (decimalInt n)) :=
  ⟨decimalInt n, rfl, (integer_decimalInt n).2⟩

theorem reads_decimalInt (n : ℤ) :
    JsonText.Reads (decimalInt n) (.number (decimalInt n)) :=
  .number (integer_decimalInt n).1

theorem decimalInt_natCast (n : ℕ) : decimalInt n = decimal n := by
  unfold decimalInt
  rw [if_neg (by omega)]
  rfl

/-! ### Lists -/

section Items

variable {α : Type*} {append : ByteString → α → ByteString}

/-- The loop writes the texts of the items with commas between them. -/
theorem appendItems_eq (happend : ∀ output item, append output item = output ++ append [] item)
    (output : ByteString) (items : List α) :
    appendItems append output 0 items = output ++ JsonText.commas (items.map (append [])) := by
  -- behind the first item every item comes with a comma in front
  have hrest : ∀ (items : List α) (item : α) (output : ByteString) (index : ℕ),
      appendItems append (output ++ append [] item) (index + 1) items =
        output ++ JsonText.commas ((item :: items).map (append [])) := by
    intro items
    induction items with
    | nil => exact fun _ _ _ => rfl
    | cons next items ih =>
      intro item output index
      rw [appendItems, if_pos (Nat.succ_ne_zero index), happend, ih]
      simp [JsonText.commas, show lit "," = [44] from rfl]
  cases items with
  | nil => simp [appendItems, JsonText.commas]
  | cons item items =>
    rw [appendItems, if_neg (not_not.mpr rfl), happend]
    exact hrest items item output 0

end Items

/-! ### Scalars -/

section Format

variable (format : FloatFormat)

theorem appendJsonScalar_eq (output : ByteString) (value : Scalar) :
    appendJsonScalar format output value = output ++ appendJsonScalar format [] value := by
  cases value with
  | integer n => rfl
  | double d =>
    simp only [appendJsonScalar]
    split_ifs <;> rfl
  | boolean b => rfl
  | byteArray bytes =>
    simp only [appendJsonScalar]
    rw [appendItems_eq (fun _ _ => rfl), appendItems_eq (fun _ _ => rfl)]
    simp
  | string s =>
    simp only [appendJsonScalar]
    rw [appendJsonString_eq, appendJsonString_eq]
    rfl

/-- A scalar is read back. -/
theorem reads_scalar (value : Scalar) : ∃ json,
    JsonText.Reads (appendJsonScalar format [] value) json ∧ ScalarDecodes format value json := by
  cases value with
  | integer n => exact ⟨_, reads_decimalInt n.toInt, isInteger_decimalInt n.toInt⟩
  | double d =>
    by_cases hfinite : d.isFinite = true
    · refine ⟨.number (format.print d), ?_, ?_⟩
      · simp only [appendJsonScalar, if_pos hfinite]
        exact .number (format.isNumber d hfinite)
      · simp [ScalarDecodes, hfinite]
    · refine ⟨.null, ?_, ?_⟩
      · simp only [appendJsonScalar, if_neg hfinite]
        exact JsonText.reads_null
      · simp [ScalarDecodes, hfinite]
  | boolean b =>
    refine ⟨.boolean b, ?_, rfl⟩
    cases b
    · exact JsonText.reads_false
    · exact JsonText.reads_true
  | byteArray bytes =>
    let items : List JsonText.Value := bytes.map fun byte => .number (decimal byte.toNat)
    refine ⟨.array items, ?_, items, rfl, ?_⟩
    · simp only [appendJsonScalar]
      rw [appendItems_eq (fun _ _ => rfl)]
      refine JsonText.Reads.array ?_
      simp only [items, List.forall₂_map_left_iff, List.forall₂_map_right_iff, List.forall₂_same]
      intro byte _
      rw [List.nil_append, ← decimalInt_natCast]
      exact reads_decimalInt byte.toNat
    · simp only [items, List.forall₂_map_right_iff, List.forall₂_same]
      intro byte _
      rw [← decimalInt_natCast]
      exact isInteger_decimalInt byte.toNat
  | string s =>
    refine ⟨.string s, ?_, rfl⟩
    simp only [appendJsonScalar]
    rw [appendJsonString_eq]
    exact reads_jsonString s

/-! ### Readings and events -/

/-- A member as the writer puts it. -/
def jsonMember (key text : ByteString) : ByteString := 34 :: key ++ 34 :: 58 :: text

/-- The keys need no escapes. -/
theorem reads_member {key text : ByteString} {value : Value}
    (hkey : key.flatMap jsonCharacter = key) (h : JsonText.Reads text value) :
    JsonText.ReadsMember (jsonMember key text) (key, value) := by
  refine JsonText.Reads.member (fun rest => ?_) h
  have hread := readString_flatMap key rest
  rw [hkey] at hread
  exact hread

/-- `true` or `false`. -/
theorem reads_boolean (b : Bool) :
    JsonText.Reads (if b then lit "true" else lit "false") (.boolean b) := by
  cases b
  · exact JsonText.reads_false
  · exact JsonText.reads_true

theorem appendReading_nil (reading : Reading) : appendReading format [] reading =
    123 :: JsonText.commas [jsonMember (lit "point") (jsonString reading.point),
      jsonMember (lit "value") (appendJsonScalar format [] reading.value),
      jsonMember (lit "quality") (jsonString (qualityName reading.quality)),
      jsonMember (lit "unit") (jsonString reading.unit),
      jsonMember (lit "source_time_ns") (decimalInt reading.sourceTimeNs),
      jsonMember (lit "received_time_ns") (decimalInt reading.receivedTimeNs),
      jsonMember (lit "derived") (if reading.derived then lit "true" else lit "false")] ++ [125] := by
  simp only [appendReading, appendJsonString_eq]
  rw [appendJsonScalar_eq]
  have hpoint : lit "\x7b\"point\":" = 123 :: jsonMember (lit "point") [] := rfl
  have hvalue : lit ",\"value\":" = 44 :: jsonMember (lit "value") [] := rfl
  have hquality : lit ",\"quality\":" = 44 :: jsonMember (lit "quality") [] := rfl
  have hunit : lit ",\"unit\":" = 44 :: jsonMember (lit "unit") [] := rfl
  have hsource : lit ",\"source_time_ns\":" = 44 :: jsonMember (lit "source_time_ns") [] := rfl
  have hreceived : lit ",\"received_time_ns\":" = 44 :: jsonMember (lit "received_time_ns") [] := rfl
  have hderived : lit ",\"derived\":" = 44 :: jsonMember (lit "derived") [] := rfl
  have hclose : lit "\x7d" = [125] := rfl
  rw [hpoint, hvalue, hquality, hunit, hsource, hreceived, hderived, hclose]
  simp [jsonMember, JsonText.commas]

theorem appendReading_eq (output : ByteString) (reading : Reading) :
    appendReading format output reading = output ++ appendReading format [] reading := by
  simp only [appendReading, appendJsonString_eq]
  rw [appendJsonScalar_eq, appendJsonScalar_eq format (_ ++ lit ",\"value\":")]
  simp

/-- A reading is read back. -/
theorem reads_reading (reading : Reading) : ∃ json,
    JsonText.Reads (appendReading format [] reading) json ∧ ReadingDecodes format reading json := by
  obtain ⟨scalar, hreads, hdecodes⟩ := reads_scalar format reading.value
  refine ⟨_, ?_, scalar, _, _, hdecodes, isInteger_decimalInt _, isInteger_decimalInt _, rfl⟩
  rw [appendReading_nil]
  refine JsonText.Reads.object (.cons ?_ (.cons ?_ (.cons ?_ (.cons ?_ (.cons ?_ (.cons ?_
    (.cons ?_ .nil)))))))
  · exact reads_member rfl (reads_jsonString _)
  · exact reads_member rfl hreads
  · exact reads_member rfl (reads_jsonString _)
  · exact reads_member rfl (reads_jsonString _)
  · exact reads_member rfl (reads_decimalInt _)
  · exact reads_member rfl (reads_decimalInt _)
  · exact reads_member rfl (reads_boolean _)

theorem eventToJson_eq (event : Event) : eventToJson format event =
    123 :: JsonText.commas [jsonMember (lit "event_id") (jsonString event.eventId),
      jsonMember (lit "device_id") (jsonString event.deviceId),
      jsonMember (lit "source") (jsonString event.source),
      jsonMember (lit "model_version") (jsonString event.modelVersion),
      jsonMember (lit "readings")
        (91 :: JsonText.commas (event.readings.map (appendReading format [])) ++ [93])] ++
      [125] := by
  simp only [eventToJson, appendJsonString_eq]
  rw [appendItems_eq (appendReading_eq format)]
  have hevent : lit "\x7b\"event_id\":" = 123 :: jsonMember (lit "event_id") [] := rfl
  have hdevice : lit ",\"device_id\":" = 44 :: jsonMember (lit "device_id") [] := rfl
  have hsource : lit ",\"source\":" = 44 :: jsonMember (lit "source") [] := rfl
  have hmodel : lit ",\"model_version\":" = 44 :: jsonMember (lit "model_version") [] := rfl
  have hreadings : lit ",\"readings\":[" = 44 :: jsonMember (lit "readings") [91] := rfl
  have hclose : lit "]\x7d" = [93, 125] := rfl
  rw [hevent, hdevice, hsource, hmodel, hreadings, hclose]
  simp [jsonMember, JsonText.commas]

/-- **The payload decodes back to the event.** -/
theorem eventToJson_decodes (event : Event) :
    ∃ value, JsonText.parse (eventToJson format event) = some value ∧
      EventDecodes format event value := by
  -- one value for each reading
  obtain ⟨readings, hreads, hdecodes⟩ : ∃ readings,
      List.Forall₂ JsonText.Reads (event.readings.map (appendReading format [])) readings ∧
        List.Forall₂ (ReadingDecodes format) event.readings readings := by
    induction event.readings with
    | nil => exact ⟨[], .nil, .nil⟩
    | cons reading rest ih =>
      obtain ⟨readings, hreads, hdecodes⟩ := ih
      obtain ⟨json, hread, hdecode⟩ := reads_reading format reading
      exact ⟨json :: readings, .cons hread hreads, .cons hdecode hdecodes⟩
  refine ⟨_, ?_, readings, hdecodes, rfl⟩
  rw [eventToJson_eq]
  apply JsonText.Reads.parse
  refine JsonText.Reads.object (.cons ?_ (.cons ?_ (.cons ?_ (.cons ?_ (.cons ?_ .nil)))))
  · exact reads_member rfl (reads_jsonString _)
  · exact reads_member rfl (reads_jsonString _)
  · exact reads_member rfl (reads_jsonString _)
  · exact reads_member rfl (reads_jsonString _)
  · exact reads_member rfl (.array hreads)

end Format

/-- Whole numbers as the stream prints them below a million; `0` elsewhere. -/
def wholeFormat : FloatFormat where
  print d :=
    match d with
    | .finite q _ => if q.den = 1 ∧ q.num.natAbs < 1000000 then decimalInt q.num else lit "0"
    | _ => lit "0"
  isNumber d _ := by
    split
    · split_ifs
      · exact (integer_decimalInt _).1
      · decide
    · decide

/-- An event with escapes in its strings, a number, an infinity and two bytes. -/
def escapedEvent : Event where
  eventId := lit "event-1-1"
  deviceId := lit "a\"b\\c\n"
  source := [0, 31, 200]
  readings := [
    { point := lit "p", value := .double (Double.ofInt 3), unit := [], sourceTimeNs := -1,
      receivedTimeNs := 2 },
    { point := lit "q", value := .double (.infinity false), unit := [], sourceTimeNs := 1,
      receivedTimeNs := 2, derived := true },
    { point := lit "r", value := .byteArray [0, 255], quality := .bad, unit := [],
      sourceTimeNs := 1, receivedTimeNs := 2 }]
  modelVersion := []

/-- Its payload is read whole. -/
theorem eventToJson_decodes_escaped : ∃ value,
    JsonText.parse (eventToJson wholeFormat escapedEvent) = some value ∧
      EventDecodes wholeFormat escapedEvent value :=
  eventToJson_decodes wholeFormat escapedEvent

end MiniGateway
