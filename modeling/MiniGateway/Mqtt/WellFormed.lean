/-
  When the MQTT payload is JSON text.

  A JSON text is well-formed UTF-8 and follows the JSON grammar.  The grammar is never the problem:
  every payload is parsed (`eventToJson_decodes`).  But `append_json_string` escapes byte by byte
  and copies every byte from 0x80 on, so a string that is not UTF-8 makes a payload that is not.
  Around the strings the payload is ASCII, and the escapes are too; so it is well formed exactly
  when every string in the event is (`isJsonText_eventToJson_iff`).
-/
import MiniGateway.Mqtt.Payload
import MiniGateway.Normalizer.Batches
import MiniGateway.Processing
import MiniGateway.Utf8

namespace MiniGateway

open Utf8 (WellFormed IsAscii)

/-- Well-formed UTF-8 that follows the JSON grammar. -/
def IsJsonText (text : ByteString) : Prop :=
  WellFormed text ∧ ∃ value, JsonText.parse text = some value

/-! ### What is ASCII -/

/-- Every byte is ASCII. -/
def AsciiText (text : ByteString) : Prop := ∀ b ∈ text, IsAscii b

instance (text : ByteString) : Decidable (AsciiText text) := List.decidableBAll IsAscii text

theorem isAscii_of_isNumberChar {b : UInt8} (h : JsonText.isNumberChar b = true) : IsAscii b := by
  have hall : ∀ n < 256, JsonText.isNumberChar (UInt8.ofNat n) = true → n < 128 := by
    decide +kernel
  have hlt := hall b.toNat b.toNat_lt (by rwa [UInt8.ofNat_toNat])
  exact UInt8.lt_iff_toNat_lt.mpr hlt

/-- The text of a number is ASCII. -/
theorem asciiText_of_isNumber {text : ByteString} (h : JsonText.isNumber text = true) :
    AsciiText text :=
  fun b hb => isAscii_of_isNumberChar (JsonText.isNumberChar_of_isNumber h b hb)

theorem asciiText_decimalInt (n : ℤ) : AsciiText (decimalInt n) :=
  asciiText_of_isNumber (integer_decimalInt n).1

theorem asciiText_boolean (b : Bool) : AsciiText (if b then lit "true" else lit "false") := by
  cases b
  · exact (by decide +kernel : AsciiText (lit "false"))
  · exact (by decide +kernel : AsciiText (lit "true"))

/-- An ASCII character is escaped to ASCII, and everything else is copied. -/
theorem jsonCharacter_ascii {b : UInt8} (hb : IsAscii b) :
    jsonCharacter b ≠ [] ∧ AsciiText (jsonCharacter b) := by
  have hall : ∀ n < 128, jsonCharacter (UInt8.ofNat n) ≠ [] ∧
      AsciiText (jsonCharacter (UInt8.ofNat n)) := by decide +kernel
  have hbyte := hall b.toNat (UInt8.lt_iff_toNat_lt.mp hb)
  rwa [UInt8.ofNat_toNat] at hbyte

theorem jsonCharacter_other {b : UInt8} (hb : ¬IsAscii b) : jsonCharacter b = [b] := by
  have hall : ∀ n < 256, ¬n < 128 → jsonCharacter (UInt8.ofNat n) = [UInt8.ofNat n] := by
    decide +kernel
  have hbyte := hall b.toNat b.toNat_lt fun hlt => hb (UInt8.lt_iff_toNat_lt.mpr hlt)
  rwa [UInt8.ofNat_toNat] at hbyte

/-! ### The pieces -/

/-- Escaping a string neither repairs nor damages it. -/
theorem wellFormed_jsonString (value : ByteString) :
    WellFormed (jsonString value) ↔ WellFormed value := by
  have hquote : IsAscii 34 := by decide
  rw [jsonString, List.cons_append, Utf8.wellFormed_cons hquote,
    Utf8.wellFormed_append_cons hquote,
    Utf8.wellFormed_flatMap (fun _ => jsonCharacter_ascii) (fun _ => jsonCharacter_other)]
  exact and_iff_left .nil

theorem wellFormed_commas (texts : List ByteString) :
    WellFormed (JsonText.commas texts) ↔ ∀ text ∈ texts, WellFormed text := by
  induction texts with
  | nil => exact iff_of_true .nil (by simp)
  | cons text rest ih =>
    cases rest with
    | nil => simp [JsonText.commas]
    | cons next rest =>
      rw [JsonText.commas, Utf8.wellFormed_append_cons (by decide), ih,
        List.forall_mem_cons (a := text)]

/-- Between two brackets. -/
theorem wellFormed_brackets {left right : UInt8} (hleft : IsAscii left) (hright : IsAscii right)
    (texts : List ByteString) : WellFormed (left :: JsonText.commas texts ++ [right]) ↔
      ∀ text ∈ texts, WellFormed text := by
  rw [List.cons_append, Utf8.wellFormed_cons hleft, Utf8.wellFormed_append_cons hright,
    wellFormed_commas]
  exact and_iff_left .nil

theorem wellFormed_jsonMember {key : ByteString} (hkey : AsciiText key) (text : ByteString) :
    WellFormed (jsonMember key text) ↔ WellFormed text := by
  have hquote : IsAscii 34 := by decide
  have hcolon : IsAscii 58 := by decide
  rw [jsonMember, List.cons_append, Utf8.wellFormed_cons hquote,
    Utf8.wellFormed_append_cons hquote, Utf8.wellFormed_cons hcolon]
  exact and_iff_right (Utf8.wellFormed_of_ascii hkey)

/-! ### Scalars, readings and events -/

/-- A string value is well-formed UTF-8; other values have no bytes of their own. -/
def Scalar.TextWellFormed : Scalar → Prop
  | .string s => WellFormed s
  | _ => True

/-- Every string of the reading is well-formed UTF-8. -/
structure Reading.TextsWellFormed (reading : Reading) : Prop where
  point : WellFormed reading.point
  unit : WellFormed reading.unit
  value : reading.value.TextWellFormed

/-- Every string of the event is well-formed UTF-8. -/
structure Event.TextsWellFormed (event : Event) : Prop where
  eventId : WellFormed event.eventId
  deviceId : WellFormed event.deviceId
  source : WellFormed event.source
  modelVersion : WellFormed event.modelVersion
  readings : ∀ reading ∈ event.readings, reading.TextsWellFormed

section Format

variable (format : FloatFormat)

theorem wellFormed_appendJsonScalar (value : Scalar) :
    WellFormed (appendJsonScalar format [] value) ↔ value.TextWellFormed := by
  cases value with
  | integer n =>
    exact iff_of_true (Utf8.wellFormed_of_ascii (asciiText_decimalInt n.toInt)) trivial
  | double d =>
    refine iff_of_true (Utf8.wellFormed_of_ascii ?_) trivial
    simp only [appendJsonScalar]
    split_ifs with hfinite
    · exact asciiText_of_isNumber (format.isNumber d hfinite)
    · exact (by decide +kernel : AsciiText (lit "null"))
  | boolean b => exact iff_of_true (Utf8.wellFormed_of_ascii (asciiText_boolean b)) trivial
  | byteArray bytes =>
    refine iff_of_true ?_ trivial
    simp only [appendJsonScalar]
    rw [appendItems_eq (fun _ _ => rfl)]
    show WellFormed (91 :: JsonText.commas _ ++ [93])
    rw [wellFormed_brackets (by decide) (by decide)]
    intro text htext
    obtain ⟨byte, -, rfl⟩ := List.mem_map.mp htext
    rw [List.nil_append, ← decimalInt_natCast]
    exact Utf8.wellFormed_of_ascii (asciiText_decimalInt byte.toNat)
  | string s =>
    simp only [appendJsonScalar]
    rw [appendJsonString_eq]
    exact wellFormed_jsonString s

theorem wellFormed_qualityName (quality : Quality) : WellFormed (qualityName quality) := by
  cases quality <;> decide +kernel

theorem wellFormed_appendReading (reading : Reading) :
    WellFormed (appendReading format [] reading) ↔ reading.TextsWellFormed := by
  have hkey : ∀ key ∈ [lit "point", lit "value", lit "quality", lit "unit", lit "source_time_ns",
      lit "received_time_ns", lit "derived"], AsciiText key := by decide +kernel
  simp only [List.forall_mem_cons] at hkey
  obtain ⟨hpoint, hvalue, hquality, hunit, hsource, hreceived, hderived, -⟩ := hkey
  rw [appendReading_nil, wellFormed_brackets (by decide) (by decide)]
  simp only [List.forall_mem_cons, List.not_mem_nil, false_implies, implies_true, and_true]
  rw [wellFormed_jsonMember hpoint, wellFormed_jsonMember hvalue, wellFormed_jsonMember hquality,
    wellFormed_jsonMember hunit, wellFormed_jsonMember hsource, wellFormed_jsonMember hreceived,
    wellFormed_jsonMember hderived, wellFormed_jsonString, wellFormed_jsonString,
    wellFormed_jsonString, wellFormed_appendJsonScalar]
  constructor
  · rintro ⟨hpoint, hvalue, -, hunit, -⟩
    exact ⟨hpoint, hunit, hvalue⟩
  · intro h
    exact ⟨h.point, h.value, wellFormed_qualityName reading.quality, h.unit,
      Utf8.wellFormed_of_ascii (asciiText_decimalInt _),
      Utf8.wellFormed_of_ascii (asciiText_decimalInt _),
      Utf8.wellFormed_of_ascii (asciiText_boolean _)⟩

theorem wellFormed_eventToJson (event : Event) :
    WellFormed (eventToJson format event) ↔ event.TextsWellFormed := by
  have hkey : ∀ key ∈ [lit "event_id", lit "device_id", lit "source", lit "model_version",
      lit "readings"], AsciiText key := by decide +kernel
  simp only [List.forall_mem_cons] at hkey
  obtain ⟨hevent, hdevice, hsource, hmodel, hreadings, -⟩ := hkey
  rw [eventToJson_eq, wellFormed_brackets (by decide) (by decide)]
  simp only [List.forall_mem_cons, List.not_mem_nil, false_implies, implies_true, and_true]
  rw [wellFormed_jsonMember hevent, wellFormed_jsonMember hdevice, wellFormed_jsonMember hsource,
    wellFormed_jsonMember hmodel, wellFormed_jsonMember hreadings, wellFormed_jsonString,
    wellFormed_jsonString, wellFormed_jsonString, wellFormed_jsonString,
    wellFormed_brackets (by decide) (by decide)]
  simp only [List.forall_mem_map, wellFormed_appendReading]
  constructor
  · rintro ⟨hevent, hdevice, hsource, hmodel, hreadings⟩
    exact ⟨hevent, hdevice, hsource, hmodel, hreadings⟩
  · intro h
    exact ⟨h.eventId, h.deviceId, h.source, h.modelVersion, h.readings⟩

/-- **The payload is JSON text** exactly when every string of the event is well-formed UTF-8. -/
theorem isJsonText_eventToJson_iff (event : Event) :
    IsJsonText (eventToJson format event) ↔ event.TextsWellFormed := by
  rw [← wellFormed_eventToJson format]
  obtain ⟨value, hparse, -⟩ := eventToJson_decodes format event
  exact and_iff_left ⟨value, hparse⟩

end Format

/-- A sample of a string point whose value is the byte 0xFF. -/
def latinSample : RawSample where
  point := lit "p"
  value := .string [0xFF]

def latinBatch : RawBatch where
  deviceId := lit "a"
  source := lit "poll"
  samples := [latinSample]

/-- A configured string point passes the byte on as a Good value, and the payload is not UTF-8,
however doubles are printed. -/
theorem latinBatch_not_isJsonText : ∃ n, Normalizer.create labelledDevice = .ok n ∧
    ∀ format : FloatFormat, ¬IsJsonText (eventToJson format
      (ProcessingPipeline.process (P := Processor) { processors := [] } 0
        (n.normalize 0 latinBatch).1).1) := by
  obtain ⟨n, hcreate⟩ := create_labelledDevice
  refine ⟨n, hcreate, fun format hjson => ?_⟩
  have htexts := (wellFormed_eventToJson format _).mp hjson.1
  have hreading := htexts.readings (normalizeSample n.devices (lit "a") 0 latinSample)
    (List.mem_singleton.mpr rfl)
  have hvalue : (normalizeSample labelledDevice.devices (lit "a") 0 latinSample).value =
      .string [0xFF] := by decide +kernel
  have hill : ¬WellFormed [0xFF] := by decide
  rw [n.create_devices hcreate] at hreading
  have htext := hreading.value
  rw [hvalue] at htext
  exact hill htext

end MiniGateway
