/-
  The payload tells events apart.

  With the stream's own printing of numbers (`streamFormat`) a reader gets back every finite
  `double`, up to the sign of a zero.  So two events with one payload agree in everything but this:
  a payload does not tell the values that are not finite from each other, nor a whole `double` from
  the equal integer.
-/
import MiniGateway.Mqtt.Numbers

namespace MiniGateway

open Binary64 (Double)

/-- The format of the payload. -/
def streamFormat : FloatFormat where
  print := setprecision17
  isNumber _ h := by
    obtain ⟨x, hx, -⟩ := number?_setprecision17 h
    exact JsonText.isNumber_of_number? hx

/-! ### What a payload leaves open -/

/-- Two values that a payload may show alike. -/
inductive SameScalar : Scalar → Scalar → Prop
  | refl (value : Scalar) : SameScalar value value
  | notFinite {d d' : Double} : d.isFinite = false → d'.isFinite = false →
      SameScalar (.double d) (.double d')
  /-- The `double` is the integer. -/
  | whole {n : Int64} {d : Double} : d.isFinite = true → d.toRat = n.toInt →
      SameScalar (.integer n) (.double d)
  | whole_symm {n : Int64} {d : Double} : d.isFinite = true → d.toRat = n.toInt →
      SameScalar (.double d) (.integer n)

/-- Two readings that agree but for such a value. -/
structure SameReading (a b : Reading) : Prop where
  point : a.point = b.point
  value : SameScalar a.value b.value
  quality : a.quality = b.quality
  unit : a.unit = b.unit
  sourceTimeNs : a.sourceTimeNs = b.sourceTimeNs
  receivedTimeNs : a.receivedTimeNs = b.receivedTimeNs
  derived : a.derived = b.derived

/-- Two events that agree but for such values. -/
structure SameEvent (a b : Event) : Prop where
  eventId : a.eventId = b.eventId
  deviceId : a.deviceId = b.deviceId
  source : a.source = b.source
  modelVersion : a.modelVersion = b.modelVersion
  readings : List.Forall₂ SameReading a.readings b.readings

/-! ### One value, one scalar -/

theorem IsInteger.unique {m n : ℤ} {value : JsonText.Value} (hm : IsInteger m value)
    (hn : IsInteger n value) : m = n := by
  obtain ⟨text, rfl, htext⟩ := hm
  obtain ⟨text', heq, htext'⟩ := hn
  cases heq
  exact Option.some.inj (htext.symm.trans htext')

/-- The value of a finite `double` is its printed number. -/
theorem double_decodes {d : Double} {value : JsonText.Value} (hfinite : d.isFinite = true)
    (h : ScalarDecodes streamFormat (.double d) value) :
    ∃ text x, value = .number text ∧ JsonText.number? text = some x ∧ Double.ofRat x = d := by
  obtain ⟨x, hx, hd⟩ := number?_setprecision17 hfinite
  refine ⟨setprecision17 d, x, ?_, hx, hd⟩
  have hvalue : value = if d.isFinite then .number (setprecision17 d) else .null := h
  rw [hvalue, if_pos hfinite]

theorem not_finite_decodes {d : Double} {value : JsonText.Value} (hfinite : d.isFinite = false)
    (h : ScalarDecodes streamFormat (.double d) value) : value = .null := by
  have hvalue : value = if d.isFinite then .number (setprecision17 d) else .null := h
  simpa [hfinite] using hvalue

/-- The `double` of an integer's text is that integer. -/
theorem toRat_of_isInteger {n : ℤ} {d : Double} {value : JsonText.Value}
    (hn : IsInteger n value) (hd : ScalarDecodes streamFormat (.double d) value) :
    d.isFinite = true ∧ d.toRat = n := by
  obtain ⟨text, rfl, htext⟩ := hn
  cases hfinite : d.isFinite with
  | false => cases not_finite_decodes hfinite hd
  | true =>
    have hvalue : JsonText.Value.number text = .number (setprecision17 d) := by
      have hif : _ = if d.isFinite then JsonText.Value.number (setprecision17 d) else .null := hd
      rwa [if_pos hfinite] at hif
    cases hvalue
    exact ⟨rfl, toRat_of_integer?_setprecision17 hfinite htext⟩

theorem double_unique {d d' : Double} {value : JsonText.Value}
    (h : ScalarDecodes streamFormat (.double d) value)
    (h' : ScalarDecodes streamFormat (.double d') value) :
    SameScalar (.double d) (.double d') := by
  cases hd : d.isFinite with
  | false =>
    cases hd' : d'.isFinite with
    | false => exact .notFinite hd hd'
    | true =>
      obtain ⟨text, x, rfl, -⟩ := double_decodes hd' h'
      cases not_finite_decodes hd h
  | true =>
    obtain ⟨text, x, rfl, hx, rfl⟩ := double_decodes hd h
    cases hd' : d'.isFinite with
    | false => cases not_finite_decodes hd' h'
    | true =>
      obtain ⟨text', x', heq, hx', rfl⟩ := double_decodes hd' h'
      cases heq
      cases hx.symm.trans hx'
      exact .refl _

theorem bytes_unique {bytes bytes' : List UInt8} {items : List JsonText.Value}
    (h : List.Forall₂ (fun byte => IsInteger (UInt8.toNat byte)) bytes items)
    (h' : List.Forall₂ (fun byte => IsInteger (UInt8.toNat byte)) bytes' items) :
    bytes = bytes' := by
  induction h generalizing bytes' with
  | nil =>
    cases h'
    rfl
  | @cons byte _ _ _ hbyte _ ih =>
    cases h' with
    | @cons byte' _ _ _ hbyte' hrest =>
      have hnat : byte.toNat = byte'.toNat := by exact_mod_cast hbyte.unique hbyte'
      rw [ih hrest, UInt8.toNat_inj.mp hnat]

/-- The kind of JSON value that a scalar is written as. -/
def jsonKind : JsonText.Value → ℕ
  | .number _ => 0
  | .null => 0
  | .boolean _ => 1
  | .string _ => 2
  | .array _ => 3
  | .object _ => 4

def scalarKind : Scalar → ℕ
  | .integer _ => 0
  | .double _ => 0
  | .boolean _ => 1
  | .string _ => 2
  | .byteArray _ => 3

theorem jsonKind_of_decodes {value : Scalar} {json : JsonText.Value}
    (h : ScalarDecodes streamFormat value json) : jsonKind json = scalarKind value := by
  cases value with
  | integer n =>
    obtain ⟨text, rfl, -⟩ := h
    rfl
  | double d =>
    cases hd : d.isFinite with
    | false =>
      rw [not_finite_decodes hd h]
      rfl
    | true =>
      obtain ⟨text, x, rfl, -⟩ := double_decodes hd h
      rfl
  | boolean b =>
    obtain rfl : json = .boolean b := h
    rfl
  | byteArray bytes =>
    obtain ⟨items, rfl, -⟩ := h
    rfl
  | string s =>
    obtain rfl : json = .string s := h
    rfl

/-- Two scalars that are read as one value. -/
theorem scalar_unique {a b : Scalar} {json : JsonText.Value}
    (ha : ScalarDecodes streamFormat a json) (hb : ScalarDecodes streamFormat b json) :
    SameScalar a b := by
  have hkind := (jsonKind_of_decodes ha).symm.trans (jsonKind_of_decodes hb)
  cases a with
  | integer m =>
    cases b with
    | integer n =>
      have hint : m.toInt = n.toInt := IsInteger.unique ha hb
      rw [Int64.toInt_inj.mp hint]
      exact .refl _
    | double d =>
      obtain ⟨hfinite, hvalue⟩ := toRat_of_isInteger ha hb
      exact .whole hfinite hvalue
    | _ => cases hkind
  | double d =>
    cases b with
    | integer n =>
      obtain ⟨hfinite, hvalue⟩ := toRat_of_isInteger hb ha
      exact .whole_symm hfinite hvalue
    | double d' => exact double_unique ha hb
    | _ => cases hkind
  | boolean flag =>
    cases b with
    | boolean flag' =>
      obtain rfl : json = .boolean flag := ha
      cases (hb : JsonText.Value.boolean flag = .boolean flag')
      exact .refl _
    | _ => cases hkind
  | string text =>
    cases b with
    | string text' =>
      obtain rfl : json = .string text := ha
      cases (hb : JsonText.Value.string text = .string text')
      exact .refl _
    | _ => cases hkind
  | byteArray bytes =>
    cases b with
    | byteArray bytes' =>
      obtain ⟨items, rfl, hitems⟩ := ha
      obtain ⟨items', heq, hitems'⟩ := hb
      cases heq
      rw [bytes_unique hitems hitems']
      exact .refl _
    | _ => cases hkind

/-! ### One payload, one event -/

theorem qualityName_injective : Function.Injective qualityName := by
  intro a b h
  cases a <;> cases b <;> first | rfl | exact absurd h (by decide)

theorem reading_unique {a b : Reading} {json : JsonText.Value}
    (ha : ReadingDecodes streamFormat a json) (hb : ReadingDecodes streamFormat b json) :
    SameReading a b := by
  obtain ⟨scalar, sourceTime, receivedTime, hscalar, hsource, hreceived, rfl⟩ := ha
  obtain ⟨scalar', sourceTime', receivedTime', hscalar', hsource', hreceived', heq⟩ := hb
  simp only [JsonText.Value.object.injEq, List.cons.injEq, Prod.mk.injEq, true_and,
    JsonText.Value.string.injEq, JsonText.Value.boolean.injEq, and_true] at heq
  obtain ⟨hpoint, rfl, hquality, hunit, rfl, rfl, hderived⟩ := heq
  exact ⟨hpoint, scalar_unique hscalar hscalar', qualityName_injective hquality, hunit,
    hsource.unique hsource', hreceived.unique hreceived', hderived⟩

/-- The text of an event is read as the event. -/
theorem reads_event (format : FloatFormat) (event : Event) : ∃ json,
    JsonText.Reads (eventToJson format event) json ∧ EventDecodes format event json := by
  choose json hreads hdecodes using reads_reading format
  refine ⟨_, ?_, event.readings.map json, ?_, rfl⟩
  · rw [eventToJson_eq]
    refine JsonText.Reads.object (.cons ?_ (.cons ?_ (.cons ?_ (.cons ?_ (.cons ?_ .nil)))))
    · exact reads_member rfl (reads_jsonString _)
    · exact reads_member rfl (reads_jsonString _)
    · exact reads_member rfl (reads_jsonString _)
    · exact reads_member rfl (reads_jsonString _)
    · refine reads_member rfl (.array ?_)
      simp only [List.forall₂_map_left_iff, List.forall₂_map_right_iff, List.forall₂_same]
      exact fun reading _ => hreads reading
  · simp only [List.forall₂_map_right_iff, List.forall₂_same]
    exact fun reading _ => hdecodes reading

theorem event_unique {a b : Event} {json : JsonText.Value}
    (ha : EventDecodes streamFormat a json) (hb : EventDecodes streamFormat b json) :
    SameEvent a b := by
  obtain ⟨readings, hreadings, rfl⟩ := ha
  obtain ⟨readings', hreadings', heq⟩ := hb
  simp only [JsonText.Value.object.injEq, List.cons.injEq, Prod.mk.injEq, true_and,
    JsonText.Value.string.injEq, JsonText.Value.array.injEq, and_true] at heq
  obtain ⟨hevent, hdevice, hsource, hmodel, rfl⟩ := heq
  refine ⟨hevent, hdevice, hsource, hmodel, ?_⟩
  rw [List.forall₂_iff_get]
  rw [List.forall₂_iff_get] at hreadings hreadings'
  refine ⟨hreadings.1.trans hreadings'.1.symm, fun i hi hi' => ?_⟩
  have hlt : i < readings.length := hreadings.1 ▸ hi
  exact reading_unique (hreadings.2 i hi hlt) (hreadings'.2 i hi' hlt)

/-- Two events with one payload. -/
theorem payload_determines {a b : Event}
    (heq : eventToJson streamFormat a = eventToJson streamFormat b) : SameEvent a b := by
  obtain ⟨json, hreads, hdecodes⟩ := reads_event streamFormat a
  obtain ⟨json', hreads', hdecodes'⟩ := reads_event streamFormat b
  rw [← heq] at hreads'
  cases hreads.parse.symm.trans hreads'.parse
  exact event_unique hdecodes hdecodes'

/-- **A payload determines its event**, up to values that are not finite and whole numbers; and
every finite `double` in it is read back exactly, up to the sign of a zero. -/
theorem payload_faithful :
    (∀ a b : Event, eventToJson streamFormat a = eventToJson streamFormat b → SameEvent a b) ∧
      ∀ d : Double, d.isFinite = true →
        ∃ x, JsonText.number? (appendJsonScalar streamFormat [] (.double d)) = some x ∧
          Double.ofRat x = d := by
  refine ⟨fun a b => payload_determines, fun d hd => ?_⟩
  obtain ⟨x, hx, hround⟩ := number?_setprecision17 hd
  refine ⟨x, ?_, hround⟩
  simp only [appendJsonScalar, if_pos hd]
  exact hx

end MiniGateway
