/-
  The errors of `parse_config` are the faults of the document.

  Each function of the parser has one lemma, for both of its outcomes: its value meets the rule of
  the place that it was read from, or its error text is that of a `Fault` there.  From the top
  function's lemma, a document is accepted exactly when it has no fault, and a rejected one is
  rejected for a fault that it has.
-/
import MiniGateway.Config.Schema
import MiniGateway.Throwing

namespace MiniGateway

open Binary64 (Double)
open Throwing (Settles)

/-! ### Fields that meet their rules -/

/-- The field is absent and may be, or its value meets its rule. -/
def FieldFit (object : List (ByteString × Json)) (field : Field) : Prop :=
  match Json.find object field.key with
  | none => field.required = false
  | some value => field.rule.Fit value

/-- Every field of the section meets its rule. -/
def SectionFit (s : Section) (object : List (ByteString × Json)) : Prop :=
  ∀ field ∈ s.fields, FieldFit object field

theorem FieldFit.of_find {object : List (ByteString × Json)} {field : Field} {value : Json}
    (hfind : Json.find object field.key = some value) (hfit : field.rule.Fit value) :
    FieldFit object field := by
  unfold FieldFit
  rw [hfind]
  exact hfit

theorem FieldFit.of_absent {object : List (ByteString × Json)} {field : Field}
    (hfind : Json.find object field.key = none) (hoptional : field.required = false) :
    FieldFit object field := by
  unfold FieldFit
  rw [hfind]
  exact hoptional

/-- An object of the document that is a section. -/
structure Inside (root : Json) (path : List PathStep) (s : Section)
    (object : List (ByteString × Json)) : Prop where
  section_at : SectionAt path s
  located : root.locate path = some (.object object)

/-- A value that breaks the rule is a fault at the path. -/
def Blames (root : Json) (path : List PathStep) (rule : Rule) (value : Json) : Prop :=
  ∀ message, rule.Unfit value message → Fault root path message

variable {root : Json} {path : List PathStep} {s : Section} {object : List (ByteString × Json)}
  {field : Field} {value : Json} {message : ByteString}

theorem Inside.blames (h : Inside root path s object) (hfield : field ∈ s.fields)
    (hfind : Json.find object field.key = some value) :
    Blames root (path ++ [PathStep.field field.key]) field.rule value := by
  intro message hunfit
  refine .unfit (.field h.section_at hfield) ?_ hunfit
  rw [Json.locate_field h.located, hfind]

/-! ### Checks of one value -/

theorem settles_fail {α : Type} {P : α → Prop} (h : Fault root path message) :
    Settles (Faulty root) P (fail (renderPath path) message) :=
  ⟨path, message, h, rfl⟩

theorem asObject_settles (h : Blames root path .object value) :
    Settles (Faulty root) (fun members => value = .object members)
      (asObject value (renderPath path)) := by
  cases value with
  | object members => exact rfl
  | _ => exact settles_fail (h _ (.object (by simp)))

theorem stringValue_settles {allowEmpty : Bool} (h : Blames root path (.text allowEmpty) value) :
    Settles (Faulty root) (fun text => value = .string text ∧ (text = [] → allowEmpty = true))
      (stringValue value (renderPath path) allowEmpty) := by
  cases value with
  | string text =>
    unfold stringValue
    dsimp only
    split_ifs with hempty
    · obtain ⟨hallow, htext⟩ : allowEmpty = false ∧ text = [] := by simpa using hempty
      subst hallow htext
      exact settles_fail (h _ .noText)
    · refine ⟨rfl, ?_⟩
      rintro rfl
      simpa using hempty
  | _ => exact settles_fail (h _ (.text (by simp)))

theorem unsignedIntegerValue_settles
    (h : value.natural? = none → Fault root path (lit "must be a non-negative integer")) :
    Settles (Faulty root) (fun n => value.natural? = some n)
      (unsignedIntegerValue value (renderPath path)) := by
  cases value with
  | unsigned n => exact rfl
  | integer n =>
    unfold unsignedIntegerValue
    dsimp only
    split_ifs with hneg
    · exact settles_fail (h (if_pos hneg))
    · exact if_neg hneg
  | _ => exact settles_fail (h rfl)

theorem finiteNumber_settles (hnumber : asNumber value = none → Fault root path message)
    (hfinite : ∀ d, asNumber value = some d → d.isFinite = false →
      Fault root path (lit "must be finite")) :
    Settles (Faulty root) (fun d => asNumber value = some d ∧ d.isFinite = true)
      (finiteNumber value (renderPath path) message) := by
  unfold finiteNumber
  cases hvalue : asNumber value with
  | none => exact settles_fail (hnumber hvalue)
  | some d =>
    dsimp only
    split_ifs with hd
    · exact ⟨rfl, hd⟩
    · exact settles_fail (hfinite d hvalue (by simpa using hd))

theorem stringMapItems_settles {members : List (ByteString × Json)}
    (h : ∀ key item, (key, item) ∈ members → (∀ text, item ≠ .string text) →
      Fault root (path ++ [PathStep.field key]) (lit "must be a string")) :
    Settles (Faulty root) (fun _ => ∀ member ∈ members, ∃ text, member.2 = .string text)
      (stringMapItems (renderPath path) members) := by
  induction members with
  | nil => simp [stringMapItems]
  | cons member rest ih =>
    obtain ⟨key, item⟩ := member
    cases item with
    | string text =>
      refine (ih fun key item hmem => h key item (List.mem_cons_of_mem _ hmem)).bind
        fun items hrest => ?_
      rintro member hmem
      rcases List.mem_cons.mp hmem with rfl | hmem
      · exact ⟨text, rfl⟩
      · exact hrest member hmem
    | _ =>
      unfold stringMapItems
      rw [← renderPath_field]
      exact settles_fail (h key _ List.mem_cons_self (by simp))

theorem stringMap_settles (h : Blames root path .texts value)
    (hentry : ∀ members key item, value = .object members → (key, item) ∈ members →
      (∀ text, item ≠ .string text) →
      Fault root (path ++ [PathStep.field key]) (lit "must be a string")) :
    Settles (Faulty root) (fun _ => Rule.texts.Fit value)
      (stringMap value (renderPath path)) := by
  cases value with
  | object members =>
    refine (stringMapItems_settles fun key item => hentry members key item rfl).mono ?_
    exact fun _ htexts => ⟨members, rfl, htexts⟩
  | _ => exact settles_fail (h _ (.texts (by simp)))

theorem valueType_settles (h : Blames root path .valueType value) :
    Settles (Faulty root) (fun _ => Rule.valueType.Fit value)
      (valueType value (renderPath path)) := by
  refine (stringValue_settles fun message hunfit => h message (.valueTypeText hunfit)).bind ?_
  rintro name ⟨rfl, -⟩
  by_cases hname : name ∈ valueTypeNames
  · have hfit : Rule.valueType.Fit (.string name) := ⟨name, rfl, hname⟩
    split_ifs with hinteger hdouble hboolean hstring hbytes
    · exact hfit
    · exact hfit
    · exact hfit
    · exact hfit
    · exact hfit
    · simp_all [valueTypeNames]
  · have hunknown := settles_fail (α := ValueType)
      (P := fun _ => Rule.valueType.Fit (.string name)) (h _ (.valueType hname))
    simp only [valueTypeNames, List.mem_cons, List.not_mem_nil, or_false, not_or] at hname
    simp only [hname, or_self, if_false]
    exact hunknown

/-! ### Arrays of names -/

theorem stringArrayItems_eq_collect (text : ByteString) (index : ℕ) (unique : List ByteString)
    (items : List Json) :
    stringArrayItems text index unique items =
      Throwing.collect id
        (fun index seen value => do
          let item ← stringValue value (itemPath text index) false
          if item ∈ seen then fail (itemPath text index) (lit "must be unique within the array")
          else .ok item)
        index unique items := by
  induction items generalizing index unique with
  | nil => rfl
  | cons value rest ih =>
    unfold stringArrayItems Throwing.collect
    rw [bind_assoc]
    congr 1
    funext item
    split_ifs with hseen
    · rfl
    · rw [ih]
      rfl

theorem stringArray_settles (h : Blames root path .names value)
    (hname : ∀ items index item, value = .array items → items[index]? = some item →
      Blames root (path ++ [PathStep.item index]) (.text false) item)
    (hrepeated : ∀ items first second text, value = .array items → first < second →
      items[first]? = some (.string text) → items[second]? = some (.string text) →
      Fault root (path ++ [PathStep.item second]) (lit "must be unique within the array")) :
    Settles (Faulty root)
      (fun names => value = .array (names.map .string) ∧ names ≠ [] ∧ [] ∉ names ∧ names.Nodup)
      (stringArray value (renderPath path) true) := by
  cases value with
  | array items =>
    unfold stringArray
    simp only [Bool.true_and, if_true]
    split_ifs with hempty
    · have hnil : items = [] := by simpa using hempty
      exact settles_fail (h _ (.names (by simp [hnil])))
    rw [stringArrayItems_eq_collect]
    have hitems : items ≠ [] := by simpa using hempty
    refine (Settles.collect (P := fun item name => item = .string name ∧ name ≠ []) ?_).mono ?_
    · intro index seen item hitem hseen
      rw [← renderPath_item]
      refine (stringValue_settles (hname items index item rfl hitem)).bind ?_
      rintro text ⟨rfl, htext⟩
      split_ifs with hmem
      · obtain ⟨earlier, hlt, item', hitem', text', ⟨rfl, -⟩, rfl⟩ := hseen text hmem
        exact settles_fail (hrepeated items earlier index _ rfl hlt hitem' hitem)
      · exact ⟨⟨rfl, fun hnil => by simpa using htext hnil⟩, hmem⟩
    · rintro names ⟨hnames, hnodup⟩
      rw [List.map_id] at hnodup
      have heq : items = names.map .string := by
        rw [← List.forall₂_eq_eq_eq, List.forall₂_map_right_iff]
        exact hnames.imp fun _ _ hname => hname.1
      refine ⟨heq ▸ rfl, ?_, ?_, hnodup⟩
      · rintro rfl
        exact hitems heq
      · intro hmem
        obtain ⟨index, hindex, hget⟩ := List.mem_iff_getElem.mp hmem
        have hlength := hnames.length_eq
        exact (List.forall₂_iff_get.mp hnames).2 index (by omega) hindex |>.2 hget
  | _ => exact settles_fail (h _ (.names (by simp)))

/-! ### Members -/

theorem member_settles (hin : Inside root path s object) (hfield : field ∈ s.fields)
    (hmissing : Json.find object field.key = none → field.required = true) :
    Settles (Faulty root) (fun value => Json.find object field.key = some value)
      (member object field.key (renderPath path)) := by
  unfold member
  cases hfind : Json.find object field.key with
  | some value => exact rfl
  | none =>
    dsimp only
    rw [← renderPath_field]
    exact settles_fail
      (.missing hin.section_at hfield (hmissing hfind) hin.located hfind)

theorem objectMember_settles {key : ByteString} (hin : Inside root path s object)
    (hfield : ⟨key, true, .object⟩ ∈ s.fields) :
    Settles (Faulty root)
      (fun members => Json.find object key = some (.object members) ∧
        FieldFit object ⟨key, true, .object⟩)
      (objectMember object key (renderPath path)) := by
  refine (member_settles hin hfield fun _ => rfl).bind fun value hfind => ?_
  rw [← renderPath_field]
  refine (asObject_settles (hin.blames hfield hfind)).mono ?_
  rintro members rfl
  exact ⟨hfind, .of_find hfind ⟨members, rfl⟩⟩

theorem arrayMember_settles {key : ByteString} {required : Bool} {rule : Rule}
    (hin : Inside root path s object) (hfield : ⟨key, required, rule⟩ ∈ s.fields)
    (hmissing : Json.find object key = none → required = true)
    (hrule : ∀ value, (∀ items, value ≠ .array items) →
      rule.Unfit value (lit "must be an array")) :
    Settles (Faulty root) (fun items => Json.find object key = some (.array items))
      (arrayMember object key (renderPath path)) := by
  refine (member_settles hin hfield hmissing).bind fun value hfind => ?_
  cases value with
  | array items => exact hfind
  | _ =>
    dsimp only
    rw [← renderPath_field]
    exact settles_fail (hin.blames hfield hfind _ (hrule _ (by simp)))

theorem stringMember_settles {key : ByteString} {allowEmpty : Bool}
    (hin : Inside root path s object) (hfield : ⟨key, true, .text allowEmpty⟩ ∈ s.fields) :
    Settles (Faulty root)
      (fun text => Json.find object key = some (.string text) ∧
        FieldFit object ⟨key, true, .text allowEmpty⟩)
      (stringMember object key (renderPath path) allowEmpty) := by
  refine (member_settles hin hfield fun _ => rfl).bind fun value hfind => ?_
  rw [← renderPath_field]
  refine (stringValue_settles (hin.blames hfield hfind)).mono ?_
  rintro text ⟨rfl, htext⟩
  exact ⟨hfind, .of_find hfind ⟨text, rfl, htext⟩⟩

theorem optionalPathMember_settles {key : ByteString} (hin : Inside root path s object)
    (hfield : ⟨key, false, .nullable (.text false)⟩ ∈ s.fields) :
    Settles (Faulty root) (fun _ => FieldFit object ⟨key, false, .nullable (.text false)⟩)
      (optionalPathMember object key (renderPath path)) := by
  unfold optionalPathMember
  split
  · next hfind => exact .of_absent hfind rfl
  · next hfind => exact .of_find hfind (.inl rfl)
  · next value hnull hfind =>
    rw [← renderPath_field]
    refine (stringValue_settles fun message hunfit => ?_).mono ?_
    · exact hin.blames hfield hfind message (.nullable hnull hunfit)
    · rintro text ⟨rfl, htext⟩
      exact .of_find hfind (.inr ⟨text, rfl, htext⟩)

theorem optionalEnabled_settles (hin : Inside root path s object)
    (hfield : ⟨lit "enabled", false, .boolean⟩ ∈ s.fields) :
    Settles (Faulty root) (fun _ => FieldFit object ⟨lit "enabled", false, .boolean⟩)
      (optionalEnabled object (renderPath path)) := by
  unfold optionalEnabled
  split
  · next hfind => exact .of_absent hfind rfl
  · next enabled hfind => exact .of_find hfind ⟨enabled, rfl⟩
  · next value hboolean hfind =>
    rw [← renderPath_field]
    exact settles_fail (hin.blames hfield hfind _ (.boolean hboolean))

/-- The shared lemma of the size and duration members. -/
theorem boundedMember_settles {limit : ℕ} (hin : Inside root path s object)
    (hfield : field ∈ s.fields)
    (hmissing : Json.find object field.key = none → field.required = true)
    (htype : ∀ value, Json.find object field.key = some value → value.natural? = none →
      Fault root (path ++ [PathStep.field field.key]) (lit "must be a non-negative integer"))
    (hbounds : ∀ value n, Json.find object field.key = some value → value.natural? = some n →
      n = 0 ∨ limit < n → Fault root (path ++ [PathStep.field field.key]) message) :
    Settles (Faulty root)
      (fun n => ∃ value, Json.find object field.key = some value ∧ value.natural? = some n ∧
        0 < n ∧ n ≤ limit)
      (boundedMember limit message object field.key (renderPath path) true) := by
  unfold boundedMember unsignedIntegerMember
  rw [bind_assoc]
  refine (member_settles hin hfield hmissing).bind fun value hfind => ?_
  rw [← renderPath_field]
  refine (unsignedIntegerValue_settles (htype value hfind)).bind fun n hn => ?_
  simp only [Bool.true_and, Bool.or_eq_true, beq_iff_eq, decide_eq_true_eq, if_true]
  split_ifs with hbad
  · exact settles_fail (hbounds value n hfind hn hbad)
  · exact ⟨value, hfind, hn, by omega, by omega⟩

theorem natural?_lt {n : ℕ} (h : value.natural? = some n) : n < 2 ^ 64 := by
  cases value with
  | unsigned m =>
    cases h
    exact m.toNat_lt
  | integer m =>
    have hm : m.toInt < 2 ^ 63 := m.toInt_lt
    simp only [Json.natural?] at h
    split_ifs at h
    cases h
    omega
  | _ => cases h

theorem sizeMember_settles {key : ByteString} {required : Bool} (hin : Inside root path s object)
    (hfield : ⟨key, required, .size⟩ ∈ s.fields)
    (hmissing : Json.find object key = none → required = true) :
    Settles (Faulty root) (fun _ => FieldFit object ⟨key, required, .size⟩)
      (sizeMember object key (renderPath path) true) := by
  refine (boundedMember_settles hin hfield hmissing ?_ ?_).mono ?_
  · intro value hfind htype
    exact hin.blames hfield hfind _ (.sizeType htype)
  · intro value n hfind hn hbad
    have hlt := natural?_lt hn
    obtain rfl : n = 0 := by omega
    exact hin.blames hfield hfind _ (.size hn)
  · rintro n ⟨value, hfind, hn, hpos, -⟩
    exact .of_find hfind ⟨n, hn, hpos⟩

/-- The rule is that of the durations, or lets them be null. -/
theorem millisecondsMember_settles {key : ByteString} {required : Bool} {rule : Rule}
    (hin : Inside root path s object) (hfield : ⟨key, required, rule⟩ ∈ s.fields)
    (hmissing : Json.find object key = none → required = true)
    (hunfit : ∀ value message, Json.find object key = some value →
      Rule.duration.Unfit value message → rule.Unfit value message)
    (hfit : ∀ value, Rule.duration.Fit value → rule.Fit value) :
    Settles (Faulty root) (fun _ => FieldFit object ⟨key, required, rule⟩)
      (millisecondsMember object key (renderPath path) true) := by
  refine (boundedMember_settles hin hfield hmissing ?_ ?_).bind ?_
  · intro value hfind htype
    exact hin.blames hfield hfind _ (hunfit value _ hfind (.durationType htype))
  · intro value n hfind hn hbad
    exact hin.blames hfield hfind _ (hunfit value _ hfind (.duration hn hbad))
  · rintro n ⟨value, hfind, hn, hpos, hle⟩
    exact .of_find hfind (hfit value ⟨n, hn, hpos, hle⟩)

theorem finiteNumberMember_settles {key : ByteString} (hin : Inside root path s object)
    (hfield : ⟨key, true, .number⟩ ∈ s.fields) :
    Settles (Faulty root) (fun _ => FieldFit object ⟨key, true, .number⟩)
      (finiteNumberMember object key (renderPath path)) := by
  refine (member_settles hin hfield fun _ => rfl).bind fun value hfind => ?_
  have hblames := hin.blames hfield hfind
  rw [← renderPath_field]
  refine (finiteNumber_settles (fun hnone => hblames _ (.number hnone)) ?_).mono ?_
  · exact fun d hd hinfinite => hblames _ (.notFinite hd hinfinite)
  · exact fun d hd => .of_find hfind ⟨d, hd⟩

/-- The number that an optional member gives, if it gives one. -/
def givenNumber (object : List (ByteString × Json)) (key : ByteString) : Option Double :=
  (Json.find object key).bind asNumber

theorem optionalNumberMember_settles {key : ByteString} (hin : Inside root path s object)
    (hfield : ⟨key, false, .numberOrNull⟩ ∈ s.fields) :
    Settles (Faulty root)
      (fun result => result = givenNumber object key ∧
        FieldFit object ⟨key, false, .numberOrNull⟩)
      (optionalNumberMember object key (renderPath path)) := by
  unfold optionalNumberMember givenNumber
  split
  · next hfind => exact ⟨by rw [hfind]; rfl, .of_absent hfind rfl⟩
  · next hfind => exact ⟨by rw [hfind]; rfl, .of_find hfind (.inl rfl)⟩
  · next value hnull hfind =>
    have hblames := hin.blames hfield hfind
    rw [← renderPath_field]
    refine (finiteNumber_settles (fun hnone => hblames _ (.numberOrNull hnull hnone)) ?_).bind ?_
    · exact fun d hd hinfinite => hblames _ (.notFiniteOrNull hd hinfinite)
    · rintro d ⟨hd, hfinite⟩
      refine ⟨?_, .of_find hfind (.inr ⟨d, hd, hfinite⟩)⟩
      rw [hfind]
      exact hd.symm

end MiniGateway
