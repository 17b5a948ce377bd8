/-
  The verdict of `parse_config` on a whole document.

  The sections follow the parser: a point, a device with its points, a group, a plugin, the
  document.  A list of named items (`Lists`) is the same argument four times: the loop goes over the
  items of an array and refuses one whose name an earlier item has.
-/
import MiniGateway.Config.Diagnostics

namespace MiniGateway

open Binary64 (Double)
open Throwing (Settles)

variable {root : Json} {path : List PathStep} {s : Section} {object : List (ByteString × Json)}
  {value : Json}

/-! ### Steps that the sections share -/

theorem Section.field_mem {s : Section} {field : Field} (index : ℕ)
    (h : s.fields[index]? = some field) : field ∈ s.fields :=
  List.mem_of_getElem? h

theorem section_settles (hat : SectionAt path s) (hvalue : root.locate path = some value) :
    Settles (Faulty root) (fun members => value = .object members ∧ Inside root path s members)
      (asObject value (renderPath path)) := by
  refine (asObject_settles fun message => .unfit (.whole hat) hvalue).mono ?_
  rintro members rfl
  exact ⟨rfl, hat, hvalue⟩

theorem Inside.texts_settles {key : ByteString} (hin : Inside root path s object)
    (hfield : ⟨key, true, .texts⟩ ∈ s.fields) (hfind : Json.find object key = some value) :
    Settles (Faulty root) (fun _ => FieldFit object ⟨key, true, .texts⟩)
      (stringMap value (fieldPath (renderPath path) key)) := by
  have hdemand : Demand (path ++ [PathStep.field key]) .texts := .field hin.section_at hfield
  have hvalue : root.locate (path ++ [PathStep.field key]) = some value := by
    rw [Json.locate_field hin.located, hfind]
  rw [← renderPath_field]
  refine (stringMap_settles (hin.blames hfield hfind) ?_).mono fun _ hfit => ?_
  · rintro members entry item rfl hmem hitem
    exact .entry hdemand hvalue hmem hitem
  · exact .of_find hfind hfit

/-! ### Lists of named items -/

/-- The array at the path has one item for each result, and no two results have one name. -/
structure Lists {α : Type} (root : Json) (path : List PathStep) (P : Json → α → Prop)
    (name : α → ByteString) (results : List α) : Prop where
  items : ∃ items, root.locate path = some (.array items) ∧ List.Forall₂ P items results
  nodup : (results.map name).Nodup

section Lists

variable {α : Type} {P : Json → α → Prop} {name : α → ByteString} {results : List α}
  {key : ByteString}

/-- The results are the items of the array, in order. -/
theorem Lists.at_index (h : Lists root path P name results) {index : ℕ}
    (hvalue : root.locate (path ++ [PathStep.item index]) = some value) :
    ∃ result, results[index]? = some result ∧ P value result := by
  obtain ⟨items, hitems, hresults⟩ := h.items
  rw [Json.locate_item hitems] at hvalue
  obtain ⟨hindex, hget⟩ := List.getElem?_eq_some_iff.mp hvalue
  have hlength := hresults.length_eq
  refine ⟨results[index], List.getElem?_eq_getElem _, ?_⟩
  have hP := (List.forall₂_iff_get.mp hresults).2 index hindex (by omega)
  rw [← hget]
  exact hP

theorem Lists.value_at (h : Lists root path P name results) {index : ℕ} {result : α}
    (hresult : results[index]? = some result) :
    ∃ value, root.locate (path ++ [PathStep.item index]) = some value ∧ P value result := by
  obtain ⟨items, hitems, hresults⟩ := h.items
  obtain ⟨hindex, hget⟩ := List.getElem?_eq_some_iff.mp hresult
  have hlength := hresults.length_eq
  refine ⟨items[index], ?_, ?_⟩
  · rw [Json.locate_item hitems]
    exact List.getElem?_eq_getElem _
  · have hP := (List.forall₂_iff_get.mp hresults).2 index (by omega) hindex
    rw [← hget]
    exact hP

/-- The names that the document gives are those of the results. -/
theorem Lists.locate_name (h : Lists root path P name results)
    (hname : ∀ item result, P item result →
      item.child (.field key) = some (.string (name result)))
    {index : ℕ} {text : ByteString} :
    root.locate (path ++ [PathStep.item index] ++ [PathStep.field key]) = some (.string text) ↔
      ∃ result, results[index]? = some result ∧ name result = text := by
  rw [Json.locate_append]
  constructor
  · intro htext
    obtain ⟨value, hvalue, hchild⟩ := Option.bind_eq_some_iff.mp htext
    obtain ⟨result, hresult, hP⟩ := h.at_index hvalue
    rw [hname value result hP] at hchild
    exact ⟨result, hresult, by simpa using hchild⟩
  · rintro ⟨result, hresult, rfl⟩
    obtain ⟨value, hvalue, hP⟩ := h.value_at hresult
    rw [hvalue]
    exact hname value result hP

/-- No name is given twice. -/
theorem Lists.not_twice (h : Lists root path P name results)
    (hname : ∀ item result, P item result →
      item.child (.field key) = some (.string (name result)))
    {first second : ℕ} {text : ByteString} (hlt : first < second)
    (hfirst : root.locate (path ++ [PathStep.item first] ++ [PathStep.field key]) =
      some (.string text))
    (hsecond : root.locate (path ++ [PathStep.item second] ++ [PathStep.field key]) =
      some (.string text)) :
    False := by
  obtain ⟨a, ha, hatext⟩ := (h.locate_name hname).mp hfirst
  obtain ⟨b, hb, hbtext⟩ := (h.locate_name hname).mp hsecond
  obtain ⟨hfirstlt, rfl⟩ := List.getElem?_eq_some_iff.mp ha
  obtain ⟨hsecondlt, rfl⟩ := List.getElem?_eq_some_iff.mp hb
  have hindex : first = second := by
    refine (List.getElem?_inj (by simpa using hfirstlt) h.nodup).mp ?_
    rw [List.getElem?_map, List.getElem?_map, ha, hb]
    simp [hatext, hbtext]
  omega

/-- The loop over an array that names its items. -/
theorem settles_lists {label : ByteString} {items : List Json}
    {f : ℕ → List ByteString → Json → Except ByteString α} (hnamed : Named path key label)
    (hitems : root.locate path = some (.array items))
    (hname : ∀ item result, P item result →
      item.child (.field key) = some (.string (name result)))
    (hround : ∀ index seen item, root.locate (path ++ [PathStep.item index]) = some item →
      (∀ text ∈ seen,
        root.locate (path ++ [PathStep.item index] ++ [PathStep.field key]) = some (.string text) →
        Fault root (path ++ [PathStep.item index] ++ [PathStep.field key])
          (label ++ text ++ lit "'")) →
      Settles (Faulty root) (fun result => P item result ∧ name result ∉ seen)
        (f index seen item)) :
    Settles (Faulty root) (Lists root path P name) (Throwing.collect name f 0 [] items) := by
  refine (Settles.collect (P := P) fun index seen item hitem hseen => ?_).mono ?_
  · have hlocated : root.locate (path ++ [PathStep.item index]) = some item := by
      rw [Json.locate_item hitems, hitem]
    refine hround index seen item hlocated fun text htext hsecond => ?_
    obtain ⟨earlier, hlt, item', hitem', result', hP, rfl⟩ := hseen text htext
    refine .duplicate hnamed hlt ?_ hsecond
    rw [Json.locate_append, Json.locate_item hitems, hitem']
    exact hname item' result' hP
  · rintro results ⟨hresults, hnodup⟩
    exact ⟨⟨items, hitems, hresults⟩, hnodup⟩

end Lists

/-! ### Points -/

/-- The item is a point of the document and was read as `point`. -/
def PointFit (item : Json) (point : PointConfig) : Prop :=
  ∃ object, item = .object object ∧ SectionFit .point object ∧
    Json.find object (lit "name") = some (.string point.name) ∧
    invertedRange (givenNumber object (lit "minimum")) (givenNumber object (lit "maximum")) = false

theorem Inside.inverted (hin : Inside root path .point object)
    (h : invertedRange (givenNumber object (lit "minimum"))
      (givenNumber object (lit "maximum")) = true) :
    Fault root path (lit "minimum must not exceed maximum") := by
  unfold givenNumber invertedRange at h
  split at h
  · next low high hlow hhigh =>
    obtain ⟨minimum, hminimum, hlow⟩ := Option.bind_eq_some_iff.mp hlow
    obtain ⟨maximum, hmaximum, hhigh⟩ := Option.bind_eq_some_iff.mp hhigh
    refine .inverted hin.section_at ?_ ?_ hlow hhigh h
    · rw [Json.locate_field hin.located, hminimum]
    · rw [Json.locate_field hin.located, hmaximum]
  · cases h

theorem parsePoint_settles (hat : SectionAt path .point)
    (hvalue : root.locate path = some value) :
    Settles (Faulty root) (PointFit value) (parsePoint value (renderPath path)) := by
  have htypefield : ⟨lit "type", true, .valueType⟩ ∈ Section.point.fields :=
    Section.field_mem 1 rfl
  have haddressfield : ⟨lit "address", true, .texts⟩ ∈ Section.point.fields :=
    Section.field_mem 3 rfl
  unfold parsePoint
  refine (section_settles hat hvalue).bind ?_
  rintro object ⟨rfl, hin⟩
  refine (stringMember_settles hin (Section.field_mem 0 rfl)).bind ?_
  rintro name ⟨hname, hnamefit⟩
  refine (member_settles hin htypefield fun _ => rfl).bind fun type htype => ?_
  rw [← renderPath_field]
  refine (valueType_settles (hin.blames htypefield htype)).bind fun _ htypefit => ?_
  refine (stringMember_settles hin (Section.field_mem 2 rfl)).bind fun unit hunit => ?_
  refine (member_settles hin haddressfield fun _ => rfl).bind fun address haddress => ?_
  refine (hin.texts_settles haddressfield haddress).bind fun _ haddressfit => ?_
  refine (finiteNumberMember_settles hin (Section.field_mem 4 rfl)).bind fun scale hscale => ?_
  refine (finiteNumberMember_settles hin (Section.field_mem 5 rfl)).bind fun offset hoffset => ?_
  refine (optionalNumberMember_settles hin (Section.field_mem 6 rfl)).bind ?_
  rintro minimum ⟨rfl, hminimum⟩
  refine (optionalNumberMember_settles hin (Section.field_mem 7 rfl)).bind ?_
  rintro maximum ⟨rfl, hmaximum⟩
  split_ifs with hinverted
  · exact settles_fail (hin.inverted hinverted)
  · refine ⟨object, rfl, ?_, hname, by simpa using hinverted⟩
    simp only [SectionFit, Section.fields, List.forall_mem_cons]
    exact ⟨hnamefit, .of_find htype htypefit, hunit.2, haddressfit, hscale, hoffset, hminimum,
      hmaximum, List.forall_mem_nil _⟩

theorem parsePoints_eq_collect (text : ByteString) (index : ℕ) (names : List ByteString)
    (items : List Json) :
    parsePoints text index names items =
      Throwing.collect PointConfig.name
        (fun index seen value => do
          let point ← parsePoint value (itemPath (fieldPath text (lit "points")) index)
          if point.name ∈ seen then
            fail (fieldPath (itemPath (fieldPath text (lit "points")) index) (lit "name"))
              (lit "duplicate point '" ++ point.name ++ lit "'")
          else .ok point)
        index names items := by
  induction items generalizing index names with
  | nil => rfl
  | cons value rest ih =>
    unfold parsePoints Throwing.collect
    rw [bind_assoc]
    dsimp only
    congr 1
    funext point
    split_ifs with hseen
    · rfl
    · rw [ih]
      rfl

theorem PointFit.child (item : Json) (point : PointConfig) (h : PointFit item point) :
    item.child (.field (lit "name")) = some (.string (PointConfig.name point)) := by
  obtain ⟨object, rfl, -, hname, -⟩ := h
  exact hname

theorem parsePoints_settles {device : ℕ} {items : List Json}
    (hitems : root.locate (devicePath device ++ [PathStep.field (lit "points")]) =
      some (.array items)) :
    Settles (Faulty root)
      (Lists root (devicePath device ++ [PathStep.field (lit "points")]) PointFit PointConfig.name)
      (parsePoints (renderPath (devicePath device)) 0 [] items) := by
  rw [parsePoints_eq_collect]
  refine settles_lists (.points device) hitems PointFit.child ?_
  intro index seen item hitem hduplicate
  rw [← renderPath_field, ← renderPath_item]
  refine (parsePoint_settles (.point device index) hitem).bind fun point hpoint => ?_
  rw [← renderPath_field]
  split_ifs with hseen
  · refine settles_fail (hduplicate point.name hseen ?_)
    rw [Json.locate_append, hitem]
    exact PointFit.child item point hpoint
  · exact ⟨hpoint, hseen⟩

/-! ### Devices -/

/-- The item is a device of the document and was read as `device`. -/
def DeviceFit (item : Json) (device : DeviceConfig) : Prop :=
  ∃ object items, item = .object object ∧ SectionFit .device object ∧
    Json.find object (lit "id") = some (.string device.id) ∧
    Json.find object (lit "points") = some (.array items) ∧
    List.Forall₂ PointFit items device.points ∧ (device.points.map PointConfig.name).Nodup

theorem DeviceFit.child (item : Json) (device : DeviceConfig) (h : DeviceFit item device) :
    item.child (.field (lit "id")) = some (.string (DeviceConfig.id device)) := by
  obtain ⟨object, items, rfl, -, hid, -⟩ := h
  exact hid

theorem DeviceFit.points {index : ℕ} {item : Json} {device : DeviceConfig}
    (h : DeviceFit item device) (hitem : root.locate (devicePath index) = some item) :
    Lists root (devicePath index ++ [PathStep.field (lit "points")]) PointFit PointConfig.name
      device.points := by
  obtain ⟨object, items, rfl, -, -, hfind, hpoints, hnodup⟩ := h
  refine ⟨⟨items, ?_, hpoints⟩, hnodup⟩
  rw [Json.locate_field hitem, hfind]

/-- An array that must have items, once it is known to be an array. -/
theorem Inside.items_settles {key : ByteString} {items : List Json} {α : Type} {P : α → Prop}
    {x : Except ByteString α} (hin : Inside root path s object)
    (hfield : ⟨key, true, .items⟩ ∈ s.fields)
    (hfind : Json.find object key = some (.array items))
    (hx : FieldFit object ⟨key, true, .items⟩ → Settles (Faulty root) P x) :
    Settles (Faulty root) P
      (if items.isEmpty then fail (fieldPath (renderPath path) key) (lit "must not be empty")
        else x) := by
  split_ifs with hempty
  · obtain rfl : items = [] := by simpa using hempty
    rw [← renderPath_field]
    exact settles_fail (hin.blames hfield hfind _ .noItems)
  · exact hx (.of_find hfind ⟨items, rfl, by simpa using hempty⟩)

theorem parseDevice_settles {json : JsonLibrary} {index : ℕ} {ids : List ByteString}
    (hvalue : root.locate (devicePath index) = some value)
    (hduplicate : ∀ id ∈ ids,
      root.locate (devicePath index ++ [PathStep.field (lit "id")]) = some (.string id) →
      Fault root (devicePath index ++ [PathStep.field (lit "id")])
        (lit "duplicate device id '" ++ id ++ lit "'")) :
    Settles (Faulty root) (fun device => DeviceFit value device ∧ device.id ∉ ids)
      (parseDevice json (renderPath (devicePath index)) ids value) := by
  have hconnectionfield : ⟨lit "connection", true, .texts⟩ ∈ Section.device.fields :=
    Section.field_mem 4 rfl
  have hpointsfield : ⟨lit "points", true, .items⟩ ∈ Section.device.fields :=
    Section.field_mem 5 rfl
  unfold parseDevice
  refine (section_settles (.device index) hvalue).bind ?_
  rintro object ⟨rfl, hin⟩
  refine (stringMember_settles hin (Section.field_mem 0 rfl)).bind ?_
  rintro id ⟨hid, hidfit⟩
  split_ifs with hseen
  · rw [← renderPath_field]
    refine settles_fail (hduplicate id hseen ?_)
    rw [Json.locate_field hvalue, hid]
  refine (stringMember_settles hin (Section.field_mem 1 rfl)).bind fun driver hdriver => ?_
  refine (objectMember_settles hin (Section.field_mem 2 rfl)).bind fun settings hsettings => ?_
  refine (optionalPathMember_settles hin (Section.field_mem 3 rfl)).bind fun library hlibrary => ?_
  refine (member_settles hin hconnectionfield fun _ => rfl).bind fun value hconnection => ?_
  refine (hin.texts_settles hconnectionfield hconnection).bind fun connection hconnectionfit => ?_
  refine (arrayMember_settles hin hpointsfield (fun _ => rfl) fun _ => .items).bind
    fun items hitems => ?_
  refine hin.items_settles hpointsfield hitems fun hitemsfit => ?_
  have hlocated : root.locate (devicePath index ++ [PathStep.field (lit "points")]) =
      some (.array items) := by
    rw [Json.locate_field hvalue, hitems]
  refine (parsePoints_settles hlocated).bind fun points hpoints => ?_
  obtain ⟨items', hitems', hforall⟩ := hpoints.items
  obtain rfl : items = items' := by simpa [hlocated] using hitems'
  refine ⟨⟨object, items, rfl, ?_, hid, hitems, hforall, hpoints.nodup⟩, hseen⟩
  simp only [SectionFit, Section.fields, List.forall_mem_cons]
  exact ⟨hidfit, hdriver.2, hsettings.2, hlibrary, hconnectionfit, hitemsfit,
    List.forall_mem_nil _⟩

theorem parseDeviceItems_eq_collect (json : JsonLibrary) (index : ℕ) (ids : List ByteString)
    (items : List Json) :
    parseDeviceItems json index ids items =
      Throwing.collect DeviceConfig.id
        (fun index => parseDevice json (itemPath (lit "root.devices") index)) index ids items := by
  induction items generalizing index ids with
  | nil => rfl
  | cons value rest ih =>
    unfold parseDeviceItems Throwing.collect
    simp only [ih]

theorem renderPath_devicePath (index : ℕ) :
    renderPath (devicePath index) = itemPath (lit "root.devices") index := by
  have hroot : fieldPath (lit "root") (lit "devices") = lit "root.devices" := by decide
  rw [← hroot]
  rfl

theorem parseDevices_settles {json : JsonLibrary} (hin : Inside root [] .document object) :
    Settles (Faulty root)
      (fun devices => Lists root [.field (lit "devices")] DeviceFit DeviceConfig.id devices ∧
        FieldFit object ⟨lit "devices", true, .items⟩)
      (parseDevices json object) := by
  have hfield : ⟨lit "devices", true, .items⟩ ∈ Section.document.fields := Section.field_mem 1 rfl
  have hroot : fieldPath (lit "root") (lit "devices") = lit "root.devices" := by decide
  unfold parseDevices
  refine (arrayMember_settles hin hfield (fun _ => rfl) fun _ => .items).bind
    fun items hitems => ?_
  rw [← hroot]
  refine hin.items_settles hfield hitems fun hitemsfit => ?_
  have hlocated : root.locate [PathStep.field (lit "devices")] = some (.array items) := by
    rw [← hitems]
    exact Json.locate_field hin.located _
  rw [parseDeviceItems_eq_collect]
  refine (settles_lists .devices hlocated DeviceFit.child ?_).mono ?_
  · intro index seen item hitem hduplicate
    rw [← renderPath_devicePath]
    exact parseDevice_settles hitem hduplicate
  · exact fun devices hdevices => ⟨hdevices, hitemsfit⟩

/-! ### Groups -/

/-- The item is a group of the document and was read as `group`. -/
def GroupFit (devices : List DeviceConfig) (item : Json) (group : CollectionGroup) : Prop :=
  ∃ object, item = .object object ∧ SectionFit .group object ∧
    Json.find object (lit "id") = some (.string group.id) ∧
    ∃ device ∈ devices, Json.find object (lit "device_id") = some (.string device.id) ∧
      Json.find object (lit "points") = some (.array (group.points.map .string)) ∧
      ∀ point ∈ group.points, point ∈ device.points.map PointConfig.name

theorem GroupFit.child (devices : List DeviceConfig) (item : Json) (group : CollectionGroup)
    (h : GroupFit devices item group) :
    item.child (.field (lit "id")) = some (.string (CollectionGroup.id group)) := by
  obtain ⟨object, rfl, -, hid, -⟩ := h
  exact hid

theorem checkGroupPoints_settles {text : ByteString} {device : DeviceConfig}
    {points : List ByteString} (htext : text = renderPath path)
    (h : ∀ point ∈ points, point ∉ device.points.map PointConfig.name →
      Fault root (path ++ [PathStep.field (lit "points")])
        (lit "references unknown point '" ++ point ++ lit "'")) :
    Settles (Faulty root) (fun _ => ∀ point ∈ points, point ∈ device.points.map PointConfig.name)
      (checkGroupPoints text device points) := by
  subst htext
  induction points with
  | nil => exact fun point hmem => absurd hmem List.not_mem_nil
  | cons point rest ih =>
    unfold checkGroupPoints
    split_ifs with hknown
    · refine (ih fun other hmem => h other (List.mem_cons_of_mem _ hmem)).mono fun _ hrest => ?_
      exact List.forall_mem_cons.mpr ⟨hknown, hrest⟩
    · rw [← renderPath_field]
      exact settles_fail (h point List.mem_cons_self hknown)

/-- The value of a field of names is read as its names. -/
theorem Inside.names_settles {key : ByteString} (hin : Inside root path s object)
    (hfield : ⟨key, true, .names⟩ ∈ s.fields)
    (hitem : ∀ index, Demand (path ++ [PathStep.field key] ++ [PathStep.item index]) (.text false))
    (hfind : Json.find object key = some value) :
    Settles (Faulty root)
      (fun names => value = .array (names.map .string) ∧ FieldFit object ⟨key, true, .names⟩)
      (stringArray value (fieldPath (renderPath path) key) true) := by
  have hvalue : root.locate (path ++ [PathStep.field key]) = some value := by
    rw [Json.locate_field hin.located, hfind]
  rw [← renderPath_field]
  refine (stringArray_settles (hin.blames hfield hfind) ?_ ?_).mono ?_
  · rintro items index item rfl hget message hunfit
    refine .unfit (hitem index) ?_ hunfit
    rw [Json.locate_item hvalue, hget]
  · rintro items first second text rfl hlt hfirst hsecond
    rw [← Json.locate_item hvalue] at hfirst hsecond
    exact .repeated (.field hin.section_at hfield) hlt hfirst hsecond
  · rintro names ⟨rfl, hne, hempty, hnodup⟩
    exact ⟨rfl, .of_find hfind ⟨names, rfl, hne, hempty, hnodup⟩⟩

theorem parseGroup_settles {devices : List DeviceConfig} {index : ℕ} {ids : List ByteString}
    (hdevices : Lists root [.field (lit "devices")] DeviceFit DeviceConfig.id devices)
    (hvalue : root.locate [PathStep.field (lit "groups"), .item index] = some value)
    (hduplicate : ∀ id ∈ ids,
      root.locate ([PathStep.field (lit "groups"), .item index] ++ [PathStep.field (lit "id")]) =
        some (.string id) →
      Fault root ([PathStep.field (lit "groups"), .item index] ++ [PathStep.field (lit "id")])
        (lit "duplicate group id '" ++ id ++ lit "'")) :
    Settles (Faulty root) (fun group => GroupFit devices value group ∧ group.id ∉ ids)
      (parseGroup devices (renderPath [PathStep.field (lit "groups"), .item index]) ids value) := by
  have hat : SectionAt [.field (lit "groups"), .item index] .group := .group index
  have hpointsfield : ⟨lit "points", true, .names⟩ ∈ Section.group.fields :=
    Section.field_mem 4 rfl
  unfold parseGroup
  refine (section_settles hat hvalue).bind ?_
  rintro object ⟨rfl, hin⟩
  refine (stringMember_settles hin (Section.field_mem 0 rfl)).bind ?_
  rintro id ⟨hid, hidfit⟩
  split_ifs with hseen
  · rw [← renderPath_field]
    refine settles_fail (hduplicate id hseen ?_)
    rw [Json.locate_field hvalue, hid]
  refine (stringMember_settles hin (Section.field_mem 1 rfl)).bind ?_
  rintro deviceId ⟨hdeviceId, hdevicefit⟩
  refine (millisecondsMember_settles hin (Section.field_mem 2 rfl) (fun _ => rfl)
    (fun _ _ _ h => h) fun _ h => h).bind fun interval hinterval => ?_
  refine (millisecondsMember_settles hin (Section.field_mem 3 rfl) (fun _ => rfl)
    (fun _ _ _ h => h) fun _ h => h).bind fun timeout htimeout => ?_
  refine (member_settles hin hpointsfield fun _ => rfl).bind fun value hpoints => ?_
  refine (hin.names_settles hpointsfield (fun index => .name index hat) hpoints).bind ?_
  rintro points ⟨rfl, hpointsfit⟩
  have hlocated : Json.locate root ([PathStep.field (lit "groups"), .item index] ++
      [PathStep.field (lit "device_id")]) = some (.string deviceId) := by
    rw [Json.locate_field hvalue, hdeviceId]
  split
  · next hunknown =>
    rw [← renderPath_field]
    refine settles_fail (.unknownDevice hat hlocated fun device hdevice => ?_)
    obtain ⟨found, hfound, hfoundid⟩ := (hdevices.locate_name DeviceFit.child).mp hdevice
    have hnot := List.find?_eq_none.mp hunknown found (List.mem_of_getElem? hfound)
    exact hnot (by simpa using hfoundid)
  · next device hdevice =>
    have hmem : device ∈ devices := List.mem_of_find?_eq_some hdevice
    obtain rfl : device.id = deviceId := by simpa using List.find?_some hdevice
    obtain ⟨position, hposition⟩ := List.getElem?_of_mem hmem
    obtain ⟨item, hitem, hfit⟩ := hdevices.value_at hposition
    have hlisted := hfit.points hitem
    refine (checkGroupPoints_settles rfl fun point hpoint hunknown => ?_).bind fun _ hknown => ?_
    · obtain ⟨number, hnumber⟩ := List.getElem?_of_mem hpoint
      have hname : root.locate ([PathStep.field (lit "groups"), .item index] ++
          [PathStep.field (lit "points")] ++ [PathStep.item number]) = some (.string point) := by
        rw [Json.locate_append, Json.locate_field hvalue, hpoints]
        simp [Json.child, hnumber]
      have howner := (hdevices.locate_name DeviceFit.child).mpr ⟨device, hposition, rfl⟩
      refine .unknownPoint hat hlocated howner hname fun other hother => ?_
      obtain ⟨found, hfound, rfl⟩ := (hlisted.locate_name PointFit.child).mp hother
      exact hunknown (List.mem_map_of_mem (List.mem_of_getElem? hfound))
    · refine ⟨⟨object, rfl, ?_, hid, device, hmem, hdeviceId, hpoints, hknown⟩, hseen⟩
      simp only [SectionFit, Section.fields, List.forall_mem_cons]
      exact ⟨hidfit, hdevicefit, hinterval, htimeout, hpointsfit, List.forall_mem_nil _⟩

theorem parseGroupItems_eq_collect (devices : List DeviceConfig) (index : ℕ)
    (ids : List ByteString) (items : List Json) :
    parseGroupItems devices index ids items =
      Throwing.collect CollectionGroup.id
        (fun index => parseGroup devices (itemPath (lit "root.groups") index)) index ids items := by
  induction items generalizing index ids with
  | nil => rfl
  | cons value rest ih =>
    unfold parseGroupItems Throwing.collect
    simp only [ih]

theorem parseGroups_settles {devices : List DeviceConfig}
    (hin : Inside root [] .document object)
    (hdevices : Lists root [.field (lit "devices")] DeviceFit DeviceConfig.id devices) :
    Settles (Faulty root)
      (fun groups => Lists root [.field (lit "groups")] (GroupFit devices) CollectionGroup.id
          groups ∧
        FieldFit object ⟨lit "groups", true, .array⟩)
      (parseGroups object devices) := by
  have hfield : ⟨lit "groups", true, .array⟩ ∈ Section.document.fields := Section.field_mem 2 rfl
  have hroot : fieldPath (lit "root") (lit "groups") = lit "root.groups" := by decide
  unfold parseGroups
  refine (arrayMember_settles hin hfield (fun _ => rfl) fun _ => .array).bind
    fun items hitems => ?_
  have hlocated : root.locate [PathStep.field (lit "groups")] = some (.array items) := by
    rw [← hitems]
    exact Json.locate_field hin.located _
  rw [parseGroupItems_eq_collect, ← hroot]
  refine (settles_lists .groups hlocated (GroupFit.child devices) ?_).mono ?_
  · intro index seen item hitem hduplicate
    exact parseGroup_settles hdevices hitem hduplicate
  · exact fun groups hgroups => ⟨hgroups, .of_find hitems ⟨items, rfl⟩⟩

/-! ### Plugins -/

/-- The item is a plugin of the document and was read as `plugin`. -/
def PluginFit (item : Json) (plugin : PluginConfig) : Prop :=
  ∃ object, item = .object object ∧ SectionFit .plugin object ∧
    Json.find object (lit "id") = some (.string plugin.id)

theorem PluginFit.child (item : Json) (plugin : PluginConfig) (h : PluginFit item plugin) :
    item.child (.field (lit "id")) = some (.string (PluginConfig.id plugin)) := by
  obtain ⟨object, rfl, -, hid⟩ := h
  exact hid

theorem parsePlugin_settles {json : JsonLibrary} {key : ByteString} {index : ℕ}
    {ids : List ByteString} (hkey : key ∈ pluginKeys)
    (hvalue : root.locate [PathStep.field key, .item index] = some value)
    (hduplicate : ∀ id ∈ ids,
      root.locate ([PathStep.field key, .item index] ++ [PathStep.field (lit "id")]) =
        some (.string id) →
      Fault root ([PathStep.field key, .item index] ++ [PathStep.field (lit "id")])
        (lit "duplicate plugin id '" ++ id ++ lit "'")) :
    Settles (Faulty root) (fun plugin => PluginFit value plugin ∧ plugin.id ∉ ids)
      (parsePlugin json (renderPath [PathStep.field key, .item index]) ids value) := by
  unfold parsePlugin
  refine (section_settles (.plugin index hkey) hvalue).bind ?_
  rintro object ⟨rfl, hin⟩
  refine (stringMember_settles hin (Section.field_mem 0 rfl)).bind ?_
  rintro id ⟨hid, hidfit⟩
  refine (stringMember_settles hin (Section.field_mem 1 rfl)).bind fun type htype => ?_
  refine (optionalEnabled_settles hin (Section.field_mem 2 rfl)).bind fun enabled henabled => ?_
  refine (objectMember_settles hin (Section.field_mem 3 rfl)).bind fun settings hsettings => ?_
  refine (optionalPathMember_settles hin (Section.field_mem 4 rfl)).bind fun library hlibrary => ?_
  split_ifs with hseen
  · rw [← renderPath_field]
    refine settles_fail (hduplicate id hseen ?_)
    rw [Json.locate_field hvalue, hid]
  · refine ⟨⟨object, rfl, ?_, hid⟩, hseen⟩
    simp only [SectionFit, Section.fields, List.forall_mem_cons]
    exact ⟨hidfit, htype.2, henabled, hsettings.2, hlibrary, List.forall_mem_nil _⟩

theorem parsePluginItems_eq_collect (json : JsonLibrary) (text : ByteString) (index : ℕ)
    (ids : List ByteString) (items : List Json) :
    parsePluginItems json text index ids items =
      Throwing.collect PluginConfig.id (fun index => parsePlugin json (itemPath text index))
        index ids items := by
  induction items generalizing index ids with
  | nil => rfl
  | cons value rest ih =>
    unfold parsePluginItems Throwing.collect
    simp only [ih]

/-- The plugins that the document lists under the key, if it has the key. -/
def PluginsFit (root : Json) (object : List (ByteString × Json)) (key : ByteString)
    (required : Bool) : Prop :=
  FieldFit object ⟨key, required, .array⟩ ∧
    (Json.find object key = none ∨
      ∃ plugins, Lists root [.field key] PluginFit PluginConfig.id plugins)

theorem parsePlugins_settles {json : JsonLibrary} {key : ByteString} {optional : Bool}
    (hin : Inside root [] .document object) (hkey : key ∈ pluginKeys)
    (hfield : ⟨key, !optional, .array⟩ ∈ Section.document.fields) :
    Settles (Faulty root) (fun _ => PluginsFit root object key !optional)
      (parsePlugins json object key optional) := by
  unfold parsePlugins
  split_ifs with habsent
  · obtain ⟨rfl, hnone⟩ : optional = true ∧ Json.find object key = none := by
      simpa using habsent
    exact ⟨.of_absent hnone rfl, .inl hnone⟩
  have hmissing : Json.find object key = none → (!optional) = true := by
    intro hnone
    simpa [hnone] using habsent
  refine (arrayMember_settles hin hfield hmissing fun _ => .array).bind fun items hitems => ?_
  have hlocated : root.locate [PathStep.field key] = some (.array items) := by
    rw [← hitems]
    exact Json.locate_field hin.located _
  rw [parsePluginItems_eq_collect]
  refine (settles_lists (.plugins hkey) hlocated PluginFit.child ?_).mono ?_
  · intro index seen item hitem hduplicate
    exact parsePlugin_settles hkey hitem hduplicate
  · exact fun plugins hplugins => ⟨.of_find hitems ⟨items, rfl⟩, .inr ⟨plugins, hplugins⟩⟩

/-! ### The document -/

/-- The document was read as `gateway`, and the parser found nothing wrong with it. -/
structure DocumentFit (root : Json) (gateway : GatewayConfig) : Prop where
  document : ∃ object, root = .object object ∧ SectionFit .document object
  runtime : ∃ object, root.locate [PathStep.field (lit "runtime")] = some (.object object) ∧
    SectionFit .runtime object
  devices : Lists root [.field (lit "devices")] DeviceFit DeviceConfig.id gateway.devices
  groups : Lists root [.field (lit "groups")] (GroupFit gateway.devices) CollectionGroup.id
    gateway.groups
  plugins : ∀ key ∈ pluginKeys, root.locate [PathStep.field key] = none ∨
    ∃ plugins, Lists root [.field key] PluginFit PluginConfig.id plugins

theorem parseRunDuration_settles (hin : Inside root path .runtime object)
    (hpath : path = [.field (lit "runtime")]) :
    Settles (Faulty root)
      (fun _ => FieldFit object ⟨lit "run_duration_ms", false, .nullable .duration⟩)
      (parseRunDuration object) := by
  unfold parseRunDuration
  split
  · next hfind => exact .of_absent hfind rfl
  · next hfind => exact .of_find hfind (.inl rfl)
  · next value hnull hfind =>
    have hroot : lit "root.runtime" = renderPath path := by
      subst hpath
      decide
    rw [hroot]
    refine (millisecondsMember_settles hin (Section.field_mem 0 rfl) ?_ ?_ ?_).bind ?_
    · intro hnone
      rw [hfind] at hnone
      cases hnone
    · intro other message hother hunfit
      obtain rfl : value = other := by simpa [hfind] using hother
      exact .nullable hnull hunfit
    · exact fun _ h => .inr h
    · exact fun _ h => h

theorem parseControlCapacity_settles (hin : Inside root path .runtime object)
    (hpath : path = [.field (lit "runtime")]) :
    Settles (Faulty root) (fun _ => FieldFit object ⟨lit "control_queue_capacity", false, .size⟩)
      (parseControlCapacity object) := by
  unfold parseControlCapacity
  split
  · next hfind => exact .of_absent hfind rfl
  · next value hfind =>
    have hroot : lit "root.runtime" = renderPath path := by
      subst hpath
      decide
    rw [hroot]
    refine sizeMember_settles hin (Section.field_mem 2 rfl) fun hnone => ?_
    rw [hfind] at hnone
    cases hnone

/-- The whole parser: the document is fit, or the error is one of its faults. -/
theorem parseApplicationConfig_settles (json : JsonLibrary) (root : Json) :
    Settles (Faulty root)
      (fun config => DocumentFit root config.gateway)
      (parseApplicationConfig json root) := by
  have hroot : lit "root.runtime" = renderPath [PathStep.field (lit "runtime")] := by decide
  have hruntimefield : ⟨lit "raw_queue_capacity", true, .size⟩ ∈ Section.runtime.fields :=
    Section.field_mem 1 rfl
  unfold parseApplicationConfig
  refine (section_settles .document (Json.locate_nil root)).bind ?_
  rintro object ⟨hobject, hin⟩
  refine (objectMember_settles hin (Section.field_mem 0 rfl)).bind ?_
  rintro runtime ⟨hruntime, hruntimefit⟩
  have hlocated : root.locate [PathStep.field (lit "runtime")] = some (.object runtime) := by
    rw [← hruntime]
    exact Json.locate_field hin.located _
  have hinside : Inside root [.field (lit "runtime")] .runtime runtime := ⟨.runtime, hlocated⟩
  refine (parseRunDuration_settles hinside rfl).bind fun duration hduration => ?_
  rw [hroot]
  refine (sizeMember_settles hinside hruntimefield fun _ => rfl).bind fun raw hraw => ?_
  refine (parseControlCapacity_settles hinside rfl).bind fun capacity hcapacity => ?_
  refine (parseDevices_settles hin).bind ?_
  rintro devices ⟨hdevices, hdevicesfit⟩
  refine (parseGroups_settles hin hdevices).bind ?_
  rintro groups ⟨hgroups, hgroupsfit⟩
  refine (parsePlugins_settles hin (by simp [pluginKeys]) (Section.field_mem 3 rfl)).bind
    fun processors hprocessors => ?_
  refine (parsePlugins_settles hin (by simp [pluginKeys]) (Section.field_mem 4 rfl)).bind
    fun publishers hpublishers => ?_
  refine (parsePlugins_settles hin (by simp [pluginKeys]) (Section.field_mem 5 rfl)).bind
    fun sources hsources => ?_
  refine ⟨⟨object, hobject, ?_⟩, ⟨runtime, hlocated, ?_⟩, hdevices, hgroups, ?_⟩
  · simp only [SectionFit, Section.fields, List.forall_mem_cons]
    exact ⟨hruntimefit, hdevicesfit, hgroupsfit, hprocessors.1, hpublishers.1, hsources.1,
      List.forall_mem_nil _⟩
  · simp only [SectionFit, Section.fields, List.forall_mem_cons]
    exact ⟨hduration, hraw, hcapacity, List.forall_mem_nil _⟩
  · simp only [pluginKeys, List.forall_mem_cons]
    have hfind : ∀ key, root.locate [PathStep.field key] = Json.find object key :=
      fun key => Json.locate_field hin.located key
    simp only [hfind]
    exact ⟨hprocessors.2, hpublishers.2, hsources.2, List.forall_mem_nil _⟩

/-! ### Fit documents have no faults -/

/-- A value that meets a rule does not break it. -/
theorem Rule.Fit.not_unfit {rule : Rule} {message : ByteString} (hfit : rule.Fit value) :
    ¬rule.Unfit value message := by
  intro hunfit
  induction hunfit with
  | object h =>
    obtain ⟨members, rfl⟩ := hfit
    exact h members rfl
  | array h =>
    obtain ⟨items, rfl⟩ := hfit
    exact h items rfl
  | items h =>
    obtain ⟨items, rfl, -⟩ := hfit
    exact h items rfl
  | noItems =>
    obtain ⟨items, heq, hne⟩ := hfit
    cases heq
    exact hne rfl
  | names h =>
    obtain ⟨names, rfl, hne, -⟩ := hfit
    exact hne (by simpa using h _ rfl)
  | text h =>
    obtain ⟨text, rfl, -⟩ := hfit
    exact h text rfl
  | noText =>
    obtain ⟨text, heq, hallow⟩ := hfit
    cases heq
    cases hallow rfl
  | boolean h =>
    obtain ⟨flag, rfl⟩ := hfit
    exact h flag rfl
  | sizeType h | durationType h =>
    obtain ⟨n, hn, -⟩ := hfit
    rw [h] at hn
    cases hn
  | size h =>
    obtain ⟨n, hn, hpos⟩ := hfit
    rw [h] at hn
    cases hn
    exact absurd hpos (lt_irrefl 0)
  | duration h hbad =>
    obtain ⟨n, hn, hpos, hle⟩ := hfit
    rw [h] at hn
    cases hn
    omega
  | number h =>
    obtain ⟨d, hd, -⟩ := hfit
    rw [h] at hd
    cases hd
  | notFinite h hinfinite =>
    obtain ⟨d, hd, hfinite⟩ := hfit
    rw [h] at hd
    cases hd
    rw [hinfinite] at hfinite
    cases hfinite
  | numberOrNull hnull h =>
    obtain hfit | ⟨d, hd, -⟩ := hfit
    · exact hnull hfit
    · rw [h] at hd
      cases hd
  | notFiniteOrNull h hinfinite =>
    obtain rfl | ⟨d, hd, hfinite⟩ := hfit
    · cases h
    · rw [h] at hd
      cases hd
      rw [hinfinite] at hfinite
      cases hfinite
  | texts h =>
    obtain ⟨members, rfl, -⟩ := hfit
    exact h members rfl
  | valueTypeText h ih =>
    obtain ⟨name, rfl, hname⟩ := hfit
    refine ih ⟨name, rfl, ?_⟩
    rintro rfl
    exact absurd hname (by decide)
  | valueType h =>
    obtain ⟨name, heq, hname⟩ := hfit
    cases heq
    exact h hname
  | nullable hnull _ ih =>
    obtain hfit | hfit := hfit
    · exact hnull hfit
    · exact ih hfit

section DocumentFit

variable {gateway : GatewayConfig} {field : Field}

theorem DocumentFit.device (h : DocumentFit root gateway) {index : ℕ}
    (hvalue : root.locate (devicePath index) = some value) :
    ∃ device, gateway.devices[index]? = some device ∧ DeviceFit value device :=
  h.devices.at_index hvalue

/-- A value that a step leads out of is the value at the path before it. -/
theorem locate_of_append {step : PathStep} (hvalue : root.locate (path ++ [step]) = some value) :
    ∃ parent, root.locate path = some parent ∧ parent.child step = some value := by
  rw [Json.locate_append] at hvalue
  exact Option.bind_eq_some_iff.mp hvalue

theorem DocumentFit.point (h : DocumentFit root gateway) {device index : ℕ}
    (hvalue : root.locate (devicePath device ++ [PathStep.field (lit "points")] ++
      [PathStep.item index]) = some value) : ∃ point, PointFit value point := by
  obtain ⟨items, hitems, -⟩ := locate_of_append hvalue
  obtain ⟨item, hitem, -⟩ := locate_of_append hitems
  obtain ⟨found, -, hfit⟩ := h.device hitem
  obtain ⟨point, -, hpoint⟩ := (hfit.points hitem).at_index hvalue
  exact ⟨point, hpoint⟩

/-- Whatever stands where a section should be is one, and its fields meet their rules. -/
theorem DocumentFit.section_fit (h : DocumentFit root gateway) (hat : SectionAt path s)
    (hvalue : root.locate path = some value) :
    ∃ object, value = .object object ∧ SectionFit s object := by
  cases hat with
  | document =>
    obtain rfl : root = value := by simpa using hvalue
    exact h.document
  | runtime =>
    obtain ⟨object, hobject, hfit⟩ := h.runtime
    rw [hobject] at hvalue
    cases hvalue
    exact ⟨object, rfl, hfit⟩
  | device index =>
    obtain ⟨device, -, object, items, hobject, hfit, -⟩ := h.device hvalue
    exact ⟨object, hobject, hfit⟩
  | point device index =>
    obtain ⟨point, object, hobject, hfit, -⟩ := h.point hvalue
    exact ⟨object, hobject, hfit⟩
  | group index =>
    obtain ⟨group, -, object, hobject, hfit, -⟩ := h.groups.at_index hvalue
    exact ⟨object, hobject, hfit⟩
  | @plugin key index hkey =>
    have hitem : root.locate ([PathStep.field key] ++ [PathStep.item index]) = some value := hvalue
    obtain ⟨items, hitems, -⟩ := locate_of_append hitem
    obtain hnone | ⟨plugins, hplugins⟩ := h.plugins key hkey
    · rw [hnone] at hitems
      cases hitems
    · obtain ⟨plugin, -, object, hobject, hfit, -⟩ := hplugins.at_index hvalue
      exact ⟨object, hobject, hfit⟩

theorem DocumentFit.field_fit (h : DocumentFit root gateway) (hat : SectionAt path s)
    (hfield : field ∈ s.fields)
    (hvalue : root.locate (path ++ [PathStep.field field.key]) = some value) :
    field.rule.Fit value := by
  obtain ⟨parent, hparent, hchild⟩ := locate_of_append hvalue
  obtain ⟨object, rfl, hfit⟩ := h.section_fit hat hparent
  have hfound : Json.find object field.key = some value := hchild
  have hfieldfit := hfit field hfield
  unfold FieldFit at hfieldfit
  rw [hfound] at hfieldfit
  exact hfieldfit

/-- The names of a group's points are what its rule says. -/
theorem DocumentFit.name_fit (h : DocumentFit root gateway) {index : ℕ}
    (hat : SectionAt path .group)
    (hvalue : root.locate (path ++ [PathStep.field (lit "points")] ++ [PathStep.item index]) =
      some value) :
    (Rule.text false).Fit value := by
  have hfield : ⟨lit "points", true, .names⟩ ∈ Section.group.fields := Section.field_mem 4 rfl
  obtain ⟨parent, hparent, hchild⟩ := locate_of_append hvalue
  obtain ⟨names, rfl, -, hempty, -⟩ := h.field_fit hat hfield hparent
  have hget : (names.map Json.string)[index]? = some value := hchild
  rw [List.getElem?_map, Option.map_eq_some_iff] at hget
  obtain ⟨name, hname, rfl⟩ := hget
  refine ⟨name, rfl, ?_⟩
  rintro rfl
  exact absurd (List.mem_of_getElem? hname) hempty

theorem DocumentFit.demand_fit (h : DocumentFit root gateway) {rule : Rule}
    (hdemand : Demand path rule) (hvalue : root.locate path = some value) : rule.Fit value := by
  cases hdemand with
  | whole hat =>
    obtain ⟨object, rfl, -⟩ := h.section_fit hat hvalue
    exact ⟨object, rfl⟩
  | field hat hfield => exact h.field_fit hat hfield hvalue
  | name index hat => exact h.name_fit hat hvalue

/-- No array that names its items names two of them alike. -/
theorem DocumentFit.named (h : DocumentFit root gateway) {key label text : ByteString}
    {first second : ℕ} (hnamed : Named path key label) (hlt : first < second)
    (hfirst : root.locate (path ++ [PathStep.item first] ++ [PathStep.field key]) =
      some (.string text))
    (hsecond : root.locate (path ++ [PathStep.item second] ++ [PathStep.field key]) =
      some (.string text)) :
    False := by
  obtain ⟨item, hitem, -⟩ := locate_of_append hfirst
  obtain ⟨items, hitems, -⟩ := locate_of_append hitem
  cases hnamed with
  | devices => exact h.devices.not_twice DeviceFit.child hlt hfirst hsecond
  | points device =>
    obtain ⟨parent, hparent, -⟩ := locate_of_append hitems
    obtain ⟨found, -, hfit⟩ := h.device hparent
    exact (hfit.points hparent).not_twice PointFit.child hlt hfirst hsecond
  | groups => exact h.groups.not_twice (GroupFit.child _) hlt hfirst hsecond
  | @plugins list hkey =>
    obtain hnone | ⟨plugins, hplugins⟩ := h.plugins list hkey
    · rw [hnone] at hitems
      cases hitems
    · exact hplugins.not_twice PluginFit.child hlt hfirst hsecond

/-- A group of the document names a device of the document and points of that device. -/
theorem DocumentFit.group (h : DocumentFit root gateway) {id : ByteString}
    (hat : SectionAt path .group)
    (hid : root.locate (path ++ [PathStep.field (lit "device_id")]) = some (.string id)) :
    ∃ (index : ℕ) (device : DeviceConfig) (points : List ByteString),
      gateway.devices[index]? = some device ∧ device.id = id ∧
        root.locate (path ++ [PathStep.field (lit "points")]) = some (.array (points.map .string)) ∧
        ∀ point ∈ points, point ∈ device.points.map PointConfig.name := by
  obtain ⟨value, hvalue, hchild⟩ := locate_of_append hid
  cases hat with
  | group position =>
    obtain ⟨group, -, object, rfl, -, -, device, hmem, hfind, hpoints, hknown⟩ :=
      h.groups.at_index hvalue
    obtain ⟨index, hindex⟩ := List.getElem?_of_mem hmem
    refine ⟨index, device, group.points, hindex, ?_, ?_, hknown⟩
    · have hfound : Json.find object (lit "device_id") = some (.string id) := hchild
      simpa [hfind] using hfound
    · rw [Json.locate_field hvalue, hpoints]

theorem DocumentFit.not_fault (h : DocumentFit root gateway) {message : ByteString} :
    ¬Fault root path message := by
  intro hfault
  cases hfault with
  | missing hat hfield hrequired hobject hmissing =>
    obtain ⟨object, heq, hfit⟩ := h.section_fit hat hobject
    cases heq
    have hfieldfit := hfit _ hfield
    unfold FieldFit at hfieldfit
    rw [hmissing] at hfieldfit
    rw [hfieldfit] at hrequired
    cases hrequired
  | unfit hdemand hvalue hunfit => exact (h.demand_fit hdemand hvalue).not_unfit hunfit
  | entry hdemand hvalue hmem hentry =>
    obtain ⟨members, heq, htexts⟩ := h.demand_fit hdemand hvalue
    cases heq
    obtain ⟨text, htext⟩ := htexts _ hmem
    exact hentry text htext
  | @repeated _ first second text hdemand hlt hfirst hsecond =>
    obtain ⟨parent, hparent, hfirst⟩ := locate_of_append hfirst
    obtain ⟨names, rfl, -, -, hnodup⟩ := h.demand_fit hdemand hparent
    rw [Json.locate_item hparent] at hsecond
    have hfirst' : (names.map Json.string)[first]? = some (.string text) := hfirst
    simp only [List.getElem?_map, Option.map_eq_some_iff, Json.string.injEq,
      exists_eq_right] at hfirst' hsecond
    have hindex := (List.nodup_iff_injective_getElem.mp hnodup)
    obtain ⟨hi, hgeti⟩ := List.getElem?_eq_some_iff.mp hfirst'
    obtain ⟨hj, hgetj⟩ := List.getElem?_eq_some_iff.mp hsecond
    have heq : (⟨first, hi⟩ : Fin names.length) = ⟨second, hj⟩ := hindex (hgeti.trans hgetj.symm)
    have hval := Fin.val_eq_of_eq heq
    simp only at hval
    omega
  | duplicate hnamed hlt hfirst hsecond => exact h.named hnamed hlt hfirst hsecond
  | inverted hat hminimum hmaximum hlow hhigh hlt =>
    obtain ⟨value, hvalue, hchild⟩ := locate_of_append hminimum
    cases hat with
    | point device index =>
      obtain ⟨point, object, rfl, -, -, hordered⟩ := h.point hvalue
      rw [Json.locate_field hvalue] at hminimum hmaximum
      simp [givenNumber, hminimum, hmaximum, hlow, hhigh, invertedRange, hlt] at hordered
  | unknownDevice hat hid hunknown =>
    obtain ⟨index, device, -, hindex, rfl, -⟩ := h.group hat hid
    exact hunknown index ((h.devices.locate_name DeviceFit.child).mpr ⟨device, hindex, rfl⟩)
  | unknownPoint hat hid howner hname hunknown =>
    obtain ⟨index, device, points, hindex, rfl, hpoints, hknown⟩ := h.group hat hid
    obtain ⟨owner, hposition, hownerid⟩ := (h.devices.locate_name DeviceFit.child).mp howner
    have hsame : owner = device :=
      List.inj_on_of_nodup_map h.devices.nodup (List.mem_of_getElem? hposition)
        (List.mem_of_getElem? hindex) hownerid
    subst hsame
    rw [Json.locate_item hpoints] at hname
    simp only [List.getElem?_map, Option.map_eq_some_iff, Json.string.injEq,
      exists_eq_right] at hname
    obtain ⟨point, hpoint, hpointname⟩ :=
      List.mem_map.mp (hknown _ (List.mem_of_getElem? hname))
    obtain ⟨item, hitem, hfit⟩ := h.devices.value_at hposition
    obtain ⟨number, hnumber⟩ := List.getElem?_of_mem hpoint
    exact hunknown number
      (((hfit.points hitem).locate_name PointFit.child).mpr ⟨point, hnumber, hpointname⟩)

end DocumentFit

/-! ### The verdict -/

/-- The name of the source in the error texts. -/
def sourceLabel (sourceName : ByteString) : ByteString :=
  if sourceName.isEmpty then lit "<memory>" else sourceName

/-- **`parse_config` accepts exactly the JSON documents without a fault**, and the error of a
document that it rejects is the text of one of the document's faults: the path is that of the value
at fault, and the message is true of it. -/
theorem config_verdict (json : JsonLibrary) (jsonText sourceName : ByteString) :
    ((∃ config, parseConfig json jsonText sourceName = .ok config) ↔
      ∃ root, json.parse jsonText = .ok root ∧ ∀ path message, ¬Fault root path message) ∧
    ∀ what, parseConfig json jsonText sourceName = .error what →
      (∃ reason, json.parse jsonText = .error reason ∧
        what = lit "invalid JSON in " ++ sourceLabel sourceName ++ lit ": " ++ reason) ∨
      ∃ root path message, json.parse jsonText = .ok root ∧ Fault root path message ∧
        what = lit "invalid configuration in " ++ sourceLabel sourceName ++ lit ": " ++
          (renderPath path ++ lit ": " ++ message) := by
  unfold parseConfig sourceLabel
  dsimp only
  cases hparse : json.parse jsonText with
  | error reason =>
    refine ⟨⟨?_, ?_⟩, ?_⟩
    · rintro ⟨config, h⟩
      cases h
    · rintro ⟨root, h, -⟩
      cases h
    · rintro what h
      exact .inl ⟨reason, rfl, (Except.error.inj h).symm⟩
  | ok root =>
    have hsettles := parseApplicationConfig_settles json root
    dsimp only
    cases hconfig : parseApplicationConfig json root with
    | error text =>
      rw [hconfig] at hsettles
      obtain ⟨path, message, hfault, rfl⟩ := hsettles
      refine ⟨⟨?_, ?_⟩, ?_⟩
      · rintro ⟨config, h⟩
        cases h
      · rintro ⟨other, h, hnone⟩
        cases h
        exact absurd hfault (hnone path message)
      · rintro what h
        exact .inr ⟨root, path, message, rfl, hfault, (Except.error.inj h).symm⟩
    | ok config =>
      rw [hconfig] at hsettles
      refine ⟨⟨?_, ?_⟩, ?_⟩
      · exact fun _ => ⟨root, rfl, fun path message => DocumentFit.not_fault hsettles⟩
      · exact fun _ => ⟨config, rfl⟩
      · rintro what h
        cases h

end MiniGateway
