import Mathlib.Data.List.Forall2
import Tethered.Mux.Reply
import Tethered.Proofs.Plist.RecordFields
import Tethered.Proofs.Plist.WrittenValues
import Tethered.Proofs.Text.Fields

/-!
# What a list of devices says

A list of devices is read from the bytes of a dictionary. Its entries may come in any
order and among entries that mean nothing to the reader, and each device of the list is
found in its place with what the list says of it. A list in which one device is not
described well is refused as a whole.
-/
namespace Tethered.Mux.Reply

open Plist
open Text (IsCut isCut_fitField)

/-! ## Fields -/

/-- What a dictionary gives for a field: the outer option is whether the field can be
read, the inner one whether it is there. -/
def given? {α : Type} (of? : Value → Option α) (name : String)
    (entries : List (String × Value)) : Option (Option α) :=
  match entries.lookup name with
  | none => some none
  | some value => (of? value).map some

section
variable {ρ α : Type} {reader : Reader α} {of? : Value → Option α}

/-- The meaning of a field that is read once into its place. -/
def meaningOf (name : String) (get : ρ → Option α) (set : ρ → α → ρ)
    (takes : reader.Takes of?) : Meaning ρ where
  field := field name get set reader
  of? value := (of? value).map fun found record => set record found
  takes := takes.map fun found record => set record found

theorem lookUp?_meaningOf {name : String} {get : ρ → Option α} {set : ρ → α → ρ}
    (takes : reader.Takes of?) (entries : List (String × Value)) (record : ρ) :
    (meaningOf name get set takes).lookUp? entries record =
      (given? of? name entries).map fun found => (found.map (set record)).getD record := by
  have hname : (meaningOf name get set takes).field.name = name := rfl
  rw [Meaning.lookUp?, hname, given?]
  cases entries.lookup name with
  | none => rfl
  | some value =>
    have hof : (meaningOf name get set takes).of? value =
        (of? value).map fun found record => set record found := rfl
    simp only [hof]
    cases of? value <;> rfl

/-- Two fields in different places of a record are kept apart. -/
theorem apart_meaningOf {β : Type} {other : Reader β} {otherOf? : Value → Option β}
    {name otherName : String} {get : ρ → Option α} {set : ρ → α → ρ} {getOther : ρ → Option β}
    {setOther : ρ → β → ρ} (takes : reader.Takes of?) (takesOther : other.Takes otherOf?)
    (hname : name ≠ otherName)
    (hleft : ∀ record found, getOther (set record found) = getOther record)
    (hright : ∀ record found, get (setOther record found) = get record)
    (hcomm : ∀ record found change,
      setOther (set record found) change = set (setOther record change) found) :
    (meaningOf name get set takes).Apart (meaningOf otherName getOther setOther takesOther) where
  name_ne := hname
  isSet_left value change h record := by
    obtain ⟨found, -, rfl⟩ := Option.map_eq_some_iff.mp h
    exact congrArg Option.isSome (hleft record found)
  isSet_right value change h record := by
    obtain ⟨found, -, rfl⟩ := Option.map_eq_some_iff.mp h
    exact congrArg Option.isSome (hright record found)
  comm left change right changeOther h hother record := by
    obtain ⟨found, -, rfl⟩ := Option.map_eq_some_iff.mp h
    obtain ⟨foundOther, -, rfl⟩ := Option.map_eq_some_iff.mp hother
    exact hcomm record found foundOther

end

/-! ## The values that the readers make -/

def propertyMeanings : List (Meaning Properties) :=
  [meaningOf "SerialNumber" Properties.serialNumber
      (fun draft value => { draft with serialNumber := some value }) takes_text,
    meaningOf "ProductID" Properties.productId
      (fun draft value => { draft with productId := some value }) takes_unsigned32,
    meaningOf "ConnectionType" Properties.connectionType
      (fun draft value => { draft with connectionType := some value }) takes_text]

def properties? : Value → Option Properties :=
  Value.record? propertyMeanings ⟨none, none, none⟩ .ok

theorem takes_properties : Properties.reader.Takes properties? :=
  takes_dictionary propertyMeanings ⟨none, none, none⟩ .ok

def attachedMeanings : List (Meaning Attached) :=
  [meaningOf "DeviceID" Attached.deviceId
      (fun draft value => { draft with deviceId := some value }) takes_unsigned32,
    meaningOf "Properties" Attached.properties
      (fun draft value => { draft with properties := some value }) takes_properties]

/-- The device of a record whose fields have been met. -/
def Attached.finish (draft : Attached) : Except Mismatch Device := do
  let handle ← require "DeviceID" draft.deviceId
  let properties ← require "Properties" draft.properties
  .ok (properties.device handle)

def attached? : Value → Option Device :=
  Value.record? attachedMeanings ⟨none, none⟩ Attached.finish

theorem takes_attached : Attached.reader.Takes attached? :=
  takes_dictionary attachedMeanings ⟨none, none⟩ Attached.finish

def listMeanings : List (Meaning (Option (List Device))) :=
  [meaningOf "DeviceList" id (fun _ devices => some devices) (takes_sequence takes_attached)]

def list? : Value → Option (List Device) :=
  Value.record? listMeanings none (require "DeviceList")

theorem takes_list : listReader.Takes list? :=
  takes_dictionary listMeanings none (require "DeviceList")

/-! ## Dictionaries with different keys -/

section
variable {entries : List (String × Value)} (h : (keysOf entries).Nodup)
include h

theorem properties?_eq_some_iff {properties : Properties} :
    properties? (.dictionary entries) = some properties ↔
      given? Value.text? "SerialNumber" entries = some properties.serialNumber ∧
        given? Value.unsigned32? "ProductID" entries = some properties.productId ∧
        given? Value.text? "ConnectionType" entries = some properties.connectionType := by
  have hapart : propertyMeanings.Pairwise Meaning.Apart := by
    simp only [propertyMeanings, List.pairwise_cons, List.forall_mem_cons]
    exact ⟨⟨apart_meaningOf _ _ (by decide) (fun _ _ => rfl) (fun _ _ => rfl) fun _ _ _ => rfl,
        apart_meaningOf _ _ (by decide) (fun _ _ => rfl) (fun _ _ => rfl) fun _ _ _ => rfl,
        by simp⟩,
      ⟨apart_meaningOf _ _ (by decide) (fun _ _ => rfl) (fun _ _ => rfl) fun _ _ _ => rfl,
        by simp⟩,
      by simp, .nil⟩
  have hfresh : ∀ meaning ∈ propertyMeanings, meaning.field.name ∈ keysOf entries →
      meaning.field.isSet ⟨none, none, none⟩ = false := by
    simp only [propertyMeanings, List.forall_mem_cons]
    exact ⟨fun _ => rfl, fun _ => rfl, fun _ => rfl, by simp⟩
  rw [properties?, Value.record?, recordOf?_eq hapart h hfresh, propertyMeanings]
  simp only [List.foldlM_cons, lookUp?_meaningOf]
  cases given? Value.text? "SerialNumber" entries with
  | none => simp
  | some serial =>
  cases given? Value.unsigned32? "ProductID" entries with
  | none => simp
  | some product =>
  cases given? Value.text? "ConnectionType" entries with
  | none => simp
  | some connection =>
    obtain ⟨serialNumber, productId, connectionType⟩ := properties
    cases serial <;> cases product <;> cases connection <;> simp [Except.toOption]

theorem attached?_eq_some_iff {device : Device} :
    attached? (.dictionary entries) = some device ↔
      ∃ handle properties, given? Value.unsigned32? "DeviceID" entries = some (some handle) ∧
        given? properties? "Properties" entries = some (some properties) ∧
        device = properties.device handle := by
  have hapart : attachedMeanings.Pairwise Meaning.Apart := by
    simp only [attachedMeanings, List.pairwise_cons, List.forall_mem_cons]
    exact ⟨⟨apart_meaningOf _ _ (by decide) (fun _ _ => rfl) (fun _ _ => rfl) fun _ _ _ => rfl,
        by simp⟩,
      by simp, .nil⟩
  have hfresh : ∀ meaning ∈ attachedMeanings, meaning.field.name ∈ keysOf entries →
      meaning.field.isSet ⟨none, none⟩ = false := by
    simp only [attachedMeanings, List.forall_mem_cons]
    exact ⟨fun _ => rfl, fun _ => rfl, by simp⟩
  rw [attached?, Value.record?, recordOf?_eq hapart h hfresh, attachedMeanings]
  simp only [List.foldlM_cons, lookUp?_meaningOf]
  cases given? Value.unsigned32? "DeviceID" entries with
  | none => simp
  | some handle =>
  cases given? properties? "Properties" entries with
  | none => simp
  | some properties =>
    cases handle <;> cases properties <;>
      simp [Attached.finish, require, Except.toOption, bind, Except.bind, eq_comm]

theorem recordOf?_listMeanings : recordOf? listMeanings none entries =
    given? (Value.sequence? attached?) "DeviceList" entries := by
  have hapart : listMeanings.Pairwise Meaning.Apart := List.pairwise_singleton _ _
  have hfresh : ∀ meaning ∈ listMeanings, meaning.field.name ∈ keysOf entries →
      meaning.field.isSet none = false := by
    simp only [listMeanings, List.forall_mem_cons]
    exact ⟨fun _ => rfl, by simp⟩
  rw [recordOf?_eq hapart h hfresh, listMeanings]
  simp only [List.foldlM_cons, lookUp?_meaningOf]
  cases given? (Value.sequence? attached?) "DeviceList" entries with
  | none => rfl
  | some found => cases found <;> rfl

theorem list?_eq_some_iff {devices : List Device} :
    list? (.dictionary entries) = some devices ↔
      given? (Value.sequence? attached?) "DeviceList" entries = some (some devices) := by
  rw [list?, Value.record?, recordOf?_listMeanings h]
  cases given? (Value.sequence? attached?) "DeviceList" entries with
  | none => simp
  | some found => cases found <;> simp [require, Except.toOption]

end

/-- A body is a list exactly if its value is one, and then it is the list of the value. -/
theorem deviceList_eq_ok_iff {value : Value} (h : value.isStorable = true)
    {devices : List Device} :
    deviceList value.toBytes = .ok devices ↔ list? value = some devices := by
  have hwhole := takes_list.whole value
  rw [deviceList, Series.ofBytes_toBytes h, ← hwhole]
  cases listReader.whole ⟨value.events, none⟩ with
  | ok found => simp [Except.toOption]
  | error fault =>
    cases check value.toBytes <;> simp [Except.toOption]

/-! ## Records -/

/-- A number of 32 bits without sign. -/
def FitsWord (number : Int) : Prop := 0 ≤ number ∧ number < 0x100000000

instance (number : Int) : Decidable (FitsWord number) :=
  inferInstanceAs (Decidable (0 ≤ number ∧ number < 0x100000000))

/-- Properties of a device, as far as they are given, of the right types. -/
structure IsProperties (entries : List (String × Value)) : Prop where
  keys : (keysOf entries).Nodup
  serial : ∀ value, entries.lookup "SerialNumber" = some value → ∃ text, value = .string text
  product : ∀ value, entries.lookup "ProductID" = some value → ∃ number, value = .integer number
  connection : ∀ value, entries.lookup "ConnectionType" = some value →
    ∃ text, value = .string text

/-- A record of a device, as far as its fields are given, of the right types. -/
structure IsRecord (entries : List (String × Value)) : Prop where
  keys : (keysOf entries).Nodup
  handle : ∀ value, entries.lookup "DeviceID" = some value → ∃ number, value = .integer number
  properties : ∀ value, entries.lookup "Properties" = some value →
    ∃ properties, value = .dictionary properties ∧ IsProperties properties

/-- What a record of the right types can still lack. -/
inductive Deficient (record : List (String × Value)) : Prop
  | noHandle (h : record.lookup "DeviceID" = none)
  | noProperties (h : record.lookup "Properties" = none)
  | handle (number : Int) (h : record.lookup "DeviceID" = some (.integer number))
      (hnumber : ¬ FitsWord number)
  | product (properties : List (String × Value)) (number : Int)
      (h : record.lookup "Properties" = some (.dictionary properties))
      (hproduct : properties.lookup "ProductID" = some (.integer number))
      (hnumber : ¬ FitsWord number)

/-- What properties say of a device. A serial that is left out is empty, and a product
that is left out is zero. -/
structure SaysProperties (properties : List (String × Value)) (device : Device) : Prop where
  product : properties.lookup "ProductID" = some (.integer device.productId.toNat) ∨
    properties.lookup "ProductID" = none ∧ device.productId = 0
  serial : ∃ serial, (properties.lookup "SerialNumber" = some (.string serial) ∨
      properties.lookup "SerialNumber" = none ∧ serial = "") ∧
    IsCut 43 serial device.udid
  usb : device.connection = .usb ↔
    properties.lookup "ConnectionType" = some (.string "USB")
  network : device.connection = .network ↔
    properties.lookup "ConnectionType" = some (.string "Network")

/-- What a record says of a device. -/
structure Says (record : List (String × Value)) (device : Device) : Prop where
  handle : record.lookup "DeviceID" = some (.integer device.handle.toNat)
  properties : ∃ properties, record.lookup "Properties" = some (.dictionary properties) ∧
    SaysProperties properties device

theorem given?_eq_some_some_iff {α : Type} {of? : Value → Option α} {name : String}
    {entries : List (String × Value)} {found : α} :
    given? of? name entries = some (some found) ↔
      ∃ value, entries.lookup name = some value ∧ of? value = some found := by
  unfold given?
  cases entries.lookup name <;> simp

/-- A field that is of the right type if it is there is given as it stands. -/
theorem exists_given? {α : Type} {of? : Value → Option α} {name : String} {write : α → Value}
    {entries : List (String × Value)}
    (h : ∀ value, entries.lookup name = some value →
      ∃ found, of? value = some found ∧ value = write found) :
    ∃ found, given? of? name entries = some found ∧
      entries.lookup name = found.map write := by
  unfold given?
  cases hlookup : entries.lookup name with
  | none => exact ⟨none, rfl, rfl⟩
  | some value =>
    obtain ⟨found, hfound, rfl⟩ := h value hlookup
    exact ⟨some found, congrArg (Option.map some) hfound, rfl⟩

theorem unsigned32?_of_fits {number : Int} (h : FitsWord number) :
    ∃ word : UInt32, (Value.integer number).unsigned32? = some word ∧ number = word.toNat := by
  obtain ⟨hlow, hhigh⟩ := h
  refine ⟨number.toNat.toUInt32, ?_, ?_⟩
  · rw [Value.unsigned32?, Value.unsigned?, if_pos ⟨hlow, by simpa using hhigh⟩]
    rfl
  · have hsize : number.toNat < 0x100000000 := by omega
    have hword : number.toNat.toUInt32.toNat = number.toNat := UInt32.toNat_ofNat_of_lt' hsize
    rw [hword]
    omega

theorem fits_of_unsigned32? {number : Int} {word : UInt32}
    (h : (Value.integer number).unsigned32? = some word) : FitsWord number := by
  obtain ⟨found, hfound, -⟩ := Option.map_eq_some_iff.mp h
  rw [Value.unsigned?] at hfound
  by_contra hfits
  rw [if_neg (by simpa [FitsWord] using hfits)] at hfound
  exact absurd hfound (by simp)

theorem ofText_eq_usb_iff {text : String} : Connection.ofText text = .usb ↔ text = "USB" := by
  unfold Connection.ofText
  split
  · simp [*]
  · split <;> simp [*]

theorem ofText_eq_network_iff {text : String} :
    Connection.ofText text = .network ↔ text = "Network" := by
  unfold Connection.ofText
  split
  · simp [*]
  · split <;> simp [*]

theorem saysProperties_device {entries : List (String × Value)} (h : IsProperties entries)
    (hproduct : ∀ number, entries.lookup "ProductID" = some (.integer number) → FitsWord number)
    (handle : UInt32) :
    ∃ properties, properties? (.dictionary entries) = some properties ∧
      SaysProperties entries (properties.device handle) := by
  have htext {name : String}
      (hname : ∀ value, entries.lookup name = some value → ∃ text, value = .string text) :
      ∃ found, given? Value.text? name entries = some found ∧
        entries.lookup name = found.map Value.string := by
    refine exists_given? fun value hvalue => ?_
    obtain ⟨text, rfl⟩ := hname value hvalue
    exact ⟨text, rfl, rfl⟩
  obtain ⟨serial, hserial, hserialAt⟩ := htext h.serial
  obtain ⟨connection, hconnection, hconnectionAt⟩ := htext h.connection
  obtain ⟨product, hgiven, hproductAt⟩ : ∃ found,
      given? Value.unsigned32? "ProductID" entries = some found ∧
        entries.lookup "ProductID" = found.map fun word => Value.integer word.toNat := by
    refine exists_given? fun value hvalue => ?_
    obtain ⟨number, rfl⟩ := h.product value hvalue
    obtain ⟨word, hword, hnumber⟩ := unsigned32?_of_fits (hproduct number hvalue)
    exact ⟨word, hword, congrArg Value.integer hnumber⟩
  refine ⟨⟨serial, product, connection⟩,
    (properties?_eq_some_iff h.keys).mpr ⟨hserial, hgiven, hconnection⟩, ?_⟩
  have hdevice : (⟨serial, product, connection⟩ : Properties).device handle =
      ⟨handle, product.getD 0, Text.fitField Device.udidCapacity (serial.getD ""),
        Connection.ofText (connection.getD "")⟩ := rfl
  rw [hdevice]
  constructor
  · cases product with
    | none => exact .inr ⟨hproductAt, rfl⟩
    | some word => exact .inl hproductAt
  · refine ⟨serial.getD "", ?_, isCut_fitField Device.udidCapacity _⟩
    cases serial with
    | none => exact .inr ⟨hserialAt, rfl⟩
    | some text => exact .inl hserialAt
  · rw [hconnectionAt]
    cases connection <;> simp [ofText_eq_usb_iff]
  · rw [hconnectionAt]
    cases connection <;> simp [ofText_eq_network_iff]

theorem says_of_sufficient {record : List (String × Value)} (h : IsRecord record)
    (hsufficient : ¬ Deficient record) :
    ∃ device, attached? (.dictionary record) = some device ∧ Says record device := by
  obtain ⟨value, hvalue⟩ : ∃ value, record.lookup "DeviceID" = some value :=
    Option.ne_none_iff_exists'.mp fun hnone => hsufficient (.noHandle hnone)
  obtain ⟨number, rfl⟩ := h.handle value hvalue
  have hnumber : FitsWord number := by
    by_contra hfits
    exact hsufficient (.handle number hvalue hfits)
  obtain ⟨handle, hhandle, hword⟩ := unsigned32?_of_fits hnumber
  obtain ⟨value, hproperties⟩ : ∃ value, record.lookup "Properties" = some value :=
    Option.ne_none_iff_exists'.mp fun hnone => hsufficient (.noProperties hnone)
  obtain ⟨entries, rfl, hentries⟩ := h.properties value hproperties
  have hproduct : ∀ number, entries.lookup "ProductID" = some (.integer number) →
      FitsWord number := by
    intro number hproduct
    by_contra hfits
    exact hsufficient (.product entries number hproperties hproduct hfits)
  obtain ⟨properties, hread, hsays⟩ := saysProperties_device hentries hproduct handle
  refine ⟨properties.device handle, (attached?_eq_some_iff h.keys).mpr ⟨handle, properties,
    given?_eq_some_some_iff.mpr ⟨_, hvalue, hhandle⟩,
    given?_eq_some_some_iff.mpr ⟨_, hproperties, hread⟩, rfl⟩, ?_, ⟨entries, hproperties, hsays⟩⟩
  rw [hvalue, hword]
  rfl

theorem attached?_of_deficient {record : List (String × Value)} (h : IsRecord record)
    (hdeficient : Deficient record) : attached? (.dictionary record) = none := by
  by_contra hread
  obtain ⟨device, hdevice⟩ := Option.ne_none_iff_exists'.mp hread
  obtain ⟨handle, properties, hhandle, hproperties, -⟩ :=
    (attached?_eq_some_iff h.keys).mp hdevice
  obtain ⟨value, hvalue, hword⟩ := given?_eq_some_some_iff.mp hhandle
  obtain ⟨inner, hinner, hread⟩ := given?_eq_some_some_iff.mp hproperties
  cases hdeficient with
  | noHandle hnone => exact absurd (hvalue.symm.trans hnone) (by simp)
  | noProperties hnone => exact absurd (hinner.symm.trans hnone) (by simp)
  | handle number hnumber hfits =>
    obtain rfl := Option.some.inj (hvalue.symm.trans hnumber)
    exact hfits (fits_of_unsigned32? hword)
  | product entries number hentries hproduct hfits =>
    obtain ⟨found, hfound, hkeys⟩ := h.properties inner hinner
    obtain rfl := Option.some.inj (hinner.symm.trans hentries)
    obtain rfl := Value.dictionary.inj hfound
    obtain ⟨-, hgiven, -⟩ := (properties?_eq_some_iff hkeys.keys).mp hread
    rw [given?, hproduct] at hgiven
    obtain ⟨word, hword, -⟩ := Option.map_eq_some_iff.mp hgiven
    exact hfits (fits_of_unsigned32? hword)

/-! ## Lists -/

section
variable {α β : Type} {f : α → Option β}

theorem mapM_of_forall₂ {items : List α} {found : List β}
    (h : List.Forall₂ (fun item value => f item = some value) items found) :
    items.mapM f = some found := by
  induction h with
  | nil => rfl
  | cons hitem _ ih => simp [List.mapM_cons, hitem, ih]

theorem mapM_eq_none_of_mem {items : List α} {item : α} (hmem : item ∈ items)
    (h : f item = none) : items.mapM f = none := by
  induction items with
  | nil => exact absurd hmem List.not_mem_nil
  | cons first items ih =>
    rw [List.mapM_cons]
    rcases List.mem_cons.mp hmem with rfl | hmem
    · rw [h]
      rfl
    · rw [ih hmem]
      cases f first <;> rfl

theorem exists_forall₂ {P : α → β → Prop} {items : List α}
    (h : ∀ item ∈ items, ∃ found, P item found) :
    ∃ found, List.Forall₂ P items found := by
  induction items with
  | nil => exact ⟨[], .nil⟩
  | cons item items ih =>
    obtain ⟨⟨first, hfirst⟩, hitems⟩ := List.forall_mem_cons.mp h
    obtain ⟨found, hfound⟩ := ih hitems
    exact ⟨first :: found, .cons hfirst hfound⟩

end

/-- A list is what its records say, in their order, or it is refused as a whole. -/
theorem deviceList_of_records {entries : List (String × Value)}
    (hstorable : (Value.dictionary entries).isStorable = true) (hkeys : (keysOf entries).Nodup)
    {records : List (List (String × Value))}
    (hlist : entries.lookup "DeviceList" = some (.array (records.map .dictionary)))
    (hrecords : ∀ record ∈ records, IsRecord record) :
    ((∀ record ∈ records, ¬ Deficient record) →
      ∃ devices, deviceList (Value.dictionary entries).toBytes = .ok devices ∧
        List.Forall₂ Says records devices) ∧
    ((∃ record ∈ records, Deficient record) →
      ∃ failure, deviceList (Value.dictionary entries).toBytes = .error failure) := by
  have hread {devices : List Device} :
      deviceList (Value.dictionary entries).toBytes = .ok devices ↔
        (records.map Value.dictionary).mapM attached? = some devices := by
    rw [deviceList_eq_ok_iff hstorable, list?_eq_some_iff hkeys, given?_eq_some_some_iff]
    constructor
    · rintro ⟨value, hvalue, hdevices⟩
      obtain rfl := Option.some.inj (hvalue.symm.trans hlist)
      exact hdevices
    · exact fun hdevices => ⟨_, hlist, hdevices⟩
  constructor
  · intro hsufficient
    obtain ⟨devices, hdevices⟩ := exists_forall₂ fun record hmem =>
      says_of_sufficient (hrecords record hmem) (hsufficient record hmem)
    have hattached : List.Forall₂ (fun value device => attached? value = some device)
        (records.map Value.dictionary) devices :=
      List.forall₂_map_left_iff.mpr (hdevices.imp fun _ _ h => h.1)
    exact ⟨devices, hread.mpr (mapM_of_forall₂ hattached), hdevices.imp fun _ _ h => h.2⟩
  · rintro ⟨record, hmem, hdeficient⟩
    have hnone : (records.map Value.dictionary).mapM attached? = none :=
      mapM_eq_none_of_mem (List.mem_map_of_mem hmem)
        (attached?_of_deficient (hrecords record hmem) hdeficient)
    cases hlisted : deviceList (Value.dictionary entries).toBytes with
    | ok devices => exact absurd (hnone.symm.trans (hread.mp hlisted)) (by simp)
    | error failure => exact ⟨failure, rfl⟩

/-- A record with every field, in no particular order, among others that mean nothing. -/
def fullRecord : List (String × Value) :=
  [("MessageType", .string "Attached"),
    ("Properties", .dictionary
      [("ConnectionType", .string "USB"),
        ("LocationID", .array [.integer (-1), .dictionary [("DeviceID", .boolean true)]]),
        ("SerialNumber", .string "00008030-001A2D3E4F5A6B7C-0000-111122223333-é"),
        ("ProductID", .integer 4776)]),
    ("DeviceID", .integer 0xFFFFFFFF)]

/-- A record with no more than it needs. -/
def bareRecord (handle : Int) : List (String × Value) :=
  [("DeviceID", .integer handle), ("Properties", .dictionary [])]

/-- A reply with records, and with a list elsewhere that is none of its own. -/
def replyOf (records : List (List (String × Value))) : List (String × Value) :=
  [("Number", .dictionary [("DeviceList", .array [])]),
    ("DeviceList", .array (records.map .dictionary))]

theorem isRecord_fullRecord : IsRecord fullRecord := by
  refine ⟨by decide, fun value h => ⟨_, (Option.some.inj h).symm⟩, fun value h =>
    ⟨_, (Option.some.inj h).symm, by decide, ?_, ?_, ?_⟩⟩
  · exact fun value h => ⟨_, (Option.some.inj h).symm⟩
  · exact fun value h => ⟨_, (Option.some.inj h).symm⟩
  · exact fun value h => ⟨_, (Option.some.inj h).symm⟩

theorem not_deficient_fullRecord : ¬ Deficient fullRecord := by
  rintro (h | h | ⟨number, h, hnumber⟩ | ⟨properties, number, h, hproduct, hnumber⟩)
  · exact absurd h (by simp [fullRecord])
  · exact absurd h (by simp [fullRecord])
  · obtain rfl := Value.integer.inj (Option.some.inj h)
    exact hnumber (by decide)
  · obtain rfl := Value.dictionary.inj (Option.some.inj h)
    obtain rfl := Value.integer.inj (Option.some.inj hproduct)
    exact hnumber (by decide)

theorem isRecord_bareRecord (handle : Int) : IsRecord (bareRecord handle) := by
  have hproperties : IsProperties [] :=
    ⟨.nil, fun _ h => absurd h (by simp), fun _ h => absurd h (by simp),
      fun _ h => absurd h (by simp)⟩
  exact ⟨by simp [bareRecord, keysOf], fun _ h => ⟨_, (Option.some.inj h).symm⟩,
    fun _ h => ⟨_, (Option.some.inj h).symm, hproperties⟩⟩

theorem deficient_bareRecord_iff {handle : Int} :
    Deficient (bareRecord handle) ↔ ¬ FitsWord handle := by
  constructor
  · rintro (h | h | ⟨number, h, hnumber⟩ | ⟨properties, number, h, hproduct, hnumber⟩)
    · exact absurd h (by simp [bareRecord])
    · exact absurd h (by simp [bareRecord])
    · obtain rfl := Value.integer.inj (Option.some.inj h)
      exact hnumber
    · obtain rfl := Value.dictionary.inj (Option.some.inj h)
      exact absurd hproduct (by simp)
  · exact fun hnumber => .handle handle rfl hnumber

theorem deviceList_of_nestedReply :
    (∃ devices,
      deviceList (Value.dictionary (replyOf [fullRecord, bareRecord 0])).toBytes = .ok devices ∧
        List.Forall₂ Says [fullRecord, bareRecord 0] devices) ∧
    ∃ failure,
      deviceList (Value.dictionary (replyOf [fullRecord, bareRecord 0x100000000])).toBytes =
        .error failure := by
  have hrecords (handle : Int) : ∀ record ∈ [fullRecord, bareRecord handle], IsRecord record := by
    simp [isRecord_fullRecord, isRecord_bareRecord]
  constructor
  · refine (deviceList_of_records (by decide) (by decide) rfl (hrecords 0)).1 ?_
    have hfits : FitsWord 0 := by decide
    simp [not_deficient_fullRecord, deficient_bareRecord_iff, hfits]
  · refine (deviceList_of_records (by decide) (by decide) rfl (hrecords 0x100000000)).2 ?_
    exact ⟨bareRecord 0x100000000, by simp, deficient_bareRecord_iff.mpr (by decide)⟩

end Tethered.Mux.Reply
