import Tethered.Failure
import Tethered.Mux.Device
import Tethered.Plist.Decode

/-!
# Replies of the daemon

The daemon answers with a result, whose number is zero where it accepts, or with
a list of devices. A list that cannot be read may be the result of a refusal, so
it is then read as one; only a body that is an accepting result has the fault of
the list. Fields of a device that the daemon leaves out are empty or zero.
-/
namespace Tethered.Mux.Reply

open Plist

/-- A record field read once into its place. -/
def field {ρ α : Type} (name : String) (get : ρ → Option α) (set : ρ → α → ρ)
    (reader : Reader α) : RecordField ρ :=
  { name
    isSet := fun record => (get record).isSome
    read := fun ending events =>
      (reader ending events).map fun (value, rest) => ((set · value), rest) }

/-! ## Results -/

structure Result where
  messageType : String
  number : UInt64
  deriving DecidableEq, Repr

/-- The fields of a result as far as they have been met. -/
structure Result.Draft where
  messageType : Option String
  number : Option UInt64

/-- Reads a result. The number may be left out. -/
def Result.reader : Reader Result :=
  dictionary
    [field "MessageType" Draft.messageType
        (fun draft value => { draft with messageType := some value }) Plist.text,
      field "Number" Draft.number (fun draft value => { draft with number := some value })
        unsigned64]
    ⟨none, none⟩
    fun draft => (require "MessageType" draft.messageType).map fun messageType =>
      ⟨messageType, draft.number.getD 0⟩

/-- Require that a result accepts. -/
def Result.check (result : Result) : Except Failure Unit :=
  if result.messageType ≠ "Result" then
    .error (.protocol ("unexpected reply " ++ result.messageType))
  else if result.number ≠ 0 then .error (.refused result.number)
  else .ok ()

/-- Require that a body is a result that accepts. -/
def check (body : List UInt8) : Except Failure Unit :=
  match Result.reader.whole (Series.ofBytes body) with
  | .ok result => result.check
  | .error fault => .error (.plist fault)

/-! ## Lists of devices -/

/-- The properties of a device as far as they have been met. -/
structure Properties where
  serialNumber : Option String
  productId : Option UInt32
  connectionType : Option String

/-- Reads the properties of a device. All of them may be left out. -/
def Properties.reader : Reader Properties :=
  dictionary
    [field "SerialNumber" Properties.serialNumber
        (fun draft value => { draft with serialNumber := some value }) Plist.text,
      field "ProductID" Properties.productId
        (fun draft value => { draft with productId := some value }) unsigned32,
      field "ConnectionType" Properties.connectionType
        (fun draft value => { draft with connectionType := some value }) Plist.text]
    ⟨none, none, none⟩ .ok

/-- A device as far as its fields have been met. -/
structure Attached where
  deviceId : Option UInt32
  properties : Option Properties

/-- The device with a handle and properties. -/
def Properties.device (properties : Properties) (handle : UInt32) : Device :=
  Device.listed handle (properties.productId.getD 0) (properties.serialNumber.getD "")
    (Connection.ofText (properties.connectionType.getD ""))

def Attached.reader : Reader Device :=
  dictionary
    [field "DeviceID" Attached.deviceId
        (fun draft value => { draft with deviceId := some value }) unsigned32,
      field "Properties" Attached.properties
        (fun draft value => { draft with properties := some value }) Properties.reader]
    ⟨none, none⟩
    fun draft => do
      let handle ← require "DeviceID" draft.deviceId
      let properties ← require "Properties" draft.properties
      .ok (properties.device handle)

def listReader : Reader (List Device) :=
  dictionary
    [field "DeviceList" id (fun _ devices => some devices) (sequence Attached.reader)]
    none (require "DeviceList")

def deviceList (body : List UInt8) : Except Failure (List Device) :=
  match listReader.whole (Series.ofBytes body) with
  | .ok devices => .ok devices
  | .error fault =>
      match check body with
      | .ok () => .error (.plist fault)
      | .error failure => .error failure

end Tethered.Mux.Reply
