import Tethered.Text.Clip

/-!
# Devices that the adb tool lists

A device has a serial number, a state and a model, each of bounded size. The
model is empty until it is asked for. A state that begins with `offline` is
offline whatever follows.
-/
namespace Tethered.Adb

open Text

structure Device where
  serial : String
  state : String
  model : String
  deriving DecidableEq, Repr

namespace Device

/-- Bytes of the field of a serial number, with its terminator. -/
def serialCapacity : Nat := 80

def stateCapacity : Nat := 32

def modelCapacity : Nat := 80

/-- A device as it is listed, with no model yet. -/
def listed (serial state : String) : Device :=
  ⟨fitField serialCapacity serial, fitField stateCapacity state, ""⟩

/-- Whether the device is listed but not reachable. -/
def isOffline (device : Device) : Bool := "offline".toList.isPrefixOf device.state.toList

/-- Whether the model is still to be asked for. -/
def needsModel (device : Device) : Bool := !device.isOffline && device.model.isEmpty

end Device

/-- Whether a byte is an ASCII character that the name of a model may contain. -/
def isModelByte (byte : UInt8) : Bool :=
  let c := Char.ofNat byte.toNat
  c.isAlphanum || c = ' ' || c = '-' || c = '_'

/-- The name of a model in the output of the tool: its leading run of admitted
characters, of which two bytes fewer are kept than the field holds. -/
def modelName (output : List UInt8) : String :=
  String.ofList <|
    ((output.take (Device.modelCapacity - 2)).takeWhile isModelByte).map fun byte =>
      Char.ofNat byte.toNat

end Tethered.Adb
