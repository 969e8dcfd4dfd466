import Tethered.Adb.Command
import Tethered.Adb.Device
import Tethered.Adb.Listing
import Tethered.Enumeration

/-!
# The table of devices that the adb tool lists

The table has a fixed number of slots. The n-th device of a list goes to the
n-th slot, whatever was there; slots beyond the list keep what they hold, so a
device that has gone stays visible until another takes its slot. The model of a
device is asked for when the cursor first meets it, and again after every list
that writes its slot. A reload that fails changes nothing.
-/
namespace Tethered.Adb

open Tool

structure SlotTable where
  config : Config
  slots : List (Option Device)
  cursor : Nat
  count : Nat
  deriving DecidableEq, Repr

namespace SlotTable

/-- The table before the first list. -/
def empty (config : Config) : SlotTable :=
  ⟨config, List.replicate config.deviceLimit none, 0, 0⟩

def capacity (table : SlotTable) : Nat := table.slots.length

/-- The devices in the slots, in order. -/
def devices (table : SlotTable) : List Device := table.slots.filterMap id

/-- Start the server of the tool and make a table. The server may be running
already, so a failure is recorded and then disregarded. -/
def create (config : Config) : Procedure interface SlotTable :=
  (runChecked config "adb start-server" none ["start-server"] false).map fun _ => empty config

/-- Slots with their first ones written, as many as there are devices. -/
def overwrite : List Device → List (Option Device) → List (Option Device)
  | device :: devices, _ :: slots => some device :: overwrite devices slots
  | _, slots => slots

/-- The table behind a list of devices. -/
def accept (table : SlotTable) (found : List Listed) : SlotTable :=
  { table with
    slots := overwrite
      (found.map fun listed =>
        Device.listed (String.ofList listed.serial) (String.ofList listed.state)) table.slots
    cursor := 0
    count := found.length }

/-- Ask the tool to connect again to what is offline, then for its list. -/
def listDevices (config : Config) : Procedure interface (Except Failure Output) :=
  (runChecked config "adb r.o." none ["reconnect", "offline"] false).onSuccess fun _ =>
    runChecked config "adb devices" none ["devices"] true

def reload (table : SlotTable) : Procedure interface (Except Failure Nat × SlotTable) :=
  (listDevices table.config).map fun
    | .error failure => (.error failure, table)
    | .ok output =>
        let table := table.accept (listing output.text table.capacity)
        (.ok table.count, table)

def askModel (config : Config) (serial : String) :
    Procedure interface (Except Failure Output) :=
  runChecked config "adb get model" (some serial) ["shell", "getprop", "ro.product.model"] true

/-- The cursor, back at the first slot behind the last. -/
def wrapped (table : SlotTable) : SlotTable :=
  if table.cursor ≥ table.capacity then { table with cursor := 0 } else table

/-- The table with the cursor moved on and a model for the device it has passed. -/
def learn (table : SlotTable) (device : Device) : SlotTable :=
  { table with
    slots := table.slots.set table.cursor (some device)
    cursor := table.cursor + 1 }

/-- The device under the cursor, with its model where that can be learnt. The
cursor goes round behind the last slot and stays at an empty one. -/
def next (table : SlotTable) : Procedure interface (Option Device × SlotTable) :=
  let table := table.wrapped
  match table.slots[table.cursor]?.join with
  | none => .done (none, table)
  | some device =>
      if device.needsModel then
        (askModel table.config device.serial).map fun
          | .error _ => (some device, table.learn device)
          | .ok output =>
              let device := { device with model := modelName output.stdout }
              (some device, table.learn device)
      else .done (some device, table.learn device)

instance : Enumeration interface SlotTable Device := ⟨reload, next⟩

end SlotTable

end Tethered.Adb
