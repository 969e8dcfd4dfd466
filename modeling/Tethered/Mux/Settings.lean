import Tethered.Mux.Address
import Tethered.Text.Utf8

/-!
# Settings of a client of the daemon

Where the daemon listens, by which name it is addressed and how long an exchange
may take. Without an address there is no daemon to talk to.
-/
namespace Tethered.Mux

structure Settings where
  address : Option Address
  programName : String
  timeLimit : Option Number.Duration
  deriving DecidableEq, Repr

namespace Settings

/-- The settings where nothing else is asked for. -/
def standard : Settings := ⟨some (.socket "/var/run/usbmuxd"), "device-link", none⟩

/-- The standard settings with the address that an environment variable gives. A
value that is empty or not text counts as none. -/
def ofEnvironment (value : Option (List UInt8)) : Except Failure Settings :=
  match value.bind Text.Utf8.decode? with
  | none | some [] => .ok standard
  | some text =>
      (Address.ofText (String.ofList text)).map fun address =>
        { standard with address := some address }

end Settings

end Tethered.Mux
