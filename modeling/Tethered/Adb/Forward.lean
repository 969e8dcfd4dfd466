import Tethered.Adb.Command
import Tethered.Text.Pieces

/-!
# Forwards

The tool forwards a TCP port on the host to one on a device. Its list of forwards
has three words a line, the device first; lines of fewer or more words are
passed over.
-/
namespace Tethered.Adb

open Tool

/-- A forward: the device, the end at the host and the end at the device. -/
structure Forward where
  serial : List Char
  hostEnd : List Char
  deviceEnd : List Char
  deriving DecidableEq, Repr

namespace Forward

/-- The forward that a line lists, if it has three words. -/
def ofLine? (line : List Char) : Option Forward :=
  match Text.words line with
  | [serial, hostEnd, deviceEnd] => some ⟨serial, hostEnd, deviceEnd⟩
  | _ => none

def listing (output : List Char) : List Forward := (Text.lines output).filterMap ofLine?

/-- The end of a forward at a TCP port. -/
def tcpEnd (port : UInt16) : String := "tcp:" ++ toString port.toNat

/-- Forward a TCP port on the host to one on a device. -/
def establish (config : Config) (serial : String) (hostPort devicePort : UInt16) :
    Procedure interface (Except Failure Unit) :=
  (runChecked config "adb fwd" (some serial) ["forward", tcpEnd hostPort, tcpEnd devicePort]
    false).onSuccess fun _ => .done (.ok ())

/-- Drop all forwards of a device. A failure is recorded and then disregarded. -/
def removeAll (config : Config) (serial : String) : Procedure interface Unit :=
  (runChecked config "adb fwd clear" (some serial) ["forward", "--remove-all"] false).map
    fun _ => ()

def list (config : Config) : Procedure interface (Except Failure (List Forward)) :=
  (runChecked config "adb fwd list" none ["forward", "--list"] true).onSuccess fun output =>
    .done (.ok (listing output.text))

end Forward

end Tethered.Adb
