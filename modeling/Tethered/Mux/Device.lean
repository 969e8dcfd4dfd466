import Tethered.Text.Clip

/-!
# Devices that the daemon lists

The daemon names a device by a handle, which is all that a connection to it
needs. What else is known of it is its product number, its identifier, cut to
the size of its field, and how the daemon reaches it.
-/
namespace Tethered.Mux

/-- How the daemon reaches a device. -/
inductive Connection where
  | usb
  | network
  | unknown
  deriving DecidableEq, Repr

/-- The connection that the daemon's word for it means. -/
def Connection.ofText (text : String) : Connection :=
  if text = "USB" then .usb else if text = "Network" then .network else .unknown

/-- A device that the daemon lists. -/
structure Device where
  handle : UInt32
  productId : UInt32
  udid : String
  connection : Connection
  deriving DecidableEq, Repr

namespace Device

/-- Bytes of the field of an identifier, with its terminator. -/
def udidCapacity : Nat := 44

def listed (handle productId : UInt32) (udid : String) (connection : Connection) : Device :=
  ⟨handle, productId, Text.fitField udidCapacity udid, connection⟩

end Device

end Tethered.Mux
