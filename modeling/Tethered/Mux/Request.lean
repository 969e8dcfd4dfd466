import Tethered.Mux.Frame
import Tethered.Plist.Writer

/-!
# Requests to the daemon

A request is a dictionary whose first entries say what is wanted and who asks.
A request to connect also names a device and a port; the daemon reads the port
in network byte order, so its two bytes are exchanged.
-/
namespace Tethered.Mux

/-- The two bytes of a port exchanged. -/
def portOnWire (port : UInt16) : UInt16 := (port <<< 8) ||| (port >>> 8)

inductive Request where
  | listDevices
  | connect (handle : UInt32) (port : UInt16)
  deriving DecidableEq, Repr

namespace Request

/-- The name of this client and its version, as the daemon is told. -/
def clientVersion : String := "device-link 0.0.3"

/-- The revision of the protocol that the daemon is told. -/
def protocolRevision : Int := 3

def name : Request → String
  | listDevices => "ListDevices"
  | connect .. => "Connect"

/-- The entries of a request besides those that all requests have. -/
def target : Request → List (String × Plist.Value)
  | listDevices => []
  | connect handle port =>
      [("DeviceID", .integer handle.toNat), ("PortNumber", .integer (portOnWire port).toNat)]

/-- The entries of a request of the program called `programName`. -/
def entries (programName : String) (request : Request) : List (String × Plist.Value) :=
  [("MessageType", .string request.name), ("ClientVersionString", .string clientVersion),
    ("ProgName", .string programName), ("kLibUSBMuxVersion", .integer protocolRevision)] ++
    request.target

def body (programName : String) (request : Request) : List UInt8 :=
  (Plist.Value.dictionary (request.entries programName)).toBytes

end Request

end Tethered.Mux
