import Tethered.Mux.Reply
import Tethered.Mux.Request
import Tethered.Mux.Settings
import Tethered.Procedure

/-!
# A client of the daemon

Every request goes over a connection of its own and bears the next tag, whatever
came of the requests before it. The connection is opened before the request is
written, also for one that no frame can hold. A reply is accepted only under the
same tag. The connection of an accepted request to connect then leads to the device:
what the daemon sent behind its reply are the first bytes from there.
-/
namespace Tethered.Mux

/-- A connection to the daemon, on which bytes are sent. Where there are none, it is
opened and no more. -/
structure Contact where
  address : Address
  sent : List UInt8
  deriving DecidableEq, Repr

/-- What came of a contact: the bytes that the daemon sends up to the end of the
stream, or what prevented the contact; and after what time. -/
structure Response where
  received : Except IoFault (List UInt8)
  elapsed : Number.Duration

/-- The questions of operations that talk to the daemon. -/
def interface : Interface := ⟨Contact, fun _ => Response⟩

/-- The connection to a device, with the bytes that have come and are unread. -/
structure Pipe where
  unread : List UInt8
  deriving DecidableEq, Repr

structure Client where
  address : Address
  settings : Settings
  nextTag : UInt32
  debugLevel : UInt8
  deriving DecidableEq, Repr

namespace Client

def create (settings : Settings) : Except Failure Client :=
  match settings.address with
  | none => .error .unavailable
  | some address => .ok ⟨address, settings, 1, 0⟩

/-- A client as the environment describes it. -/
def ofEnvironment (value : Option (List UInt8)) : Except Failure Client :=
  (Settings.ofEnvironment value).bind create

/-- Set how much the client reports of its exchanges. -/
def setDebugLevel (client : Client) (level : UInt8) : Client := { client with debugLevel := level }

/-- The body of the reply at the beginning of received bytes, and the bytes
behind it. The reply must bear the tag of the request. -/
def acceptReply (tag : UInt32) (received : List UInt8) : Except Failure (List UInt8 × Pipe) :=
  match Frame.read received with
  | (.error failure, _) => .error failure
  | (.ok frame, rest) =>
      if frame.tag = tag then .ok (frame.body, ⟨rest⟩)
      else .error (.protocol ("reply tag " ++ toString frame.tag.toNat ++
        " does not match request tag " ++ toString tag.toNat))

/-- What a response is for the request called `name`, where bytes that came in time are
read by `accept`. -/
def within {α : Type} (limit : Option Number.Duration) (name : String)
    (accept : List UInt8 → Except Failure α) (response : Response) : Except Failure α :=
  let reply :=
    match response.received with
    | .error fault => .error (.io fault)
    | .ok received => accept received
  match limit with
  | some limit =>
      if limit.nanoseconds < response.elapsed.nanoseconds then .error (.timedOut name limit)
      else reply
  | none => reply

/-- What a response is for the request called `name` with a tag. -/
def settle (limit : Option Number.Duration) (name : String) (tag : UInt32)
    (response : Response) : Except Failure (List UInt8 × Pipe) :=
  within limit name (acceptReply tag) response

/-- The frame that a request is sent as. -/
def requestFrame (client : Client) (request : Request) : Frame :=
  ⟨client.nextTag, request.body client.settings.programName⟩

/-- The client behind an exchange. -/
def spent (client : Client) : Client := { client with nextTag := client.nextTag + 1 }

/-- Open a connection for the request called `name`, send what was written for it and take
its reply. The tag is used up in any case. -/
def send (client : Client) (name : String) (written : Except Failure (List UInt8)) :
    Procedure interface (Except Failure (List UInt8 × Pipe) × Client) :=
  match written with
  | .error failure =>
      .ask ⟨client.address, []⟩ fun (response : Response) =>
        .done (within client.settings.timeLimit name (fun _ => .error failure) response,
          client.spent)
  | .ok sent =>
      .ask ⟨client.address, sent⟩ fun (response : Response) =>
        .done (settle client.settings.timeLimit name client.nextTag response, client.spent)

/-- Send a request and take its reply. -/
def exchange (client : Client) (request : Request) :
    Procedure interface (Except Failure (List UInt8 × Pipe) × Client) :=
  client.send request.name (client.requestFrame request).write

/-- Ask for the devices that the daemon knows. -/
def listDevices (client : Client) :
    Procedure interface (Except Failure (List Device) × Client) :=
  (client.exchange .listDevices).map fun (reply, client) =>
    (reply.bind fun (body, _) => Reply.deviceList body, client)

def connect (client : Client) (handle : UInt32) (port : UInt16) :
    Procedure interface (Except Failure Pipe × Client) :=
  (client.exchange (.connect handle port)).map fun (reply, client) =>
    (reply.bind fun (body, pipe) => (Reply.check body).map fun () => pipe, client)

end Client

end Tethered.Mux
