import Tethered.Enumeration
import Tethered.Mux.Client

/-!
# The devices that a client of the daemon listed last

A roster holds the list that its client handed out last and gives it back before
it asks for another and when it is closed; a list is handed out by the client,
so each has to be given back once. A daemon that cannot be asked counts as one
without devices. A roster without a client has no devices and connects to none.
-/
namespace Tethered.Mux

/-- What a roster asks of its client. Streams are the connections to devices
that the client makes. -/
inductive ClientCall (Stream : Type) where
  | setDebugLevel (level : UInt8)
  | listDevices
  | release (devices : List Device)
  | connect (handle : UInt32) (port : UInt16)
  | disconnect (stream : Stream)
  deriving DecidableEq, Repr

@[reducible] def ClientCall.Answer {Stream : Type} : ClientCall Stream → Type
  | setDebugLevel _ => Unit
  | listDevices => Except Failure (List Device)
  | release _ => Unit
  | connect .. => Except Failure Stream
  | disconnect _ => Except Failure Unit

/-- The questions of operations that use a client. -/
def clientInterface (Stream : Type) : Interface := ⟨ClientCall Stream, ClientCall.Answer⟩

/-- The devices that a client listed last. -/
structure Roster where
  available : Bool
  held : Option (List Device)
  cursor : Nat
  deriving DecidableEq, Repr

namespace Roster

variable {Stream : Type}

/-- A roster over a client, before the first list. -/
def overClient : Roster := ⟨true, none, 0⟩

/-- A roster without a client. -/
def unavailable : Roster := ⟨false, none, 0⟩

def count (roster : Roster) : Nat := (roster.held.getD []).length

/-- Have the client report more or less. -/
def setDebugLevel (roster : Roster) (level : UInt8) : Procedure (clientInterface Stream) Unit :=
  if roster.available then .ask (.setDebugLevel level) fun _ => .done () else .done ()

/-- Give back the list that is held. -/
def releaseHeld (roster : Roster) : Procedure (clientInterface Stream) Unit :=
  match roster.available, roster.held with
  | true, some devices => .ask (.release devices) fun _ => .done ()
  | _, _ => .done ()

/-- Ask for the devices. The result is how many there are. -/
def reload (roster : Roster) : Procedure (clientInterface Stream) (Nat × Roster) :=
  if roster.available then
    roster.releaseHeld.andThen fun () =>
      .ask .listDevices fun (answer : Except Failure (List Device)) =>
        let roster := { roster with held := answer.toOption, cursor := 0 }
        .done (roster.count, roster)
  else .done (0, { roster with cursor := 0 })

/-- The device under the cursor. The cursor stays behind the last device. -/
def next (roster : Roster) : Option Device × Roster :=
  match (roster.held.getD [])[roster.cursor]? with
  | some device => (some device, { roster with cursor := roster.cursor + 1 })
  | none => (none, roster)

/-- Connect to a port on the device at a position of the list. A position behind
the list is refused without asking the client. -/
def connect (roster : Roster) (index : Nat) (port : UInt16) :
    Procedure (clientInterface Stream) (Except Failure Stream) :=
  if roster.available then
    match (roster.held.getD [])[index]? with
    | none => .done (.error (.noSuchDevice index roster.count))
    | some device =>
        .ask (.connect device.handle port) fun (answer : Except Failure Stream) =>
          match answer with
          | .ok stream => .done (.ok stream)
          | .error failure =>
              .record ⟨.error, "usbmuxd connect failed: " ++ failure.message⟩
                (.done (.error failure))
  else .record ⟨.error, "usbmuxd client not available"⟩ (.done (.error .unavailable))

def disconnect (roster : Roster) (stream : Stream) :
    Procedure (clientInterface Stream) (Except Failure Unit) :=
  if roster.available then
    .ask (.disconnect stream) fun (answer : Except Failure Unit) => .done answer
  else .done (.error .unavailable)

def close (roster : Roster) : Procedure (clientInterface Stream) Roster :=
  roster.releaseHeld.map fun () => { roster with held := none }

instance : Enumeration (clientInterface Stream) Roster Device where
  reload roster := roster.reload.map fun (count, roster) => (.ok count, roster)
  next roster := .done roster.next

/-- The roster for an address in the environment, with its client. Where there
is no client for it, the reason is recorded. -/
def ofEnvironment {I : Interface} (value : Option (List UInt8)) :
    Procedure I (Roster × Option Client) :=
  match Client.ofEnvironment value with
  | .ok client => .done (overClient, some client)
  | .error failure =>
      .record ⟨.warn, "usbmuxd not available: " ++ failure.message⟩ (.done (unavailable, none))

end Roster

/-- A client of the daemon answers a roster. It does not keep account of the
lists it has handed out, and a connection closes without trouble. -/
def Client.answer : (call : ClientCall Pipe) → Client →
    Procedure interface (call.Answer × Client)
  | .setDebugLevel level, client => .done ((), client.setDebugLevel level)
  | .listDevices, client => client.listDevices
  | .release _, client => .done ((), client)
  | .connect handle port, client => client.connect handle port
  | .disconnect _, client => .done (.ok (), client)

end Tethered.Mux
