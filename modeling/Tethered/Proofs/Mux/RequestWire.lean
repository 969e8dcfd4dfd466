import Tethered.Mux.Request
import Tethered.Proofs.Mux.FrameStream
import Tethered.Proofs.Plist.ValueDecoding

/-!
# Requests on the wire

A request that is framed, read back and decoded is the dictionary it was made of: its
tag, what is wanted and who asks come through for every name that a program can have.
A request to connect carries its port with the two bytes exchanged.
-/
namespace Tethered.Mux

open Plist

theorem toNat_portOnWire (port : UInt16) :
    (portOnWire port).toNat = port.toNat % 256 * 256 + port.toNat / 256 := by
  have hport : port.toNat < 65536 := port.toNat_lt
  have hleft : (port <<< 8).toNat = 2 ^ 8 * (port.toNat % 256) := by
    rw [UInt16.toNat_shiftLeft]
    have hshift : (8 : UInt16).toNat % 16 = 8 := rfl
    rw [hshift, Nat.shiftLeft_eq]
    omega
  have hright : (port >>> 8).toNat = port.toNat / 256 := by
    rw [UInt16.toNat_shiftRight]
    have hshift : (8 : UInt16).toNat % 16 = 8 := rfl
    rw [hshift, Nat.shiftRight_eq_div_pow]
  have hlow : port.toNat / 256 < 2 ^ 8 := by omega
  rw [portOnWire, UInt16.toNat_or, hleft, hright, ← Nat.two_pow_add_eq_or_of_lt hlow]
  omega

/-- Exchanging the bytes twice gives the port again. -/
theorem portOnWire_portOnWire (port : UInt16) : portOnWire (portOnWire port) = port := by
  have hport : port.toNat < 65536 := port.toNat_lt
  apply UInt16.toNat.inj
  rw [toNat_portOnWire, toNat_portOnWire]
  omega

namespace Request

/-- A body in a frame of its own is read back with its tag, and decoded as a value. -/
def ReadsBack (tag : UInt32) (body : List UInt8) (value : Value) : Prop :=
  ∃ bytes frame, Frame.write ⟨tag, body⟩ = .ok bytes ∧ Frame.read bytes = (.ok frame, []) ∧
    frame.tag = tag ∧ Value.ofBytes? frame.body = some value

theorem readsBack_of_decoded {body : List UInt8} {value : Value}
    (hlength : body.length ≤ Frame.bodyLimit) (hdecoded : Value.ofBytes? body = some value)
    (tag : UInt32) : ReadsBack tag body value := by
  have hfits : Frame.headerLength + body.length < Frame.lengthLimit :=
    @Frame.lt_lengthLimit ⟨tag, body⟩ hlength
  have hread := @Frame.read_encode_append ⟨tag, body⟩ [] hfits
  rw [List.append_nil, if_pos hlength] at hread
  exact ⟨_, _, Frame.write_eq_encode hfits, hread, rfl, hdecoded⟩

/-- The body of a request is decoded as the entries of the request. -/
theorem ofBytes?_body (programName : String) (request : Request) :
    Value.ofBytes? (body programName request) =
      some (.dictionary (request.entries programName)) := by
  have hword (word : UInt32) : Integer.inRange word.toNat = true := by
    have hlt : word.toNat < 4294967296 := word.toNat_lt
    rw [Integer.inRange, Bool.and_eq_true, decide_eq_true_eq, decide_eq_true_eq]
    omega
  have hhalf (half : UInt16) : Integer.inRange half.toNat = true := by
    have hlt : half.toNat < 65536 := half.toNat_lt
    rw [Integer.inRange, Bool.and_eq_true, decide_eq_true_eq, decide_eq_true_eq]
    omega
  have hrevision : Integer.inRange protocolRevision = true := by decide
  refine Value.ofBytes?_toBytes ?_ ?_
  · cases request with
    | listDevices => rfl
    | connect handle port =>
      simp [entries, target, Value.isStorable, Value.entriesAreStorable, hword, hhalf, hrevision]
  · cases request <;> rfl

/-- Whatever the name of the program, a request that a reader accepts says the same on
both sides of the wire. -/
theorem readsBack_of_request (programName : String) (tag : UInt32) :
    (∀ (handle : UInt32) (port : UInt16),
      (body programName (.connect handle port)).length ≤ Frame.bodyLimit →
        ∃ wirePort : UInt16,
          ReadsBack tag (body programName (.connect handle port)) (.dictionary
            [("MessageType", .string "Connect"), ("ClientVersionString", .string clientVersion),
              ("ProgName", .string programName), ("kLibUSBMuxVersion", .integer 3),
              ("DeviceID", .integer handle.toNat), ("PortNumber", .integer wirePort.toNat)]) ∧
          wirePort.toNat = port.toNat % 256 * 256 + port.toNat / 256 ∧
          portOnWire wirePort = port) ∧
    ((body programName .listDevices).length ≤ Frame.bodyLimit →
      ReadsBack tag (body programName .listDevices) (.dictionary
        [("MessageType", .string "ListDevices"), ("ClientVersionString", .string clientVersion),
          ("ProgName", .string programName), ("kLibUSBMuxVersion", .integer 3)])) := by
  constructor
  · intro handle port hlength
    exact ⟨portOnWire port, readsBack_of_decoded hlength (ofBytes?_body _ _) tag,
      toNat_portOnWire port, portOnWire_portOnWire port⟩
  · intro hlength
    exact readsBack_of_decoded hlength (ofBytes?_body _ _) tag

/-- A name that looks like markup, with blanks at both ends. -/
def markupName : String := " </string>&amp;\t\r\n\"<key>\x27é\u2028 "

theorem readsBack_of_markupName :
    (∃ wirePort : UInt16,
      ReadsBack 7 (body markupName (.connect 0xFFFFFFFF 62078)) (.dictionary
        [("MessageType", .string "Connect"), ("ClientVersionString", .string clientVersion),
          ("ProgName", .string markupName), ("kLibUSBMuxVersion", .integer 3),
          ("DeviceID", .integer (0xFFFFFFFF : UInt32).toNat),
          ("PortNumber", .integer wirePort.toNat)]) ∧
      wirePort.toNat = (62078 : UInt16).toNat % 256 * 256 + (62078 : UInt16).toNat / 256 ∧
      portOnWire wirePort = 62078) ∧
    ReadsBack 7 (body markupName .listDevices) (.dictionary
      [("MessageType", .string "ListDevices"), ("ClientVersionString", .string clientVersion),
        ("ProgName", .string markupName), ("kLibUSBMuxVersion", .integer 3)]) :=
  ⟨(readsBack_of_request markupName 7).1 0xFFFFFFFF 62078 (by decide +kernel),
    (readsBack_of_request markupName 7).2 (by decide +kernel)⟩

end Request

end Tethered.Mux
