import Tethered.Mux.Client
import Tethered.Proofs.Dialogue
import Tethered.Proofs.Mux.RequestWire

/-!
# From frames to the bytes of a device

A connection carries one frame to the daemon and one back, and then belongs to the
device. What the daemon sent behind its reply is what the pipe has unread, to the
byte, however it was cut on the way. For a request that no frame can hold a connection
is opened, and nothing is sent on it. Nothing is said about what the daemon makes of a
request, nor about when it answers.
-/
namespace Tethered.Mux

/-! ## Bytes that come in segments -/

/-- Take a number of bytes, or all there are, from segments in the order they come. -/
def takeArriving : Nat → List (List UInt8) → List UInt8 × List (List UInt8)
  | _, [] => ([], [])
  | count, segment :: segments =>
      if count < segment.length then (segment.take count, segment.drop count :: segments)
      else
        let later := takeArriving (count - segment.length) segments
        (segment ++ later.1, later.2)

/-- The cuts between segments have no part in what is taken and what is left. -/
theorem takeArriving_flatten (count : Nat) (segments : List (List UInt8)) :
    (takeArriving count segments).1 = segments.flatten.take count ∧
      (takeArriving count segments).2.flatten = segments.flatten.drop count := by
  induction segments generalizing count with
  | nil => simp [takeArriving]
  | cons segment segments ih =>
    rw [takeArriving, List.flatten_cons]
    by_cases hlt : count < segment.length
    · have hle := Nat.le_of_lt hlt
      rw [if_pos hlt, List.take_append_of_le_length hle, List.drop_append_of_le_length hle]
      exact ⟨rfl, rfl⟩
    · obtain ⟨htaken, hleft⟩ := ih (count - segment.length)
      have hle := Nat.le_of_not_lt hlt
      rw [if_neg hlt, List.take_append, List.drop_append, List.take_of_length_le hle,
        List.drop_of_length_le hle]
      exact ⟨congrArg (segment ++ ·) htaken, hleft⟩

namespace Frame

/-- The length word of a frame says how much has to be taken behind the header. -/
theorem wordAt_encode (frame : Frame) (h : frame.body.length ≤ bodyLimit) :
    wordAt 0 (frame.encode.take headerLength) = headerLength + frame.body.length := by
  have hword := @wordAt_append [] (littleEndian 4 version ++ littleEndian 4 messageType ++
    littleEndian 4 frame.tag.toNat) _ (lt_lengthLimit h)
  rw [encode, List.take_left' (length_header ..)]
  simpa [header] using hword

theorem length_encode (frame : Frame) :
    frame.encode.length = headerLength + frame.body.length := by
  rw [encode, List.length_append, length_header]

theorem drop_encode (frame : Frame) : frame.encode.drop headerLength = frame.body :=
  List.drop_left' (length_header ..)

/-- A frame taken from segments in two steps, first its header and then what its
length word says, leaves what came behind the frame. -/
theorem takeArriving_encode {frame : Frame} {behind : List UInt8} {segments : List (List UInt8)}
    (hfit : frame.body.length ≤ bodyLimit) (h : segments.flatten = frame.encode ++ behind) :
    let head := takeArriving headerLength segments
    let body := takeArriving (wordAt 0 head.1 - headerLength) head.2
    body.1 = frame.body ∧ body.2.flatten = behind := by
  intro head body
  have hlength := length_encode frame
  obtain ⟨hhead, hrest⟩ := takeArriving_flatten headerLength segments
  have hle : headerLength ≤ frame.encode.length := by omega
  rw [h, List.take_append_of_le_length hle] at hhead
  rw [h, List.drop_append_of_le_length hle, drop_encode] at hrest
  have hcount : wordAt 0 head.1 - headerLength = frame.body.length := by
    rw [show head.1 = _ from hhead, wordAt_encode frame hfit]
    omega
  obtain ⟨hbody, hbehind⟩ := takeArriving_flatten (wordAt 0 head.1 - headerLength) head.2
  rw [show head.2.flatten = _ from hrest, hcount] at hbody hbehind
  constructor
  · change (takeArriving (wordAt 0 head.1 - headerLength) head.2).1 = frame.body
    rw [hcount, hbody, List.take_left]
  · change (takeArriving (wordAt 0 head.1 - headerLength) head.2).2.flatten = behind
    rw [hcount, hbehind, List.drop_left]

end Frame

/-! ## One exchange -/

/-- Whether a response came within the time allowed. -/
def Response.InTime (response : Response) (limit : Option Number.Duration) : Prop :=
  ∀ allowed, limit = some allowed → response.elapsed.nanoseconds ≤ allowed.nanoseconds

namespace Client

variable {body : List UInt8} {pipe : Pipe}

theorem acceptReply_eq_ok_iff {tag : UInt32} {received : List UInt8} :
    acceptReply tag received = .ok (body, pipe) ↔
      body.length ≤ Frame.bodyLimit ∧ received = Frame.encode ⟨tag, body⟩ ++ pipe.unread := by
  have hread := @Frame.read_eq_ok_iff received pipe.unread ⟨tag, body⟩
  rw [← hread, acceptReply]
  cases hresult : Frame.read received with
  | mk result rest =>
    cases result with
    | error failure => simp
    | ok frame =>
      obtain ⟨foundTag, found⟩ := frame
      obtain ⟨unread⟩ := pipe
      by_cases htag : foundTag = tag
      · simp [htag]
      · simp [htag]

section Within

variable {α : Type} {limit : Option Number.Duration} {name : String} {response : Response}
  {accept : List UInt8 → Except Failure α} {received : List UInt8}

theorem within_of_late {allowed : Number.Duration}
    (h : allowed.nanoseconds < response.elapsed.nanoseconds) :
    within (some allowed) name accept response = .error (.timedOut name allowed) := if_pos h

/-- A limit that is kept is as good as none. -/
theorem within_of_inTime (h : response.InTime limit) :
    within limit name accept response = within none name accept response := by
  cases limit with
  | none => rfl
  | some allowed => exact if_neg (Nat.not_lt.mpr (h allowed rfl))

theorem within_of_fault {fault : IoFault} (h : response.InTime limit)
    (hfault : response.received = .error fault) :
    within limit name accept response = .error (.io fault) := by
  rw [within_of_inTime h, within, hfault]

theorem within_of_received (h : response.InTime limit)
    (hreceived : response.received = .ok received) :
    within limit name accept response = accept received := by
  rw [within_of_inTime h, within, hreceived]

theorem within_eq_ok_iff {value : α} :
    within limit name accept response = .ok value ↔
      response.InTime limit ∧
        ∃ received, response.received = .ok received ∧ accept received = .ok value := by
  rcases response.elapsed.keeps_or_exceeds limit with htime | ⟨allowed, rfl, hlate⟩
  · have hkept : response.InTime limit := htime
    cases hreceived : response.received with
    | error fault => simp [within_of_fault hkept hreceived]
    | ok received => simp [within_of_received hkept hreceived, hkept]
  · have hlost : ¬ response.InTime (some allowed) := fun htime =>
      Nat.not_le.mpr hlate (htime allowed rfl)
    simp [within_of_late hlate, hlost]

theorem settle_eq_ok_iff {tag : UInt32} :
    settle limit name tag response = .ok (body, pipe) ↔
      response.InTime limit ∧ body.length ≤ Frame.bodyLimit ∧
        response.received = .ok (Frame.encode ⟨tag, body⟩ ++ pipe.unread) := by
  rw [settle, within_eq_ok_iff]
  constructor
  · rintro ⟨htime, received, hreceived, haccept⟩
    obtain ⟨hfit, rfl⟩ := acceptReply_eq_ok_iff.mp haccept
    exact ⟨htime, hfit, hreceived⟩
  · rintro ⟨htime, hfit, hreceived⟩
    exact ⟨htime, _, hreceived, acceptReply_eq_ok_iff.mpr ⟨hfit, rfl⟩⟩

/-- What the contact for the request called `name` comes to where nothing was sent,
because no frame can hold the request. -/
structure Unsent (limit : Option Number.Duration) (name : String) (response : Response)
    (result : Except Failure α) : Prop where
  late : ∀ allowed, limit = some allowed → allowed.nanoseconds < response.elapsed.nanoseconds →
    result = .error (.timedOut name allowed)
  /-- What prevented the contact is reported before the length of the request. -/
  prevented : response.InTime limit → ∀ fault, response.received = .error fault →
    result = .error (.io fault)
  too_large : response.InTime limit → ∀ received, response.received = .ok received →
    result = .error (.protocol "message too large")

theorem unsent_within : Unsent limit name response
    (within limit name (fun _ => .error (.protocol "message too large")) response :
      Except Failure α) where
  late := by
    rintro allowed rfl hlate
    exact within_of_late hlate
  prevented := fun htime _ hfault => within_of_fault htime hfault
  too_large := fun htime _ hreceived => within_of_received htime hreceived

/-- A conclusion that is drawn from replies has no part in a request that is not sent. -/
theorem Unsent.bind {β : Type} {result : Except Failure α} (h : Unsent limit name response result)
    (next : α → Except Failure β) : Unsent limit name response (result.bind next) where
  late := fun allowed hlimit hlate => congrArg (·.bind next) (h.late allowed hlimit hlate)
  prevented := fun htime fault hfault => congrArg (·.bind next) (h.prevented htime fault hfault)
  too_large := fun htime received hreceived =>
    congrArg (·.bind next) (h.too_large htime received hreceived)

end Within

/-- Received bytes that begin with a reply which accepts the request with a tag: a
header with version one, type eight and that tag, and a body of at most a mebibyte
that is an accepting result. -/
def Acceptance (tag : UInt32) (received behind : List UInt8) : Prop :=
  ∃ body, body.length ≤ 0x100000 ∧ Reply.check body = .ok () ∧
    received = Frame.header (16 + body.length) 1 8 tag.toNat ++ body ++ behind

/-- What a request to connect is sent as. -/
def connectFrame (client : Client) (handle : UInt32) (port : UInt16) : Frame :=
  ⟨client.nextTag, (Request.connect handle port).body client.settings.programName⟩

/-- What a response is for whoever asked to connect. -/
def connected (client : Client) (response : Response) : Except Failure Pipe :=
  (settle client.settings.timeLimit "Connect" client.nextTag response).bind fun (body, pipe) =>
    (Reply.check body).map fun () => pipe

theorem connected_eq_ok_iff {client : Client} {response : Response} :
    client.connected response = .ok pipe ↔
      response.InTime client.settings.timeLimit ∧
        ∃ received, response.received = .ok received ∧
          Acceptance client.nextTag received pipe.unread := by
  have hsettle (body : List UInt8) (pipe : Pipe) := @settle_eq_ok_iff body pipe
    client.settings.timeLimit "Connect" response client.nextTag
  constructor
  · intro h
    unfold connected at h
    cases hreply : settle client.settings.timeLimit "Connect" client.nextTag response with
    | error failure =>
      rw [hreply] at h
      cases h
    | ok reply =>
      obtain ⟨body, unread⟩ := reply
      obtain ⟨htime, hfit, hreceived⟩ := (hsettle body unread).mp hreply
      rw [hreply] at h
      cases hcheck : Reply.check body with
      | error failure => simp [Except.bind, hcheck, Except.map] at h
      | ok accepted =>
        simp only [Except.bind, hcheck, Except.map, Except.ok.injEq] at h
        subst h
        exact ⟨htime, _, hreceived, body, hfit, hcheck, rfl⟩
  · rintro ⟨htime, _, hreceived, body, hfit, hcheck, rfl⟩
    rw [connected, (hsettle body pipe).mpr ⟨htime, hfit, hreceived⟩]
    simp [Except.bind, hcheck, Except.map]

variable {client : Client} {handle : UInt32} {port : UInt16}

theorem exchange_of_fit {request : Request}
    (h : Frame.headerLength + (client.requestFrame request).body.length < Frame.lengthLimit) :
    client.exchange request =
      .ask ⟨client.address, (client.requestFrame request).encode⟩ fun (response : Response) =>
        .done (settle client.settings.timeLimit request.name client.nextTag response,
          client.spent) := by
  rw [exchange, Frame.write_eq_encode h, send]

theorem exchange_of_long {request : Request}
    (h : Frame.lengthLimit ≤ Frame.headerLength + (client.requestFrame request).body.length) :
    client.exchange request = .ask ⟨client.address, []⟩ fun (response : Response) =>
      .done (within client.settings.timeLimit request.name
        (fun _ => .error (.protocol "message too large")) response, client.spent) := by
  rw [exchange, Frame.write, if_neg (Nat.not_lt.mpr h), send]

theorem connect_of_fit
    (h : Frame.headerLength + (client.connectFrame handle port).body.length < Frame.lengthLimit) :
    client.connect handle port =
      .ask ⟨client.address, (client.connectFrame handle port).encode⟩ fun (response : Response) =>
        .done (client.connected response, client.spent) := by
  rw [connect, @exchange_of_fit client (.connect handle port) h]
  rfl

/-- What a response is for whoever asked to connect, where the request was not sent. -/
def unconnected (client : Client) (response : Response) : Except Failure Pipe :=
  (within client.settings.timeLimit "Connect" (fun _ => .error (.protocol "message too large"))
    response).bind fun (body, pipe) => (Reply.check body).map fun () => pipe

theorem connect_of_long
    (h : Frame.lengthLimit ≤ Frame.headerLength + (client.connectFrame handle port).body.length) :
    client.connect handle port = .ask ⟨client.address, []⟩ fun (response : Response) =>
      .done (client.unconnected response, client.spent) := by
  rw [connect, @exchange_of_long client (.connect handle port) h]
  rfl

section Run

variable {σ : Type} {daemon : Procedure.Surroundings interface σ} {state : σ}

theorem run_connect_of_fit
    (h : Frame.headerLength + (client.connectFrame handle port).body.length < Frame.lengthLimit) :
    let contact : Contact := ⟨client.address, (client.connectFrame handle port).encode⟩
    Procedure.run daemon state (client.connect handle port) =
      ⟨(client.connected (daemon contact state).1, client.spent), (daemon contact state).2,
        [contact], []⟩ := by
  rw [connect_of_fit h]
  rfl

theorem run_connect_of_long
    (h : Frame.lengthLimit ≤ Frame.headerLength + (client.connectFrame handle port).body.length) :
    let opening : Contact := ⟨client.address, []⟩
    Procedure.run daemon state (client.connect handle port) =
      ⟨(client.unconnected (daemon opening state).1, client.spent), (daemon opening state).2,
        [opening], []⟩ := by
  rw [connect_of_long h]
  rfl

end Run

/-- What a request to connect says, with the bytes of its port exchanged. -/
theorem ofBytes?_connectFrame :
    Plist.Value.ofBytes? (client.connectFrame handle port).body = some (.dictionary
      [("MessageType", .string "Connect"), ("ClientVersionString", .string "device-link 0.0.3"),
        ("ProgName", .string client.settings.programName), ("kLibUSBMuxVersion", .integer 3),
        ("DeviceID", .integer handle.toNat),
        ("PortNumber", .integer (port.toNat % 256 * 256 + port.toNat / 256 : Nat))]) := by
  rw [connectFrame, Request.ofBytes?_body, Request.entries, Request.target, toNat_portOnWire]
  rfl

/-- A request to connect says which device is meant and which port, its bytes exchanged, and
is the one frame that the daemon gets. A pipe comes of it exactly where the daemon's bytes
begin, in time, with a reply that accepts it, and then what came behind that reply is what the
pipe has unread, however the bytes were cut into segments. All other bytes end in a failure. -/
theorem pipe_of_connect (client : Client) (handle : UInt32) (port : UInt16) {σ : Type}
    (daemon : Procedure.Surroundings interface σ) (state : σ) :
    let request := client.connectFrame handle port
    let contact : Contact := ⟨client.address, request.encode⟩
    let response : Response := (daemon contact state).1
    let outcome := Procedure.run daemon state (client.connect handle port)
    Plist.Value.ofBytes? request.body = some (.dictionary
      [("MessageType", .string "Connect"), ("ClientVersionString", .string "device-link 0.0.3"),
        ("ProgName", .string client.settings.programName), ("kLibUSBMuxVersion", .integer 3),
        ("DeviceID", .integer handle.toNat),
        ("PortNumber", .integer (port.toNat % 256 * 256 + port.toNat / 256 : Nat))]) ∧
    (Frame.headerLength + request.body.length < Frame.lengthLimit →
      request.write = .ok contact.sent ∧ outcome.asked = [contact] ∧
      (∀ received behind, response.received = .ok received →
        Acceptance client.nextTag received behind → response.InTime client.settings.timeLimit →
        outcome.result.1 = .ok ⟨behind⟩ ∧
        ∀ segments : List (List UInt8), segments.flatten = received →
          let head := takeArriving Frame.headerLength segments
          (takeArriving (Frame.wordAt 0 head.1 - Frame.headerLength) head.2).2.flatten = behind) ∧
      (∀ pipe, outcome.result.1 = .ok pipe → ∃ received, response.received = .ok received ∧
        Acceptance client.nextTag received pipe.unread) ∧
      (∀ received, response.received = .ok received →
        (∀ behind, ¬ Acceptance client.nextTag received behind) →
        ∃ failure, outcome.result.1 = .error failure)) ∧
    (Frame.lengthLimit ≤ Frame.headerLength + request.body.length →
      let opening : Contact := ⟨client.address, []⟩
      outcome.asked = [opening] ∧
        Unsent client.settings.timeLimit "Connect" (daemon opening state).1 outcome.result.1) := by
  intro request contact response outcome
  refine ⟨ofBytes?_connectFrame, ?_, ?_⟩
  · intro hfit
    have hrun : outcome = _ := @run_connect_of_fit client handle port σ daemon state hfit
    have hresult : outcome.result.1 = client.connected response :=
      congrArg (fun outcome => outcome.result.1) hrun
    refine ⟨Frame.write_eq_encode hfit, congrArg Procedure.Outcome.asked hrun, ?_, ?_, ?_⟩
    · intro received behind hreceived haccept htime
      refine ⟨hresult.trans (connected_eq_ok_iff.mpr ⟨htime, received, hreceived, haccept⟩), ?_⟩
      intro segments hsegments
      obtain ⟨body, hlength, -, rfl⟩ := haccept
      exact (@Frame.takeArriving_encode ⟨client.nextTag, body⟩ _ _ hlength hsegments).2
    · intro pipe hpipe
      exact (connected_eq_ok_iff.mp (hresult.symm.trans hpipe)).2
    · intro received hreceived hnone
      cases hpipe : outcome.result.1 with
      | error failure => exact ⟨failure, rfl⟩
      | ok pipe =>
        obtain ⟨-, found, hfound, haccept⟩ := connected_eq_ok_iff.mp (hresult.symm.trans hpipe)
        rw [hreceived] at hfound
        cases hfound
        exact absurd haccept (hnone pipe.unread)
  · intro hlong opening
    have hrun : outcome = _ := @run_connect_of_long client handle port σ daemon state hlong
    refine ⟨congrArg Procedure.Outcome.asked hrun, ?_⟩
    rw [hrun]
    exact unsent_within.bind _

/-- The body of an accepting result that leaves its number out. -/
def bareAcceptance : List UInt8 :=
  Text.Utf8.encode "<dict><key>MessageType</key><string>Result</string></dict>".toList

/-- A daemon that accepts under the first tag and sends three bytes from the device. -/
def acceptingDaemon : Procedure.Surroundings interface Unit := fun _ _ =>
  (⟨.ok (Frame.encode ⟨1, bareAcceptance⟩ ++ [7, 8, 9]), ⟨0⟩⟩, ())

def standardClient : Client := ⟨.socket "/var/run/usbmuxd", .standard, 1, 0⟩

/-- The three bytes are unread in the pipe, also where the first of them comes in one
segment with the reply. -/
theorem pipe_of_acceptingDaemon :
    (Procedure.run acceptingDaemon () (standardClient.connect 4 80)).result.1 = .ok ⟨[7, 8, 9]⟩ ∧
      ∀ first second, first ++ second = Frame.encode ⟨1, bareAcceptance⟩ ++ [7, 8, 9] →
        let head := takeArriving Frame.headerLength [first, second]
        (takeArriving (Frame.wordAt 0 head.1 - Frame.headerLength) head.2).2.flatten =
          [7, 8, 9] := by
  have haccepted : (Reply.check bareAcceptance).isOk = true := by decide +kernel
  have hcheck : Reply.check bareAcceptance = .ok () := by
    cases hresult : Reply.check bareAcceptance with
    | ok accepted => rfl
    | error failure =>
      rw [hresult] at haccepted
      nomatch haccepted
  have hfit : Frame.headerLength + (standardClient.connectFrame 4 80).body.length <
      Frame.lengthLimit := by decide +kernel
  obtain ⟨-, -, haccept, -, -⟩ :=
    (pipe_of_connect standardClient 4 80 acceptingDaemon ()).2.1 hfit
  obtain ⟨hresult, hsegments⟩ := haccept _ [7, 8, 9] rfl
    ⟨bareAcceptance, by decide, hcheck, rfl⟩ (fun _ hlimit => nomatch hlimit)
  refine ⟨hresult, fun first second hcut => hsegments [first, second] ?_⟩
  simpa using hcut

end Client

end Tethered.Mux
