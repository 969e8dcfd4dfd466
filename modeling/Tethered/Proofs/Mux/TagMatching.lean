import Tethered.Mux.Roster
import Tethered.Proofs.Mux.Pipe

/-!
# Which replies a client takes for its own

Every exchange of a client uses up one tag, whatever comes of it, and takes a reply
only under that tag. Tags are numbers of 32 bits, so the tags of two exchanges are
the same where the numbers of the exchanges agree in their lowest 32 bits, and only
there. Nothing is said here about what the body of a reply means.
-/
namespace Tethered.Mux

/-- What a call on a client comes to that makes a request, given what its exchange
came to. -/
def Request.call : Request → ClientCall Pipe
  | listDevices => .listDevices
  | connect handle port => .connect handle port

def Request.conclude : (request : Request) → Except Failure (List UInt8 × Pipe) →
    request.call.Answer
  | listDevices, reply => reply.bind fun (body, _) => Reply.deviceList body
  | connect _ _, reply => reply.bind fun (body, pipe) => (Reply.check body).map fun () => pipe

namespace Client

/-- A call on a client in its course. -/
structure Event where
  call : ClientCall Pipe
  dialogue : List (Exchange interface)
  result : call.Answer

/-- A call that makes a request, with the reply that its exchange came to. -/
def Event.ofExchange (request : Request) (dialogue : List (Exchange interface))
    (reply : Except Failure (List UInt8 × Pipe)) : Event :=
  ⟨request.call, dialogue, request.conclude reply⟩

def Event.isExchange (event : Event) : Bool :=
  match event.call with
  | .listDevices | .connect .. => true
  | _ => false

/-- The calls of a history that make requests, the earliest first. -/
def exchanges (history : List Event) : List Event := history.filter Event.isExchange

/-- One call, under any response of the daemon. -/
def Step (client : Client) (event : Event) (after : Client) : Prop :=
  ∃ records, (answer event.call client).Yields event.dialogue records (event.result, after)

/-- What a call can come to. -/
inductive Performed (client : Client) : Event → Client → Prop
  | unsent {request : Request}
      (hlong : Frame.lengthLimit ≤ Frame.headerLength + (client.requestFrame request).body.length)
      (response : Response) :
      Performed client
        (.ofExchange request [⟨(⟨client.address, []⟩ : Contact), response⟩]
          (within client.settings.timeLimit request.name
            (fun _ => .error (.protocol "message too large")) response))
        client.spent
  | settled {request : Request}
      (hfit : Frame.headerLength + (client.requestFrame request).body.length < Frame.lengthLimit)
      (response : Response) :
      Performed client
        (.ofExchange request
          [⟨(⟨client.address, (client.requestFrame request).encode⟩ : Contact), response⟩]
          (settle client.settings.timeLimit request.name client.nextTag response))
        client.spent
  | aside {event : Event} {after : Client} (hcall : event.isExchange = false)
      (haddress : after.address = client.address) (hsettings : after.settings = client.settings)
      (htag : after.nextTag = client.nextTag) : Performed client event after

/-- A call that makes a request is its exchange with a conclusion. -/
theorem answer_call (request : Request) (client : Client) :
    answer request.call client =
      (client.exchange request).map fun (reply, client) => (request.conclude reply, client) := by
  cases request with
  | listDevices => rfl
  | connect handle port => rfl

theorem performed_exchange {client after : Client} {request : Request}
    {dialogue : List (Exchange interface)} {records : List Record}
    {result : request.call.Answer}
    (h : (answer request.call client).Yields dialogue records (result, after)) :
    Performed client ⟨request.call, dialogue, result⟩ after := by
  rw [answer_call] at h
  obtain ⟨⟨reply, spent⟩, hexchange, heq⟩ := Procedure.yields_map_iff.mp h
  cases heq
  by_cases hfit : Frame.headerLength + (client.requestFrame request).body.length < Frame.lengthLimit
  · rw [exchange_of_fit hfit] at hexchange
    obtain ⟨response, later, rfl, hlater⟩ := Procedure.yields_ask_iff.mp hexchange
    obtain ⟨rfl, rfl, heq⟩ := Procedure.yields_done_iff.mp hlater
    cases heq
    exact .settled hfit response
  · have hlong := Nat.le_of_not_lt hfit
    rw [exchange_of_long hlong] at hexchange
    obtain ⟨response, later, rfl, hlater⟩ := Procedure.yields_ask_iff.mp hexchange
    obtain ⟨rfl, rfl, heq⟩ := Procedure.yields_done_iff.mp hlater
    cases heq
    exact .unsent hlong response

theorem Step.performed {client after : Client} {event : Event} (h : Step client event after) :
    Performed client event after := by
  obtain ⟨call, dialogue, result⟩ := event
  obtain ⟨records, hyields⟩ := h
  cases call with
  | listDevices => exact @performed_exchange client after .listDevices _ _ _ hyields
  | connect handle port =>
    exact @performed_exchange client after (.connect handle port) _ _ _ hyields
  | setDebugLevel level =>
    obtain ⟨rfl, rfl, heq⟩ := Procedure.yields_done_iff.mp hyields
    cases heq
    exact .aside rfl rfl rfl rfl
  | release devices =>
    obtain ⟨rfl, rfl, heq⟩ := Procedure.yields_done_iff.mp hyields
    cases heq
    exact .aside rfl rfl rfl rfl
  | disconnect pipe =>
    obtain ⟨rfl, rfl, heq⟩ := Procedure.yields_done_iff.mp hyields
    cases heq
    exact .aside rfl rfl rfl rfl

/-! ## Tags over a run -/

/-- A new client and the calls made on it so far, the earliest first. -/
def Run (settings : Settings) (history : List Event) (client : Client) : Prop :=
  ∃ new, create settings = .ok new ∧ Trace Step new history client

/-- The tag of an exchange by its number; the first has the number nought. -/
def tagOf (number : Nat) : UInt32 := UInt32.ofNat (1 + number)

theorem toNat_tagOf (number : Nat) : (tagOf number).toNat = (1 + number) % 0x100000000 :=
  UInt32.toNat_ofNat'

theorem tagOf_succ (number : Nat) : tagOf number + 1 = tagOf (number + 1) := by
  apply UInt32.toNat_inj.mp
  rw [UInt32.toNat_add, toNat_tagOf, toNat_tagOf]
  simp only [UInt32.toNat_ofNat]
  omega

theorem tagOf_eq_iff {i j : Nat} : tagOf i = tagOf j ↔ i % 0x100000000 = j % 0x100000000 := by
  rw [← UInt32.toNat_inj, toNat_tagOf, toNat_tagOf]
  omega

/-- What an exchange under a tag makes of a response. -/
structure Matched (limit : Option Number.Duration) (name : String) (tag : UInt32)
    (response : Response) (reply : Except Failure (List UInt8 × Pipe)) : Prop where
  /-- A body comes of a frame under the tag only. -/
  taken : ∀ body pipe, reply = .ok (body, pipe) → ∃ received, response.received = .ok received ∧
    Frame.read received = (.ok ⟨tag, body⟩, pipe.unread)
  /-- A frame that comes in time is taken under the tag and refused under any other. -/
  told_apart : response.InTime limit → ∀ received found rest, response.received = .ok received →
    Frame.read received = (.ok found, rest) →
    reply = if found.tag = tag then .ok (found.body, ⟨rest⟩)
      else .error (.protocol ("reply tag " ++ toString found.tag.toNat ++
        " does not match request tag " ++ toString tag.toNat))
  /-- What comes late is not looked at. -/
  late : ∀ allowed, limit = some allowed → allowed.nanoseconds < response.elapsed.nanoseconds →
    reply = .error (.timedOut name allowed)

theorem matched_settle (limit : Option Number.Duration) (name : String) (tag : UInt32)
    (response : Response) :
    Matched limit name tag response (settle limit name tag response) := by
  constructor
  · intro body pipe h
    obtain ⟨-, hfit, hreceived⟩ := settle_eq_ok_iff.mp h
    exact ⟨_, hreceived, Frame.read_eq_ok_iff.mpr ⟨hfit, rfl⟩⟩
  · intro htime received found rest hreceived hread
    rw [settle, within_of_received htime hreceived, acceptReply, hread]
  · rintro allowed rfl hlate
    exact within_of_late hlate

/-- A frame under the tag of some exchange is taken by no other, unless the numbers of
the two agree in their lowest 32 bits. -/
theorem Matched.mod_eq {limit : Option Number.Duration} {name : String} {number other : Nat}
    {response : Response} {reply : Except Failure (List UInt8 × Pipe)} {received : List UInt8}
    {found : Frame} {rest body : List UInt8} {pipe : Pipe}
    (h : Matched limit name (tagOf number) response reply)
    (hreceived : response.received = .ok received) (hread : Frame.read received = (.ok found, rest))
    (htag : found.tag = tagOf other) (hreply : reply = .ok (body, pipe)) :
    other % 0x100000000 = number % 0x100000000 := by
  obtain ⟨_, hagain, htaken⟩ := h.taken body pipe hreply
  rw [hreceived] at hagain
  cases hagain
  rw [hread] at htaken
  cases htaken
  exact tagOf_eq_iff.mp htag.symm

/-- The exchange with a number: what was sent under which tag, if anything was, and what
was made of the response. -/
def Numbered (new : Client) (number : Nat) (event : Event) : Prop :=
  ∃ (request : Request) (dialogue : List (Exchange interface))
    (reply : Except Failure (List UInt8 × Pipe)),
    event = .ofExchange request dialogue reply ∧
    let frame : Frame := ⟨tagOf number, request.body new.settings.programName⟩
    ((Frame.lengthLimit ≤ Frame.headerLength + frame.body.length ∧ ∃ response : Response,
        dialogue = [⟨(⟨new.address, []⟩ : Contact), response⟩] ∧
        Unsent new.settings.timeLimit request.name response reply) ∨
      (Frame.headerLength + frame.body.length < Frame.lengthLimit ∧ ∃ response : Response,
        dialogue = [⟨(⟨new.address, frame.encode⟩ : Contact), response⟩] ∧
        Matched new.settings.timeLimit request.name frame.tag response reply))

/-- A client after a history, as far as its next exchange depends on it. -/
structure Tagged (new : Client) (history : List Event) (client : Client) : Prop where
  address : client.address = new.address
  settings : client.settings = new.settings
  nextTag : client.nextTag = tagOf (exchanges history).length
  numbered : ∀ number event, (exchanges history)[number]? = some event →
    Numbered new number event

theorem tagged_create {settings : Settings} {new : Client} (h : create settings = .ok new) :
    Tagged new [] new ∧ new.settings = settings := by
  unfold create at h
  cases haddress : settings.address with
  | none =>
    rw [haddress] at h
    cases h
  | some address =>
    rw [haddress] at h
    cases h
    exact ⟨⟨rfl, rfl, rfl, fun _ _ hevent => nomatch hevent⟩, rfl⟩

theorem isExchange_ofExchange (request : Request) (dialogue : List (Exchange interface))
    (reply : Except Failure (List UInt8 × Pipe)) :
    (Event.ofExchange request dialogue reply).isExchange = true := by
  cases request <;> rfl

variable {new client after : Client} {history : List Event} {event : Event}

/-- An exchange that bears the next number keeps the account. -/
theorem Tagged.exchange (h : Tagged new history client) (hevent : event.isExchange = true)
    (hnumbered : Numbered new (exchanges history).length event) :
    Tagged new (history ++ [event]) client.spent := by
  have hexchanges : exchanges (history ++ [event]) = exchanges history ++ [event] := by
    simp [exchanges, hevent]
  refine ⟨h.address, h.settings, ?_, ?_⟩
  · rw [hexchanges, List.length_append, List.length_singleton, ← tagOf_succ, ← h.nextTag]
    rfl
  · intro number found hfound
    rw [hexchanges] at hfound
    rcases Nat.lt_or_ge number (exchanges history).length with hlt | hge
    · rw [List.getElem?_append_left hlt] at hfound
      exact h.numbered number found hfound
    · rw [List.getElem?_append_right hge, List.getElem?_singleton] at hfound
      split at hfound
      · have heq : number = (exchanges history).length := by omega
        cases hfound
        rwa [heq]
      · cases hfound

theorem Tagged.step (h : Tagged new history client) (hstep : Performed client event after) :
    Tagged new (history ++ [event]) after := by
  have hframe (request : Request) : client.requestFrame request =
      ⟨tagOf (exchanges history).length, request.body new.settings.programName⟩ := by
    rw [requestFrame, h.nextTag, h.settings]
  cases hstep with
  | @unsent request hlong response =>
    rw [hframe] at hlong
    refine h.exchange (isExchange_ofExchange ..)
      ⟨request, _, _, rfl, .inl ⟨hlong, response, ?_, ?_⟩⟩
    · rw [h.address]
    · rw [h.settings]
      exact unsent_within
  | @settled request hfit response =>
    rw [hframe] at hfit
    refine h.exchange (isExchange_ofExchange ..)
      ⟨request, _, _, rfl, .inr ⟨hfit, response, ?_, ?_⟩⟩
    · rw [hframe, h.address]
    · rw [h.settings, h.nextTag]
      exact matched_settle ..
  | aside hcall haddress hsettings htag =>
    have hexchanges : exchanges (history ++ [event]) = exchanges history := by
      simp [exchanges, hcall]
    exact ⟨haddress.trans h.address, hsettings.trans h.settings,
      by rw [htag, h.nextTag, hexchanges], by rw [hexchanges]; exact h.numbered⟩

theorem Tagged.trace (h : Tagged new [] new) (htrace : Trace Step new history client) :
    Tagged new history client :=
  Trace.induction_last (motive := Tagged new) h
    (fun _ hmiddle hstep => hmiddle.step hstep.performed) htrace

/-- The exchanges of a run bear the tags from one on in their order, however the ones
before them ended. A reply is taken for the body of a frame under the tag of the
exchange only, and for no exchange but those whose number differs by a multiple of
the number of tags. A request that no frame can hold uses up its tag as well. -/
theorem tags_of_run {settings : Settings} (h : Run settings history client) :
    client.nextTag = tagOf (exchanges history).length ∧
    ∀ number event, (exchanges history)[number]? = some event →
      (tagOf number).toNat = (1 + number) % 0x100000000 ∧
      ∃ (request : Request) (dialogue : List (Exchange interface))
        (reply : Except Failure (List UInt8 × Pipe)),
        event = .ofExchange request dialogue reply ∧
        let frame : Frame := ⟨tagOf number, request.body settings.programName⟩
        ((Frame.lengthLimit ≤ Frame.headerLength + frame.body.length ∧ ∃ response : Response,
            dialogue = [⟨(⟨client.address, []⟩ : Contact), response⟩] ∧
            Unsent settings.timeLimit request.name response reply) ∨
          (Frame.headerLength + frame.body.length < Frame.lengthLimit ∧ ∃ response : Response,
            dialogue = [⟨(⟨client.address, frame.encode⟩ : Contact), response⟩] ∧
            Matched settings.timeLimit request.name frame.tag response reply ∧
            ∀ other received found rest body pipe, response.received = .ok received →
              Frame.read received = (.ok found, rest) → found.tag = tagOf other →
              reply = .ok (body, pipe) → other % 0x100000000 = number % 0x100000000)) := by
  obtain ⟨new, hnew, htrace⟩ := h
  obtain ⟨hfirst, rfl⟩ := tagged_create hnew
  have htagged := hfirst.trace htrace
  refine ⟨htagged.nextTag, fun number event hevent => ⟨toNat_tagOf number, ?_⟩⟩
  obtain ⟨request, dialogue, reply, heq, hcourse⟩ := htagged.numbered number event hevent
  refine ⟨request, dialogue, reply, heq, ?_⟩
  rcases hcourse with ⟨hlong, response, hdialogue, hunsent⟩ | ⟨hfit, response, hdialogue, hmatched⟩
  · exact .inl ⟨hlong, response, by rw [hdialogue, htagged.address], hunsent⟩
  · refine .inr ⟨hfit, response, ?_, hmatched, ?_⟩
    · rw [hdialogue, htagged.address]
    · intro other received found rest body pipe hreceived hread htag hreply
      exact hmatched.mod_eq hreceived hread htag hreply

/-! ## Runs against a daemon -/

def carryOut {σ : Type} (daemon : Procedure.Surroundings interface σ) (state : σ)
    (client : Client) : List (ClientCall Pipe) → List Event × Client
  | [] => ([], client)
  | call :: calls =>
      let outcome := Procedure.run daemon state (answer call client)
      let later := carryOut daemon outcome.state outcome.result.2 calls
      (⟨call, Procedure.dialogueWith daemon state (answer call client), outcome.result.1⟩ ::
        later.1, later.2)

/-- Calls made against a daemon all return, and make a trace. -/
theorem trace_carryOut {σ : Type} (daemon : Procedure.Surroundings interface σ) (state : σ)
    (client : Client) (calls : List (ClientCall Pipe)) :
    Trace Step client (carryOut daemon state client calls).1
      (carryOut daemon state client calls).2 := by
  induction calls generalizing state client with
  | nil => exact .nil client
  | cons call calls ih =>
    exact .cons ⟨_, Procedure.yields_dialogueWith daemon state (answer call client)⟩ (ih _ _)

/-- A daemon that gives prepared responses in order, and then refuses connections. -/
def preparedDaemon : Procedure.Surroundings interface (List Response) := fun _ responses =>
  (responses.headD ⟨.error (.ofSystem .connectionRefused "Connection refused" 111), ⟨0⟩⟩,
    responses.tail)

/-- Nobody listens, then a reply comes under the tag before, and then one under its own. -/
def belatedRun : List Event × Client :=
  carryOut preparedDaemon
    [⟨.error (.ofSystem .connectionRefused "Connection refused" 111), ⟨0⟩⟩,
      ⟨.ok (Frame.encode ⟨1, bareAcceptance⟩), ⟨0⟩⟩,
      ⟨.ok (Frame.encode ⟨3, bareAcceptance⟩ ++ [7]), ⟨0⟩⟩]
    standardClient [.listDevices, .setDebugLevel 1, .connect 4 80, .connect 4 80]

/-- Whether nothing was sent in an event. -/
def isUnsent (event : Event) : Bool := event.dialogue.all fun exchange =>
  exchange.question.sent.isEmpty

/-- The last of the three exchanges bears the tag three, and what was made of the
response to it is what the tag says. -/
theorem tags_of_belatedRun :
    Run .standard belatedRun.1 belatedRun.2 ∧ belatedRun.2.nextTag = 4 ∧
      ∃ (request : Request) (response : Response) (reply : Except Failure (List UInt8 × Pipe)),
        (exchanges belatedRun.1)[2]? = some (.ofExchange request
          [⟨(⟨.socket "/var/run/usbmuxd",
            Frame.encode ⟨3, request.body "device-link"⟩⟩ : Contact), response⟩] reply) ∧
        Matched none request.name 3 response reply := by
  have hrun : Run .standard belatedRun.1 belatedRun.2 :=
    ⟨standardClient, rfl, trace_carryOut _ _ _ _⟩
  have hsent : (exchanges belatedRun.1).map isUnsent = [false, false, false] := by decide +kernel
  have hlength : (exchanges belatedRun.1).length = 3 := by
    simpa using congrArg List.length hsent
  have hlast : (exchanges belatedRun.1)[2]?.map isUnsent = some false := by
    rw [← List.getElem?_map, hsent]
    rfl
  have haddress : belatedRun.2.address = .socket "/var/run/usbmuxd" :=
    ((@tagged_create .standard standardClient rfl).1.trace (trace_carryOut _ _ _ _)).address
  obtain ⟨event, hevent, hdialogue⟩ := Option.map_eq_some_iff.mp hlast
  obtain ⟨htag, hnumbered⟩ := tags_of_run hrun
  rw [hlength] at htag
  refine ⟨hrun, htag, ?_⟩
  obtain ⟨-, request, dialogue, reply, rfl, hcourse⟩ := hnumbered 2 event hevent
  rcases hcourse with ⟨-, _, rfl, -⟩ | ⟨-, response, rfl, hmatched, -⟩
  · nomatch hdialogue
  · rw [haddress] at hevent
    exact ⟨request, response, reply, hevent, hmatched⟩

end Client

end Tethered.Mux
