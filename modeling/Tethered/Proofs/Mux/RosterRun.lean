import Tethered.Mux.Roster
import Tethered.Proofs.Dialogue

/-!
# Runs of a roster

A call on a roster is an event: what its client was asked and answered, what was
left on record, and what the call returned. What a call can come to is said once,
by cases, with the answers of the client left arbitrary. Closing a roster is not a
call of a run: it comes after one.
-/
namespace Tethered.Mux.Roster

variable {Stream : Type}

inductive Call (Stream : Type) where
  | reload
  | next
  | connect (index : Nat) (port : UInt16)
  | disconnect (stream : Stream)
  | setDebugLevel (level : UInt8)

@[reducible] def Call.Result : Call Stream → Type
  | reload => Except Failure Nat
  | next => Option Device
  | connect .. => Except Failure Stream
  | disconnect _ => Except Failure Unit
  | setDebugLevel _ => Unit

def Call.perform : (call : Call Stream) → Roster →
    Procedure (clientInterface Stream) (call.Result × Roster)
  | reload, roster => Enumeration.reload roster
  | next, roster => Enumeration.next roster
  | connect index port, roster =>
      (roster.connect index port).map fun result => (result, roster)
  | disconnect stream, roster => (roster.disconnect stream).map fun result => (result, roster)
  | setDebugLevel level, roster => (roster.setDebugLevel level).map fun result => (result, roster)

structure Event (Stream : Type) where
  call : Call Stream
  dialogue : List (Exchange (clientInterface Stream))
  records : List Record
  result : call.Result

/-- One call, under any answers of the client. -/
def Step (roster : Roster) (event : Event Stream) (after : Roster) : Prop :=
  (event.call.perform roster).Yields event.dialogue event.records (event.result, after)

/-- The list that positions refer to. -/
def devices (roster : Roster) : List Device := roster.held.getD []

/-- The calls by which a roster gives back what it holds. -/
def givingBack (roster : Roster) : List (Exchange (clientInterface Stream)) :=
  roster.held.toList.map fun devices => ⟨.release devices, ()⟩

def unreachedRecord : Record := ⟨.error, "usbmuxd client not available"⟩

/-- What is left on record of a client's answer to a request to connect. -/
def connectRecords : Except Failure Stream → List Record
  | .ok _ => []
  | .error failure => [⟨.error, "usbmuxd connect failed: " ++ failure.message⟩]

/-- What a call can come to. -/
inductive Performed (roster : Roster) : Event Stream → Roster → Prop
  | unlisted (havailable : roster.available = false) :
      Performed roster ⟨.reload, [], [], .ok 0⟩ { roster with cursor := 0 }
  | listed (havailable : roster.available = true) (answer : Except Failure (List Device)) :
      Performed roster
        ⟨.reload, roster.givingBack ++ [⟨.listDevices, answer⟩], [],
          .ok (answer.toOption.getD []).length⟩
        { roster with held := answer.toOption, cursor := 0 }
  | met {device : Device} (hsome : roster.devices[roster.cursor]? = some device) :
      Performed roster ⟨.next, [], [], some device⟩ { roster with cursor := roster.cursor + 1 }
  | exhausted (hnone : roster.devices[roster.cursor]? = none) :
      Performed roster ⟨.next, [], [], none⟩ roster
  | unreached {index : Nat} {port : UInt16} (havailable : roster.available = false) :
      Performed roster ⟨.connect index port, [], [unreachedRecord], .error .unavailable⟩ roster
  | unknown {index : Nat} {port : UInt16} (havailable : roster.available = true)
      (hnone : roster.devices[index]? = none) :
      Performed roster
        ⟨.connect index port, [], [], .error (.noSuchDevice index roster.devices.length)⟩ roster
  | dialled {index : Nat} {port : UInt16} {device : Device} (havailable : roster.available = true)
      (hsome : roster.devices[index]? = some device) (answer : Except Failure Stream) :
      Performed roster
        ⟨.connect index port, [⟨.connect device.handle port, answer⟩], connectRecords answer,
          answer⟩ roster
  | notDisconnected {stream : Stream} (havailable : roster.available = false) :
      Performed roster ⟨.disconnect stream, [], [], .error .unavailable⟩ roster
  | disconnected {stream : Stream} (havailable : roster.available = true)
      (answer : Except Failure Unit) :
      Performed roster ⟨.disconnect stream, [⟨.disconnect stream, answer⟩], [], answer⟩ roster
  | levelDropped {level : UInt8} (havailable : roster.available = false) :
      Performed roster ⟨.setDebugLevel level, [], [], ()⟩ roster
  | levelSet {level : UInt8} (havailable : roster.available = true) :
      Performed roster ⟨.setDebugLevel level, [⟨.setDebugLevel level, ()⟩], [], ()⟩ roster

variable {roster after : Roster} {dialogue : List (Exchange (clientInterface Stream))}
variable {records : List Record}

theorem yields_releaseHeld_iff (havailable : roster.available = true) {result : Unit} :
    (roster.releaseHeld : Procedure (clientInterface Stream) Unit).Yields dialogue records result ↔
      dialogue = roster.givingBack ∧ records = [] := by
  unfold releaseHeld givingBack
  cases hheld : roster.held with
  | none => simp [havailable, Procedure.yields_done_iff]
  | some devices =>
    simp only [havailable, Option.toList_some, List.map_cons, List.map_nil]
    constructor
    · intro h
      obtain ⟨answer, later, rfl, hlater⟩ := Procedure.yields_ask_iff.mp h
      obtain ⟨rfl, rfl, -⟩ := Procedure.yields_done_iff.mp hlater
      exact ⟨rfl, rfl⟩
    · rintro ⟨rfl, rfl⟩
      exact Procedure.yields_ask_iff.mpr ⟨(), [], rfl, .done ()⟩

theorem performed_reload {result : Except Failure Nat}
    (h : (Enumeration.reload roster).Yields dialogue records (result, after)) :
    Performed roster (⟨.reload, dialogue, records, result⟩ : Event Stream) after := by
  obtain ⟨⟨count, next⟩, hreload, heq⟩ := Procedure.yields_map_iff.mp h
  cases heq
  unfold reload at hreload
  obtain ⟨available, held, cursor⟩ := roster
  cases available with
  | false =>
    obtain ⟨rfl, rfl, heq⟩ := Procedure.yields_done_iff.mp hreload
    cases heq
    exact .unlisted rfl
  | true =>
    obtain ⟨before, later, early, late, middle, rfl, rfl, hrelease, hfetch⟩ :=
      Procedure.yields_andThen_iff.mp hreload
    obtain ⟨rfl, rfl⟩ := (yields_releaseHeld_iff rfl).mp hrelease
    obtain ⟨answer, rest, rfl, hrest⟩ := Procedure.yields_ask_iff.mp hfetch
    obtain ⟨rfl, rfl, heq⟩ := Procedure.yields_done_iff.mp hrest
    cases heq
    exact .listed rfl answer

theorem performed_next {result : Option Device}
    (h : (Enumeration.next roster).Yields dialogue records (result, after)) :
    Performed roster (⟨.next, dialogue, records, result⟩ : Event Stream) after := by
  obtain ⟨rfl, rfl, heq⟩ := Procedure.yields_done_iff.mp h
  unfold next at heq
  cases hdevice : roster.devices[roster.cursor]? with
  | none =>
    rw [show (roster.held.getD [])[roster.cursor]? = none from hdevice] at heq
    cases heq
    exact .exhausted hdevice
  | some device =>
    rw [show (roster.held.getD [])[roster.cursor]? = some device from hdevice] at heq
    cases heq
    exact .met hdevice

theorem performed_connect {index : Nat} {port : UInt16} {result : Except Failure Stream}
    (h : (roster.connect index port).Yields dialogue records result) :
    Performed roster ⟨.connect index port, dialogue, records, result⟩ roster := by
  unfold connect at h
  cases havailable : roster.available with
  | false =>
    simp only [havailable, Bool.false_eq_true, if_false] at h
    obtain ⟨later, rfl, hlater⟩ := Procedure.yields_record_iff.mp h
    obtain ⟨rfl, rfl, rfl⟩ := Procedure.yields_done_iff.mp hlater
    exact .unreached havailable
  | true =>
    cases hdevice : roster.devices[index]? with
    | none =>
      simp only [havailable, if_true,
        show (roster.held.getD [])[index]? = none from hdevice] at h
      obtain ⟨rfl, rfl, rfl⟩ := Procedure.yields_done_iff.mp h
      exact .unknown havailable hdevice
    | some device =>
      simp only [havailable, if_true,
        show (roster.held.getD [])[index]? = some device from hdevice] at h
      obtain ⟨answer, later, rfl, hlater⟩ := Procedure.yields_ask_iff.mp h
      have hdialled := @Performed.dialled Stream roster index port device havailable hdevice answer
      cases answer with
      | ok stream =>
        obtain ⟨rfl, rfl, rfl⟩ := Procedure.yields_done_iff.mp hlater
        exact hdialled
      | error failure =>
        obtain ⟨rest, rfl, hrest⟩ := Procedure.yields_record_iff.mp hlater
        obtain ⟨rfl, rfl, rfl⟩ := Procedure.yields_done_iff.mp hrest
        exact hdialled

theorem performed_disconnect {stream : Stream} {result : Except Failure Unit}
    (h : (roster.disconnect stream).Yields dialogue records result) :
    Performed roster ⟨.disconnect stream, dialogue, records, result⟩ roster := by
  unfold disconnect at h
  cases havailable : roster.available with
  | false =>
    simp only [havailable, Bool.false_eq_true, if_false] at h
    obtain ⟨rfl, rfl, rfl⟩ := Procedure.yields_done_iff.mp h
    exact .notDisconnected havailable
  | true =>
    simp only [havailable, if_true] at h
    obtain ⟨answer, later, rfl, hlater⟩ := Procedure.yields_ask_iff.mp h
    obtain ⟨rfl, rfl, rfl⟩ := Procedure.yields_done_iff.mp hlater
    exact .disconnected havailable _

theorem performed_setDebugLevel {level : UInt8} {result : Unit}
    (h : (roster.setDebugLevel level).Yields dialogue records result) :
    Performed roster (⟨.setDebugLevel level, dialogue, records, result⟩ : Event Stream) roster := by
  unfold setDebugLevel at h
  cases havailable : roster.available with
  | false =>
    simp only [havailable, Bool.false_eq_true, if_false] at h
    obtain ⟨rfl, rfl, rfl⟩ := Procedure.yields_done_iff.mp h
    exact .levelDropped havailable
  | true =>
    simp only [havailable, if_true] at h
    obtain ⟨answer, later, rfl, hlater⟩ := Procedure.yields_ask_iff.mp h
    obtain ⟨rfl, rfl, rfl⟩ := Procedure.yields_done_iff.mp hlater
    exact .levelSet havailable

theorem Step.performed {event : Event Stream} (h : Step roster event after) :
    Performed roster event after := by
  obtain ⟨call, dialogue, records, result⟩ := event
  cases call with
  | reload => exact performed_reload h
  | next => exact performed_next h
  | connect index port =>
    obtain ⟨_, hconnect, heq⟩ := Procedure.yields_map_iff.mp h
    cases heq
    exact performed_connect hconnect
  | disconnect stream =>
    obtain ⟨_, hdisconnect, heq⟩ := Procedure.yields_map_iff.mp h
    cases heq
    exact performed_disconnect hdisconnect
  | setDebugLevel level =>
    obtain ⟨_, hset, heq⟩ := Procedure.yields_map_iff.mp h
    cases heq
    exact performed_setDebugLevel hset

theorem Performed.step {event : Event Stream} (h : Performed roster event after) :
    Step roster event after := by
  obtain ⟨available, held, cursor⟩ := roster
  cases h with
  | unlisted havailable =>
    obtain rfl : available = false := havailable
    exact Procedure.yields_map_iff.mpr ⟨_, .done _, rfl⟩
  | listed havailable answer =>
    obtain rfl : available = true := havailable
    have hrelease := (@yields_releaseHeld_iff Stream ⟨true, held, cursor⟩ _ _ rfl ()).mpr ⟨rfl, rfl⟩
    refine Procedure.yields_map_iff.mpr ⟨(_, ⟨true, answer.toOption, 0⟩), ?_, rfl⟩
    exact hrelease.andThen (Procedure.yields_ask_iff.mpr ⟨answer, [], rfl, .done _⟩)
  | met hsome =>
    refine Procedure.yields_done_iff.mpr ⟨rfl, rfl, ?_⟩
    rw [next, show (held.getD [])[cursor]? = _ from hsome]
  | exhausted hnone =>
    refine Procedure.yields_done_iff.mpr ⟨rfl, rfl, ?_⟩
    rw [next, show (held.getD [])[cursor]? = _ from hnone]
  | unreached havailable =>
    obtain rfl : available = false := havailable
    exact Procedure.yields_map_iff.mpr ⟨_, .record (.done _), rfl⟩
  | unknown havailable hnone =>
    obtain rfl : available = true := havailable
    refine Procedure.yields_map_iff.mpr ⟨_, ?_, rfl⟩
    rw [connect, show (held.getD [])[_]? = _ from hnone]
    exact .done _
  | dialled havailable hsome answer =>
    obtain rfl : available = true := havailable
    refine Procedure.yields_map_iff.mpr ⟨_, ?_, rfl⟩
    rw [connect, show (held.getD [])[_]? = _ from hsome]
    refine Procedure.yields_ask_iff.mpr ⟨answer, [], rfl, ?_⟩
    cases answer with
    | ok stream => exact .done _
    | error failure => exact .record (.done _)
  | notDisconnected havailable =>
    obtain rfl : available = false := havailable
    exact Procedure.yields_map_iff.mpr ⟨_, .done _, rfl⟩
  | disconnected havailable answer =>
    obtain rfl : available = true := havailable
    refine Procedure.yields_map_iff.mpr ⟨answer, ?_, rfl⟩
    exact Procedure.yields_ask_iff.mpr ⟨answer, [], rfl, .done _⟩
  | levelDropped havailable =>
    obtain rfl : available = false := havailable
    exact Procedure.yields_map_iff.mpr ⟨_, .done _, rfl⟩
  | levelSet havailable =>
    obtain rfl : available = true := havailable
    refine Procedure.yields_map_iff.mpr ⟨(), ?_, rfl⟩
    exact Procedure.yields_ask_iff.mpr ⟨(), [], rfl, .done _⟩

/-- The cases that a call can come to are those that do happen. -/
theorem step_iff_performed {event : Event Stream} :
    Step roster event after ↔ Performed roster event after :=
  ⟨Step.performed, Performed.step⟩

theorem Performed.available_eq {event : Event Stream} (h : Performed roster event after) :
    after.available = roster.available := by
  cases h <;> rfl

/-! ## Runs -/

/-- A new roster, over a client or without one. -/
def made (available : Bool) : Roster := if available then overClient else unavailable

/-- A new roster and the calls made on it so far, the earliest first. -/
def Run (available : Bool) (history : List (Event Stream)) (roster : Roster) : Prop :=
  Trace Step (made available) history roster

/-- What the client was asked and answered in the course of some calls. -/
def calls (history : List (Event Stream)) : List (Exchange (clientInterface Stream)) :=
  history.flatMap Event.dialogue

/-- The list that a call on the client handed out. -/
def handedOut? (exchange : Exchange (clientInterface Stream)) : Option (List Device) :=
  match exchange with
  | ⟨ClientCall.listDevices, answer⟩ => (answer : Except Failure (List Device)).toOption
  | _ => none

/-- The list that a call on the client gave back. -/
def givenBack? (exchange : Exchange (clientInterface Stream)) : Option (List Device) :=
  match exchange with
  | ⟨ClientCall.release devices, _⟩ => some devices
  | _ => none

def handedOut (calls : List (Exchange (clientInterface Stream))) : List (List Device) :=
  calls.filterMap handedOut?

def givenBack (calls : List (Exchange (clientInterface Stream))) : List (List Device) :=
  calls.filterMap givenBack?

theorem available_made (available : Bool) : (made available).available = available := by
  cases available <;> rfl

theorem held_made (available : Bool) : (made available).held = none := by
  cases available <;> rfl

theorem Run.available_eq {available : Bool} {history : List (Event Stream)}
    (h : Run available history roster) : roster.available = available := by
  refine Trace.induction_last (motive := fun _ roster => roster.available = available)
    (available_made available) (fun _ hmiddle hstep => ?_) h
  exact hstep.performed.available_eq.trans hmiddle

theorem Performed.idle {event : Event Stream} (h : Performed roster event after)
    (havailable : roster.available = false) :
    event.dialogue = [] ∧ after.held = roster.held := by
  cases h with
  | listed h | dialled h | disconnected h | levelSet h =>
    exact absurd (h.symm.trans havailable) (by decide)
  | _ => exact ⟨rfl, rfl⟩

/-- A roster without a client never holds a list and never calls a client. -/
theorem Run.idle {history : List (Event Stream)} (h : Run false history roster) :
    roster.held = none ∧ calls history = [] := by
  have hidle : roster.available = false ∧ roster.held = none ∧ calls history = [] := by
    refine Trace.induction_last
      (motive := fun history roster =>
        roster.available = false ∧ roster.held = none ∧ calls history = [])
      ⟨rfl, rfl, rfl⟩ ?_ h
    rintro history middle event last - ⟨havailable, hheld, hcalls⟩ hstep
    obtain ⟨hdialogue, hkept⟩ := hstep.performed.idle havailable
    refine ⟨hstep.performed.available_eq.trans havailable, hkept.trans hheld, ?_⟩
    rw [calls, List.flatMap_append, ← calls, hcalls, List.flatMap_singleton, hdialogue]
    rfl
  exact hidle.2

theorem Run.held_of_unavailable {available : Bool} {history : List (Event Stream)}
    (h : Run available history roster) (havailable : roster.available = false) :
    roster.held = none := by
  obtain rfl : available = false := h.available_eq.symm.trans havailable
  exact h.idle.1

/-- Closing gives back what is held and leaves nothing on record. -/
theorem yields_close_iff (h : roster.available = true ∨ roster.held = none) {closed : Roster} :
    (roster.close : Procedure (clientInterface Stream) Roster).Yields dialogue records closed ↔
      dialogue = roster.givingBack ∧ records = [] ∧ closed = { roster with held := none } := by
  have hrelease : (roster.releaseHeld : Procedure (clientInterface Stream) Unit).Yields dialogue
      records () ↔ dialogue = roster.givingBack ∧ records = [] := by
    rcases h with havailable | hheld
    · exact yields_releaseHeld_iff havailable
    · unfold releaseHeld givingBack
      simp [hheld, Procedure.yields_done_iff]
  rw [close, Procedure.yields_map_iff]
  constructor
  · rintro ⟨⟨⟩, hyields, rfl⟩
    obtain ⟨hdialogue, hrecords⟩ := hrelease.mp hyields
    exact ⟨hdialogue, hrecords, rfl⟩
  · rintro ⟨hdialogue, hrecords, rfl⟩
    exact ⟨(), hrelease.mpr ⟨hdialogue, hrecords⟩, rfl⟩

theorem Run.close_iff {available : Bool} {history : List (Event Stream)}
    (h : Run available history roster) {closed : Roster} :
    (roster.close : Procedure (clientInterface Stream) Roster).Yields dialogue records closed ↔
      dialogue = roster.givingBack ∧ records = [] ∧ closed = { roster with held := none } := by
  apply yields_close_iff
  cases havailable : roster.available with
  | true => exact .inl rfl
  | false => exact .inr (h.held_of_unavailable havailable)

/-! ## Runs against a client -/

def carryOut {σ : Type} (client : Procedure.Surroundings (clientInterface Stream) σ) (state : σ)
    (roster : Roster) : List (Call Stream) → List (Event Stream) × Roster
  | [] => ([], roster)
  | call :: calls =>
      let outcome := Procedure.run client state (call.perform roster)
      let later := carryOut client outcome.state outcome.result.2 calls
      (⟨call, Procedure.dialogueWith client state (call.perform roster), outcome.records,
        outcome.result.1⟩ :: later.1, later.2)

/-- Calls made against a client all return, and make a run. -/
theorem trace_carryOut {σ : Type} (client : Procedure.Surroundings (clientInterface Stream) σ)
    (state : σ) (roster : Roster) (calls : List (Call Stream)) :
    Trace Step roster (carryOut client state roster calls).1
      (carryOut client state roster calls).2 := by
  induction calls generalizing state roster with
  | nil => exact .nil roster
  | cons call calls ih =>
    exact .cons (Procedure.yields_dialogueWith client state (call.perform roster)) (ih _ _)

/-- A client that gives prepared answers to requests for a list, in order, and connects
to whatever it is asked to. -/
def preparedClient :
    Procedure.Surroundings (clientInterface Unit) (List (Except Failure (List Device)))
  | .setDebugLevel _, lists => ((), lists)
  | .listDevices, lists => (lists.headD (.ok []), lists.tail)
  | .release _, lists => ((), lists)
  | .connect _ _, lists => (.ok (), lists)
  | .disconnect _, lists => (.ok (), lists)

/-- The run of a new roster over a client with prepared answers. -/
def preparedRun (lists : List (Except Failure (List Device))) (calls : List (Call Unit)) :
    List (Event Unit) × Roster :=
  carryOut preparedClient lists (made true) calls

theorem run_preparedRun (lists : List (Except Failure (List Device))) (calls : List (Call Unit)) :
    Run true (preparedRun lists calls).1 (preparedRun lists calls).2 :=
  trace_carryOut preparedClient lists (made true) calls

def firstDevice : Device := ⟨4, 0x12A8, "a", .usb⟩

def secondDevice : Device := ⟨5, 0x12A8, "b", .network⟩

end Tethered.Mux.Roster
