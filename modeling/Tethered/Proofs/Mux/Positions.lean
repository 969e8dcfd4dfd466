import Tethered.Proofs.Mux.RosterRun

/-!
# One list behind iteration, count and connection

The position of a device in the list of the last reload is all that ties a device
that was returned to the one that is dialled. The list is read from the calls on
the client, not from the roster, and calls in between move neither it nor any
position in it.
-/
namespace Tethered.Mux.Roster

variable {Stream : Type} {roster after : Roster} {available : Bool}
variable {history : List (Event Stream)}

def Event.isReload (event : Event Stream) : Bool :=
  match event.call with
  | .reload => true
  | _ => false

/-- The list of a reload: what its request for a list brought, if anything. -/
def Event.listed? (event : Event Stream) : Option (List Device) :=
  if event.isReload then some ((handedOut event.dialogue).getLast?.getD []) else none

/-- What a call for the next device returned. -/
def Event.returned? : Event Stream → Option (Option Device)
  | ⟨.next, _, _, result⟩ => some result
  | _ => none

/-- The list of the last reload, empty before the first. -/
def lastListed (history : List (Event Stream)) : List Device :=
  (history.filterMap Event.listed?).getLast?.getD []

def sinceReload (history : List (Event Stream)) : List (Event Stream) :=
  (history.reverse.takeWhile fun event => !event.isReload).reverse

/-- What the calls for the next device since the last reload returned, in order. -/
def returned (history : List (Event Stream)) : List (Option Device) :=
  (sinceReload history).filterMap Event.returned?

/-- A request to connect that failed for want of a client or in the client. -/
def FailedConnect (available : Bool) (event : Event Stream) (failure : Failure) : Prop :=
  ∃ index port dialogue records,
    event = ⟨.connect index port, dialogue, records, .error failure⟩ ∧
      (available = false ∨ dialogue ≠ [])

theorem lastListed_append (history : List (Event Stream)) (event : Event Stream) :
    lastListed (history ++ [event]) = event.listed?.getD (lastListed history) := by
  unfold lastListed
  rw [List.filterMap_append, filterMap_cons_eq_append]
  cases event.listed? with
  | none => simp
  | some listed => simp

theorem returned_append (history : List (Event Stream)) (event : Event Stream) :
    returned (history ++ [event]) =
      if event.isReload then [] else returned history ++ event.returned?.toList := by
  unfold returned sinceReload
  rw [List.reverse_append, List.reverse_singleton, List.singleton_append, List.takeWhile_cons]
  cases event.isReload with
  | true => rfl
  | false =>
    simp only [Bool.not_false, if_true, List.reverse_cons, List.filterMap_append,
      filterMap_cons_eq_append, List.filterMap_nil, List.append_nil, Bool.false_eq_true, if_false]

theorem handedOut_reload (roster : Roster) (answer : Except Failure (List Device)) :
    handedOut (roster.givingBack ++
      [(⟨.listDevices, answer⟩ : Exchange (clientInterface Stream))]) =
      answer.toOption.toList := by
  unfold handedOut givingBack
  rw [List.filterMap_append, filterMap_cons_eq_append, List.filterMap_nil, List.append_nil]
  cases roster.held <;> rfl

/-- A roster stands where its calls since the last reload have brought it. -/
structure Positioned (history : List (Event Stream)) (roster : Roster) : Prop where
  devices : roster.devices = lastListed history
  cursor : roster.cursor = min (returned history).length (lastListed history).length
  returned : ∀ (k : Nat) (result : Option Device),
    (returned history)[k]? = some result → result = (lastListed history)[k]?

theorem positioned_made (available : Bool) :
    Positioned ([] : List (Event Stream)) (made available) := by
  refine ⟨?_, ?_, ?_⟩
  · rw [Roster.devices, held_made]
    rfl
  · cases available <;> rfl
  · intro k result hresult
    simp [Roster.returned, sinceReload] at hresult

/-- A call that neither reloads nor returns a device leaves the position alone. -/
theorem Positioned.other {event : Event Stream} (h : Positioned history roster)
    (hreload : event.isReload = false) (hreturned : event.returned? = none) :
    Positioned (history ++ [event]) roster := by
  have hlisted : lastListed (history ++ [event]) = lastListed history := by
    simp [lastListed_append, Event.listed?, hreload]
  have hresults : Roster.returned (history ++ [event]) = Roster.returned history := by
    simp [returned_append, hreload, hreturned]
  constructor
  · rw [hlisted, h.devices]
  · rw [hlisted, hresults, h.cursor]
  · rw [hlisted, hresults]
    exact h.returned

/-- A reload brings a list, and none of its devices has been returned yet. -/
theorem positioned_reload {event : Event Stream} (hreload : event.isReload = true)
    (hdevices : after.devices = (handedOut event.dialogue).getLast?.getD [])
    (hcursor : after.cursor = 0) : Positioned (history ++ [event]) after := by
  have hresults : Roster.returned (history ++ [event]) = [] := by
    simp [returned_append, hreload]
  constructor
  · rw [hdevices, lastListed_append, Event.listed?, if_pos hreload, Option.getD_some]
  · rw [hcursor, hresults, List.length_nil, Nat.zero_min]
  · rw [hresults]
    intro k result hresult
    simp at hresult

/-- A call for the next device returns what stands at the number of calls before it. -/
theorem Positioned.next {result : Option Device} {records : List Record}
    {dialogue : List (Exchange (clientInterface Stream))} (h : Positioned history roster)
    (hresult : result = (lastListed history)[(Roster.returned history).length]?)
    (hdevices : after.devices = roster.devices)
    (hcursor : after.cursor = min ((Roster.returned history).length + 1)
      (lastListed history).length) :
    Positioned (history ++ [⟨.next, dialogue, records, result⟩]) after := by
  have hlisted : lastListed (history ++ [⟨.next, dialogue, records, result⟩]) =
      lastListed history := lastListed_append ..
  have hresults : Roster.returned (history ++ [⟨.next, dialogue, records, result⟩]) =
      Roster.returned history ++ [result] := returned_append ..
  constructor
  · rw [hlisted, hdevices, h.devices]
  · rw [hlisted, hresults, List.length_append, List.length_singleton, hcursor]
  · rw [hlisted, hresults]
    intro k given hgiven
    by_cases hk : k < (Roster.returned history).length
    · rw [List.getElem?_append_left hk] at hgiven
      exact h.returned k given hgiven
    · rw [List.getElem?_append_right (Nat.le_of_not_lt hk)] at hgiven
      obtain ⟨hlast, rfl⟩ := List.getElem?_eq_some_iff.mp hgiven
      have hlength : k - (Roster.returned history).length < 1 := hlast
      rw [List.getElem_singleton, hresult, show (Roster.returned history).length = k by omega]

theorem Positioned.step {event : Event Stream} (h : Positioned history roster)
    (hheld : roster.available = false → roster.held = none)
    (hperformed : Performed roster event after) : Positioned (history ++ [event]) after := by
  have hcursor := h.cursor
  cases hperformed with
  | unlisted havailable =>
    refine positioned_reload rfl ?_ rfl
    rw [Roster.devices, hheld havailable]
    rfl
  | listed havailable answer =>
    refine positioned_reload rfl ?_ rfl
    rw [handedOut_reload]
    cases answer <;> rfl
  | met hsome =>
    rw [h.devices] at hsome
    obtain ⟨hlt, -⟩ := List.getElem?_eq_some_iff.mp hsome
    have hcalls : (Roster.returned history).length = roster.cursor := by omega
    refine h.next ?_ rfl ?_
    · rw [hcalls, hsome]
    · rw [hcalls]
      exact (Nat.min_eq_left hlt).symm
  | exhausted hnone =>
    rw [h.devices] at hnone
    have hle := List.getElem?_eq_none_iff.mp hnone
    refine h.next ?_ rfl ?_
    · exact (List.getElem?_eq_none (by omega)).symm
    · omega
  | _ => exact h.other rfl rfl

/-- The list that was read from the calls on the client is the one that the roster
goes by, after any calls. -/
theorem Run.positioned (h : Run available history roster) : Positioned history roster := by
  refine Trace.induction_last (motive := fun history roster => Positioned history roster)
    (positioned_made available) (fun hbefore hmiddle hstep => ?_) h
  exact hmiddle.step (Run.held_of_unavailable hbefore) hstep.performed

theorem Performed.records_of_failed {event : Event Stream} {failure : Failure}
    (h : Performed roster event after) (hfailed : FailedConnect roster.available event failure) :
    event.records = [⟨.error, if roster.available then
      "usbmuxd connect failed: " ++ failure.message else "usbmuxd client not available"⟩] := by
  obtain ⟨index, port, dialogue, records, rfl, hreached⟩ := hfailed
  generalize hresult : (Except.error failure : Except Failure Stream) = result at h
  cases h with
  | unreached havailable =>
    rw [havailable]
    rfl
  | unknown havailable =>
    rw [havailable] at hreached
    exact absurd hreached (by simp)
  | dialled havailable =>
    subst hresult
    rw [havailable]
    rfl

theorem Performed.records_of_not_failed {event : Event Stream} (h : Performed roster event after)
    (hfailed : ∀ failure, ¬ FailedConnect roster.available event failure) :
    event.records = [] := by
  cases h with
  | unreached havailable =>
    exact absurd ⟨_, _, _, _, rfl, .inl havailable⟩ (hfailed .unavailable)
  | dialled havailable hsome answer =>
    cases answer with
    | ok stream => rfl
    | error failure =>
      exact absurd ⟨_, _, _, _, rfl, .inr (List.cons_ne_nil _ _)⟩ (hfailed failure)
  | _ => rfl

theorem Positioned.reload_eq {result : Except Failure Nat} {records : List Record}
    {dialogue : List (Exchange (clientInterface Stream))}
    (h : Positioned (history ++ [⟨.reload, dialogue, records, result⟩]) after)
    (hheld : roster.available = false → roster.held = none)
    (hperformed : Performed roster (⟨.reload, dialogue, records, result⟩ : Event Stream) after) :
    result = .ok (lastListed (history ++ [⟨.reload, dialogue, records, result⟩])).length := by
  rw [← h.devices]
  cases hperformed with
  | unlisted havailable =>
    rw [Roster.devices, hheld havailable]
    rfl
  | listed => rfl

/-- A request to connect goes by the list of the last reload, and moves nothing. -/
theorem Positioned.connect_iff (h : Positioned history roster) {index : Nat} {port : UInt16}
    {dialogue : List (Exchange (clientInterface Stream))} {records : List Record}
    {result : Except Failure Stream} :
    Performed roster ⟨.connect index port, dialogue, records, result⟩ after ↔
      after = roster ∧
      ((roster.available = false ∧ dialogue = [] ∧ records = [unreachedRecord] ∧
          result = .error .unavailable) ∨
        (roster.available = true ∧ (lastListed history).length ≤ index ∧ dialogue = [] ∧
          records = [] ∧ result = .error (.noSuchDevice index (lastListed history).length)) ∨
        (roster.available = true ∧ records = connectRecords result ∧
          ∃ hindex : index < (lastListed history).length,
            dialogue = [⟨.connect (lastListed history)[index].handle port, result⟩])) := by
  rw [← h.devices]
  constructor
  · intro hperformed
    cases hperformed with
    | unreached havailable => exact ⟨rfl, .inl ⟨havailable, rfl, rfl, rfl⟩⟩
    | unknown havailable hnone =>
      exact ⟨rfl, .inr (.inl ⟨havailable, List.getElem?_eq_none_iff.mp hnone, rfl, rfl, rfl⟩)⟩
    | dialled havailable hsome =>
      obtain ⟨hindex, rfl⟩ := List.getElem?_eq_some_iff.mp hsome
      exact ⟨rfl, .inr (.inr ⟨havailable, rfl, hindex, rfl⟩)⟩
  · rintro ⟨rfl, ⟨havailable, rfl, rfl, rfl⟩ | ⟨havailable, hindex, rfl, rfl, rfl⟩ |
      ⟨havailable, rfl, hindex, rfl⟩⟩
    · exact .unreached havailable
    · exact .unknown havailable (List.getElem?_eq_none hindex)
    · exact .dialled havailable (List.getElem?_eq_getElem hindex) result

/-- A device that was returned is dialled by the number of calls that came before. -/
theorem Run.dialled_of_returned (h : Run available history roster) {index : Nat} {port : UInt16}
    {device : Device} {dialogue : List (Exchange (clientInterface Stream))} {records : List Record}
    {result : Except Failure Stream} (hmet : (returned history)[index]? = some (some device))
    (hstep : Step roster ⟨.connect index port, dialogue, records, result⟩ after) :
    dialogue = [⟨.connect device.handle port, result⟩] := by
  have hlisted : (lastListed history)[index]? = some device :=
    (h.positioned.returned index _ hmet).symm
  obtain ⟨hindex, rfl⟩ := List.getElem?_eq_some_iff.mp hlisted
  obtain ⟨-, ⟨hunavailable, -⟩ | ⟨-, hle, -⟩ | ⟨-, -, -, rfl⟩⟩ :=
    h.positioned.connect_iff.mp hstep.performed
  · -- without a client nothing was returned
    have hdevices := h.positioned.devices
    rw [Roster.devices, h.held_of_unavailable hunavailable, Option.getD_none] at hdevices
    exact absurd hindex (by simp [← hdevices])
  · exact absurd hindex (Nat.not_lt.mpr hle)
  · rfl

/-- Count, iteration and connection go by the list of the last reload, whatever was
called since. A call for the next device returns what stands at the number of such
calls before it; a request to connect dials what stands at its index, or nothing.
Only a request to connect that fails for want of a client or in the client is put on
record. -/
theorem positions_of_run (h : Run available history roster) :
    let listed := lastListed history
    roster.count = listed.length ∧
    (∀ (k : Nat) (result : Option Device),
      (returned history)[k]? = some result → result = listed[k]?) ∧
    (∀ answer : Except Failure (List Device), ∃ dialogue after,
      Step roster (⟨.reload, dialogue, [],
        .ok (if available then (answer.toOption.getD []).length else 0)⟩ : Event Stream) after) ∧
    (∀ dialogue records result after,
      Step roster (⟨.reload, dialogue, records, result⟩ : Event Stream) after →
      result = .ok (lastListed (history ++ [⟨.reload, dialogue, records, result⟩])).length) ∧
    (∀ index port dialogue records result after,
      Step roster (⟨.connect index port, dialogue, records, result⟩ : Event Stream) after ↔
      after = roster ∧
      ((available = false ∧ dialogue = [] ∧ records = [unreachedRecord] ∧
          result = .error .unavailable) ∨
        (available = true ∧ listed.length ≤ index ∧ dialogue = [] ∧ records = [] ∧
          result = .error (.noSuchDevice index listed.length)) ∨
        (available = true ∧ records = connectRecords result ∧
          ∃ hindex : index < listed.length,
            dialogue = [⟨.connect listed[index].handle port, result⟩]))) ∧
    (∀ index device port dialogue records result after,
      (returned history)[index]? = some (some device) →
      Step roster (⟨.connect index port, dialogue, records, result⟩ : Event Stream) after →
      dialogue = [⟨.connect device.handle port, result⟩]) ∧
    (∀ (event : Event Stream) (after : Roster), Step roster event after →
      (∀ failure, FailedConnect available event failure → event.records =
        [⟨.error, if available then "usbmuxd connect failed: " ++ failure.message
          else "usbmuxd client not available"⟩]) ∧
      ((∀ failure, ¬ FailedConnect available event failure) → event.records = [])) ∧
    (∀ dialogue records closed,
      (roster.close : Procedure (clientInterface Stream) Roster).Yields dialogue records closed →
      records = []) := by
  intro listed
  have hpositioned := h.positioned
  have havailable : roster.available = available := h.available_eq
  have hconnect (index : Nat) (port : UInt16) dialogue records (result : Except Failure Stream)
      (after : Roster) :=
    (@step_iff_performed _ _ after ⟨.connect index port, dialogue, records, result⟩).trans
      hpositioned.connect_iff
  rw [havailable] at hconnect
  refine ⟨congrArg List.length hpositioned.devices, hpositioned.returned, ?_, ?_, hconnect,
    fun _ _ _ _ _ _ _ hmet hstep => h.dialled_of_returned hmet hstep, ?_, ?_⟩
  · intro answer
    cases available with
    | false => exact ⟨_, _, (Performed.unlisted havailable).step⟩
    | true => exact ⟨_, _, (Performed.listed havailable answer).step⟩
  · intro dialogue records result after hstep
    have hperformed := hstep.performed
    have hafter := hpositioned.step h.held_of_unavailable hperformed
    exact hafter.reload_eq h.held_of_unavailable hperformed
  · -- the two cases that leave a record are the two that make a failed connection
    intro event after hstep
    have hfailed (failure : Failure) := @Performed.records_of_failed _ _ _ event failure
      hstep.performed
    have hquiet := hstep.performed.records_of_not_failed
    rw [havailable] at hfailed hquiet
    exact ⟨hfailed, hquiet⟩
  · intro dialogue records closed hclose
    exact (h.close_iff.mp hclose).2.1

/-- A list with a device that was listed before under another place, then exhausted. -/
def iteratedRun : List (Event Unit) × Roster :=
  preparedRun [.ok [firstDevice], .ok [secondDevice, firstDevice]]
    [.reload, .next, .reload, .next, .connect 7 80, .next, .next]

theorem positions_of_iteratedRun :
    Run true iteratedRun.1 iteratedRun.2 ∧
      lastListed iteratedRun.1 = [secondDevice, firstDevice] ∧
      returned iteratedRun.1 = [some secondDevice, some firstDevice, none] ∧
      iteratedRun.2.count = 2 ∧
      ∀ dialogue records (result : Except Failure Unit) after,
        Step iteratedRun.2 ⟨.connect 1 80, dialogue, records, result⟩ after →
        dialogue = [⟨.connect 4 80, result⟩] := by
  have hrun : Run true iteratedRun.1 iteratedRun.2 := run_preparedRun _ _
  have hlisted : lastListed iteratedRun.1 = [secondDevice, firstDevice] := by decide
  have hreturned : returned iteratedRun.1 = [some secondDevice, some firstDevice, none] := by decide
  obtain ⟨hcount, -, -, -, -, hdialled, -⟩ := positions_of_run hrun
  refine ⟨hrun, hlisted, hreturned, ?_, ?_⟩
  · rw [hcount, hlisted]
    rfl
  · intro dialogue records result after hstep
    exact hdialled 1 firstDevice 80 dialogue records result after (by rw [hreturned]; rfl) hstep

end Tethered.Mux.Roster
