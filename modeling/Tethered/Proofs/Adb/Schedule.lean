import Tethered.Proofs.Adb.SlotHistory

/-!
# The order in which devices are returned

Between two successful reloads the calls for the next device follow a schedule
that depends only on how many slots are in use: they go round where every slot is
in use and stay behind the last device where one is empty. The cursor moves
before a model is asked for, so no answer about models and no reload that fails
has a part in the order.
-/
namespace Tethered.Adb.SlotTable

open Tool

variable {base table after last : SlotTable} {call : Nat}
variable {dialogue : List (Exchange interface)} {result : Option Device}

/-- The slot that a call is about, counting the calls for the next device since
the last successful reload from zero. -/
def place (used capacity call : Nat) : Nat :=
  if used < capacity ∨ capacity = 0 then min call used else call % capacity

def nextCalls (events : List Event) : Nat := (events.map Event.call).count .next

/-- No reload among the events succeeds. -/
def Quiet (events : List Event) : Prop := ∀ event ∈ events, event.count? = none

/-- The cursor has just been set back: by a reload, or by making the table. -/
def Rewound (history : List Event) : Prop :=
  history = [] ∨ ∃ event, history.getLast? = some event ∧ event.count?.isSome

theorem place_zero (used capacity : Nat) : place used capacity 0 = 0 := by
  unfold place
  split
  · exact Nat.zero_min used
  · exact Nat.zero_mod capacity

theorem place_of_full {used capacity : Nat} (h : used = capacity) (hpos : 0 < capacity)
    (call : Nat) : place used capacity call = call % capacity := by
  unfold place
  rw [if_neg (by omega)]

theorem place_of_room {used capacity : Nat} (h : used < capacity ∨ capacity = 0) (call : Nat) :
    place used capacity call = min call used := if_pos h

/-- The first calls are about the first slots, in both cases. -/
theorem place_of_lt {used capacity call : Nat} (h : used ≤ capacity) (hcall : call < used) :
    place used capacity call = call := by
  by_cases hroom : used < capacity ∨ capacity = 0
  · rw [place_of_room hroom, Nat.min_eq_left (Nat.le_of_lt hcall)]
  · rw [place_of_full (by omega) (by omega), Nat.mod_eq_of_lt (by omega)]

theorem add_one_mod_eq {capacity : Nat} (hpos : 0 < capacity) (call : Nat) :
    (call + 1) % capacity = if capacity ≤ call % capacity + 1 then 0 else call % capacity + 1 := by
  have hlt := Nat.mod_lt call hpos
  have hcall : call + 1 = capacity * (call / capacity) + (call % capacity + 1) := by
    rw [← Nat.add_assoc, Nat.div_add_mod]
  rw [hcall, Nat.mul_add_mod]
  split
  · have heq : call % capacity + 1 = capacity := by omega
    rw [heq, Nat.mod_self]
  · exact Nat.mod_eq_of_lt (by omega)

/-- The schedule is what the cursor does: one slot on past a device, back to the
first slot behind the last. -/
theorem place_succ {used capacity : Nat} (h : used ≤ capacity) (call : Nat) :
    let here := place used capacity call
    let there := if here < used then here + 1 else here
    place used capacity (call + 1) = if capacity ≤ there then 0 else there := by
  intro here there
  by_cases hroom : used < capacity ∨ capacity = 0
  · -- with an empty slot the cursor stops there and never reaches the end
    simp only [there, here, place, if_pos hroom]
    split <;> split <;> omega
  · have hfull : used = capacity := by omega
    have hpos : 0 < capacity := by omega
    have hlt : here < used := by
      rw [show here = call % capacity from place_of_full hfull hpos call, hfull]
      exact Nat.mod_lt call hpos
    rw [place_of_full hfull hpos, add_one_mod_eq hpos, show there = here + 1 from if_pos hlt,
      show here = call % capacity from place_of_full hfull hpos call]

/-- The slots in use come first. -/
def Packed (table : SlotTable) : Prop :=
  ∀ slot, (table.deviceAt slot).isSome ↔ slot < table.devices.length

theorem packed_of_isSome_iff {used : Nat}
    (h : ∀ slot, (table.deviceAt slot).isSome ↔ slot < used) : Packed table := by
  intro slot
  have hdevice := filterMap_id_getElem? h slot
  change table.devices[slot]? = table.deviceAt slot at hdevice
  rw [← hdevice]
  simp

theorem Packed.getElem?_devices (h : Packed table) (slot : Nat) :
    table.devices[slot]? = table.deviceAt slot := filterMap_id_getElem? h slot

theorem Run.packed {config : Config} {history : List Event} (h : Run config history table) :
    Packed table := packed_of_isSome_iff h.filled.1.isSome_iff

theorem length_devices_le (table : SlotTable) : table.devices.length ≤ table.capacity :=
  List.length_filterMap_le id table.slots

/-- A table some calls after its cursor was set back. -/
structure OnSchedule (base table : SlotTable) (call : Nat) : Prop where
  capacity : table.capacity = base.capacity
  identities : ∀ slot,
    (table.deviceAt slot).map Device.identity = (base.deviceAt slot).map Device.identity
  position : table.position = place base.devices.length base.capacity call

theorem OnSchedule.isSome_iff (h : OnSchedule base table call) (hbase : Packed base)
    (slot : Nat) : (table.deviceAt slot).isSome ↔ slot < base.devices.length := by
  have hsome := congrArg Option.isSome (h.identities slot)
  rw [Option.isSome_map, Option.isSome_map] at hsome
  rw [hsome, hbase]

theorem Advanced.isSome_result (h : Advanced table dialogue result after) :
    result.isSome = (table.deviceAt table.position).isSome := by
  cases h with
  | exhausted hnone => rw [hnone]
  | known hsome => rw [hsome]
  | asked hsome => rw [hsome]; rfl

theorem OnSchedule.advanced (h : OnSchedule base table call) (hbase : Packed base)
    (hadvanced : Advanced table dialogue result after) : OnSchedule base after (call + 1) := by
  constructor
  · rw [hadvanced.capacity_eq, h.capacity]
  · intro slot
    rw [hadvanced.identity_eq, h.identities]
  · have hresult : result.isSome ↔ table.position < base.devices.length := by
      rw [hadvanced.isSome_result]
      exact h.isSome_iff hbase _
    have hcursor : after.cursor =
        if table.position < base.devices.length then table.position + 1 else table.position := by
      rw [hadvanced.cursor_eq]
      by_cases hlt : table.position < base.devices.length
      · rw [if_pos hlt, if_pos (hresult.mpr hlt)]
      · rw [if_neg hlt, if_neg (mt hresult.mp hlt)]
    rw [position_eq, hadvanced.capacity_eq, h.capacity, hcursor, h.position,
      place_succ (length_devices_le base)]

theorem nextCalls_cons (event : Event) (events : List Event) :
    nextCalls (event :: events) = nextCalls [event] + nextCalls events := by
  unfold nextCalls
  rw [← List.count_append, ← List.map_append]
  rfl

/-- Reloads that fail leave the schedule alone, whatever calls they come between. -/
theorem OnSchedule.trace {events : List Event} (h : OnSchedule base table call)
    (hbase : Packed base) (htrace : Trace Step table events last) (hquiet : Quiet events) :
    OnSchedule base last (call + nextCalls events) := by
  induction htrace generalizing call with
  | nil => exact h
  | @cons first next last event events hstep _ ih =>
    have hrest : Quiet events := fun other hmem => hquiet other (List.mem_cons_of_mem event hmem)
    rw [nextCalls_cons, ← Nat.add_assoc]
    refine ih ?_ hrest
    cases event with
    | next slot dialogue result => exact h.advanced hbase hstep.advanced.2
    | reload dialogue result =>
      cases result with
      | error failure =>
        rw [hstep.reloaded.eq_of_error]
        exact h
      | ok count => exact nomatch hquiet _ (List.mem_cons_self ..)

theorem Run.cursor_of_rewound {config : Config} {history : List Event}
    (h : Run config history table) (hrewound : Rewound history) : table.cursor = 0 := by
  have htrace := h.trace
  rcases hrewound with rfl | ⟨event, hlast, hcount⟩
  · cases htrace
    rfl
  · obtain ⟨before, rfl⟩ := List.getLast?_eq_some_iff.mp hlast
    obtain ⟨middle, -, hstep⟩ := htrace.split_last
    cases event with
    | next => nomatch hcount
    | reload dialogue result =>
      cases hstep.reloaded with
      | unreachable => nomatch hcount
      | unlisted => nomatch hcount
      | listed => rfl

theorem onSchedule_of_cursor (h : table.cursor = 0) :
    OnSchedule table table 0 := by
  refine ⟨rfl, fun _ => rfl, ?_⟩
  rw [position_eq, place_zero, h]
  exact ite_self 0

/-- A call returned the device of a slot. The slot holds it afterwards, and held
it when the cursor was set back, perhaps with another model. -/
def ReturnsSlot (base after : SlotTable) (slot : Nat) (result : Option Device) : Prop :=
  ∃ held device, base.deviceAt slot = some held ∧ after.deviceAt slot = some device ∧
    result = some device ∧ device.identity = held.identity

theorem OnSchedule.returnsSlot (h : OnSchedule base table call) (hbase : Packed base)
    (hadvanced : Advanced table dialogue result after) :
    let slot := place base.devices.length base.capacity call
    (slot < base.devices.length → ReturnsSlot base after slot result) ∧
      (base.devices.length ≤ slot → result = none) := by
  intro slot
  have hslot : table.position = slot := h.position
  -- what a slot is said to hold by serial number and state outlasts every call
  have hidentity : result.map Device.identity = (base.deviceAt slot).map Device.identity := by
    rw [← hadvanced.deviceAt_position, hadvanced.identity_eq, h.identities, hslot]
  constructor
  · intro hlt
    obtain ⟨held, hheld⟩ := Option.isSome_iff_exists.mp ((hbase slot).mpr hlt)
    rw [hheld, Option.map_some] at hidentity
    obtain ⟨device, hdevice, hsame⟩ := Option.map_eq_some_iff.mp hidentity
    refine ⟨held, device, hheld, ?_, hdevice, hsame⟩
    rw [← hslot, hadvanced.deviceAt_position, hdevice]
  · intro hle
    have hnone : base.deviceAt slot = none :=
      Option.not_isSome_iff_eq_none.mp fun hsome => absurd ((hbase slot).mp hsome) (by omega)
    rw [hnone] at hidentity
    exact Option.map_eq_none_iff.mp hidentity

/-- Two tables that differ at most in the models of their devices. -/
structure Alike (first second : SlotTable) : Prop where
  config : first.config = second.config
  capacity : first.capacity = second.capacity
  cursor : first.cursor = second.cursor
  identities : ∀ slot,
    (first.deviceAt slot).map Device.identity = (second.deviceAt slot).map Device.identity

theorem Alike.position {first second : SlotTable} (h : Alike first second) :
    first.position = second.position := by
  rw [position_eq, position_eq, h.capacity, h.cursor]

theorem Alike.accept {first second : SlotTable} {found : List Listed} (h : Alike first second)
    (hfit : found.length ≤ first.capacity) :
    Alike (first.accept found) (second.accept found) := by
  have hfit' : found.length ≤ second.capacity := h.capacity ▸ hfit
  refine ⟨h.config, ?_, rfl, fun slot => ?_⟩
  · rw [capacity_accept hfit, capacity_accept hfit', h.capacity]
  · by_cases hslot : slot < found.length
    · rw [deviceAt_accept_of_lt hfit hslot, deviceAt_accept_of_lt hfit' hslot]
    · have hle := Nat.le_of_not_lt hslot
      rw [deviceAt_accept_of_le hfit hle, deviceAt_accept_of_le hfit' hle, h.identities]

theorem Alike.reloaded {first second after after' : SlotTable}
    {dialogue dialogue' : List (Exchange interface)} {result result' : Except Failure Nat}
    (h : Alike first second) (hsame : dialogue = dialogue')
    (hfirst : Reloaded first dialogue result after)
    (hsecond : Reloaded second dialogue' result' after') : Alike after after' := by
  cases hfirst with
  | unreachable hfail =>
    cases hsecond with
    | unreachable => exact h
    | unlisted => simp at hsame
    | listed => simp at hsame
  | unlisted hreach hfail =>
    cases hsecond with
    | unreachable => simp at hsame
    | unlisted => exact h
    | listed _ hlisted =>
      rw [← h.config] at hsame hlisted
      cases hsame
      rw [← verdict_eq_ok_iff, hfail] at hlisted
      cases hlisted
  | listed hreach hlisted =>
    cases hsecond with
    | unreachable => simp at hsame
    | unlisted _ hfail =>
      rw [h.config] at hsame hlisted
      cases hsame
      rw [← verdict_eq_ok_iff, hfail] at hlisted
      cases hlisted
    | listed _ hlisted' =>
      rw [h.config] at hsame hlisted
      cases hsame
      rw [hlisted'] at hlisted
      cases hlisted
      rw [← h.capacity]
      exact h.accept (length_listing_le ..)

/-- The next device is the same in tables alike, whatever is answered about models. -/
theorem Alike.advanced {first second after after' : SlotTable}
    {dialogue dialogue' : List (Exchange interface)} {result result' : Option Device}
    (h : Alike first second) (hfirst : Advanced first dialogue result after)
    (hsecond : Advanced second dialogue' result' after') :
    result.map Device.identity = result'.map Device.identity ∧ Alike after after' := by
  have hresult : result.map Device.identity = result'.map Device.identity := by
    rw [← hfirst.deviceAt_position, ← hsecond.deviceAt_position, hfirst.identity_eq,
      hsecond.identity_eq, h.position, h.identities]
  refine ⟨hresult, ⟨?_, ?_, ?_, fun slot => ?_⟩⟩
  · rw [hfirst.config_eq, hsecond.config_eq, h.config]
  · rw [hfirst.capacity_eq, hsecond.capacity_eq, h.capacity]
  · have hsome := congrArg Option.isSome hresult
    rw [Option.isSome_map, Option.isSome_map] at hsome
    rw [hfirst.cursor_eq, hsecond.cursor_eq, hsome, h.position]
  · rw [hfirst.identity_eq, hsecond.identity_eq, h.identities]

/-- A call without what was asked and answered about models. -/
def Event.reloadDialogue? : Event → Option (List (Exchange interface))
  | .reload dialogue _ => some dialogue
  | .next .. => none

def Event.returned? : Event → Option (Option Device)
  | .reload .. => none
  | .next _ _ result => some result

/-- What the calls for the next device returned, in order. -/
def returns (events : List Event) : List (Option Device) := events.filterMap Event.returned?

theorem Alike.trace {first second last last' : SlotTable} {events events' : List Event}
    (h : Alike first second) (hfirst : Trace Step first events last)
    (hsecond : Trace Step second events' last')
    (hsame : events.map Event.reloadDialogue? = events'.map Event.reloadDialogue?) :
    (returns events).map (Option.map Device.identity) =
      (returns events').map (Option.map Device.identity) := by
  induction hfirst generalizing second events' with
  | nil =>
    cases hsecond with
    | nil => rfl
    | cons => nomatch hsame
  | @cons first next last event events hstep _ ih =>
    cases hsecond with
    | nil => nomatch hsame
    | @cons _ next' _ event' events' hstep' hrest' =>
      obtain ⟨hevent, hevents⟩ := List.cons.inj hsame
      cases event with
      | reload dialogue result =>
        cases event' with
        | next => nomatch hevent
        | reload dialogue' result' =>
          have hnext := h.reloaded (Option.some.inj hevent) hstep.reloaded hstep'.reloaded
          have hrest := ih hnext hrest' hevents
          exact hrest
      | next slot dialogue result =>
        cases event' with
        | reload => nomatch hevent
        | next slot' dialogue' result' =>
          obtain ⟨hresult, hnext⟩ := h.advanced hstep.advanced.2 hstep'.advanced.2
          have hrest := ih hnext hrest' hevents
          simp only [returns, List.filterMap_cons, Event.returned?, List.map_cons] at hrest ⊢
          rw [hresult, hrest]

theorem devices_empty (config : Config) : (empty config).devices = [] := by
  unfold devices empty
  rw [List.filterMap_replicate_of_none rfl]

/-- The calls for the next device between two successful reloads go through the
slots in use: once, and then nothing is returned, where a slot is empty; round and
round where none is. The first of them return the list of the reload before. What
is answered about models, and reloads that fail, have no part in it. -/
theorem schedule_of_run (config : Config) :
    (∀ (earlier since : List Event) (base table after : SlotTable) (slot : Nat)
        (dialogue : List (Exchange interface)) (result : Option Device),
      Run config earlier base → Rewound earlier → Trace Step base since table → Quiet since →
      Step table (.next slot dialogue result) after →
      let used := base.devices.length
      let call := nextCalls since
      used ≤ base.capacity ∧
      (used < base.capacity ∨ base.capacity = 0 →
        (call < used → ReturnsSlot base after call result) ∧ (used ≤ call → result = none)) ∧
      (used = base.capacity → 0 < base.capacity →
        ReturnsSlot base after (call % base.capacity) result) ∧
      (∀ before event count, earlier = before ++ [event] → event.count? = some count →
        call < count → ∃ found listed, event.listing? config.deviceLimit = some found ∧
          found[call]? = some listed ∧ result.map Device.identity = some listed.stored) ∧
      (earlier = [] → result = none)) ∧
    ∀ (history history' : List Event) (table table' : SlotTable),
      Run config history table → Run config history' table' →
      history.map Event.reloadDialogue? = history'.map Event.reloadDialogue? →
      (returns history).map (Option.map Device.identity) =
        (returns history').map (Option.map Device.identity) := by
  constructor
  · intro earlier since base table after slot dialogue result hrun hrewound htrace hquiet hstep
      used call
    have hbase := hrun.packed
    have honSchedule := (onSchedule_of_cursor (hrun.cursor_of_rewound hrewound)).trace hbase
      htrace hquiet
    rw [Nat.zero_add] at honSchedule
    obtain ⟨hreturns, hnone⟩ := honSchedule.returnsSlot hbase hstep.advanced.2
    have hle : used ≤ base.capacity := length_devices_le base
    refine ⟨hle, fun hroom => ?_, fun hfull hpos => ?_, ?_, ?_⟩
    · rw [place_of_room hroom] at hreturns hnone
      constructor
      · intro hcall
        rw [Nat.min_eq_left (Nat.le_of_lt hcall)] at hreturns
        exact hreturns hcall
      · intro hcall
        rw [Nat.min_eq_right hcall] at hnone
        exact hnone (Nat.le_refl used)
    · rw [place_of_full hfull hpos] at hreturns
      exact hreturns (Nat.lt_of_lt_of_eq (Nat.mod_lt call hpos) hfull.symm)
    · rintro before event count rfl hcount hcall
      obtain ⟨found, listed, hlisting, hlisted, hwritten⟩ := hrun.deviceAt_of_last hcount hcall
      have hused : call < used := (hbase call).mp (by rw [hwritten]; rfl)
      rw [place_of_lt hle hused] at hreturns
      obtain ⟨held, device, hheld, -, rfl, hsame⟩ := hreturns hused
      rw [hwritten] at hheld
      cases hheld
      exact ⟨found, listed, hlisting, hlisted, congrArg some hsame⟩
    · rintro rfl
      have hempty : used = 0 := by
        have hbegin := hrun.trace
        cases hbegin
        exact congrArg List.length (devices_empty config)
      exact hnone (by rw [show base.devices.length = 0 from hempty]; exact Nat.zero_le _)
  · intro history history' table table' hrun hrun' hsame
    have halike : Alike (empty config) (empty config) := ⟨rfl, rfl, rfl, fun _ => rfl⟩
    exact halike.trace hrun.trace hrun'.trace hsame

def pairRun : List Event × SlotTable :=
  preparedRun (smallConfig 2)
    [printed "" 0, printed "" 0, printed "A\tdevice\nB\tdevice\n" 0] [.reload]

/-- Both devices are met, between them a reload fails, and neither gives a model. -/
def pairLap : List Event × SlotTable :=
  carryOut prepared [printed "" 1, printed "" 1, printed "" 1] pairRun.2 [.next, .reload, .next]

def metPair (first second : Report) : List Event × SlotTable :=
  preparedRun (smallConfig 2)
    [printed "" 0, printed "" 0, printed "A\tdevice\nB\tdevice\n" 0, first, second]
    [.reload, .next, .next]

theorem reloadDialogue_metPair (first second : Report) :
    (metPair first second).1.map Event.reloadDialogue? =
      [some [⟨reconnecting (smallConfig 2), printed "" 0⟩,
        ⟨devicesQuery (smallConfig 2), printed "A\tdevice\nB\tdevice\n" 0⟩], none, none] := rfl

/-- The third call is about the first slot again, and the first two return the two
devices whatever their models. -/
theorem schedule_of_pairRun :
    (Procedure.run prepared [] pairLap.2.next).result.1.map Device.identity =
        some ("A", "device") ∧
      ∀ first second, (returns (metPair first second).1).map (Option.map Device.identity) =
        [some ("A", "device"), some ("B", "device")] := by
  obtain ⟨hschedule, hsame⟩ := schedule_of_run (smallConfig 2)
  constructor
  · have hrewound : Rewound pairRun.1 := .inr ⟨_, rfl, rfl⟩
    have hquiet : Quiet pairLap.1 := by
      unfold Quiet
      decide
    have hrun : Run (smallConfig 2) pairRun.1 pairRun.2 := run_preparedRun _ _ _
    have htrace : Trace Step pairRun.2 pairLap.1 pairLap.2 := trace_carryOut _ _ _ _
    let outcome := Procedure.run prepared [] pairLap.2.next
    obtain ⟨-, -, hfull, -, -⟩ := hschedule pairRun.1 pairLap.1 pairRun.2 pairLap.2
      outcome.result.2 pairLap.2.position _ outcome.result.1 hrun hrewound htrace hquiet
      (step_next prepared [] pairLap.2)
    obtain ⟨held, device, hheld, -, hresult, hidentity⟩ := hfull (by decide) (by decide)
    have hfirst : pairRun.2.deviceAt 0 = some ⟨"A", "device", ""⟩ := by decide
    have hslot : nextCalls pairLap.1 % pairRun.2.capacity = 0 := by decide
    rw [hslot, hfirst] at hheld
    cases hheld
    rw [hresult]
    exact congrArg some hidentity
  · intro first second
    have hfailed := hsame _ _ _ _ (run_preparedRun _ _ _) (run_preparedRun _ _ _)
      ((reloadDialogue_metPair first second).trans
        (reloadDialogue_metPair (printed "" 1) (printed "" 1)).symm)
    exact hfailed.trans (by decide)

end Tethered.Adb.SlotTable
