import Tethered.Proofs.Adb.Schedule
import Tethered.Proofs.Mux.RosterRun

/-!
# Going through a table until there is no device

Whoever goes through a table asks for the next device until there is none. A walk
tells of a kind of table which entry a call is about, and from one call follows what
any number of calls returns and leaves. The list of a roster is gone through in this
way. So are the slots of a table that has one left empty; where every slot is in use
the calls go round and there is always a next device.
-/
namespace Tethered.Enumeration

variable {I : Interface} {Table Device : Type} [Enumeration I Table Device]

/-- A call for the next device can return this and leave that. -/
def Gives (I : Interface) [Enumeration I Table Device] (table : Table) (result : Option Device)
    (after : Table) : Prop :=
  ∃ dialogue records,
    (next table : Procedure I (Option Device × Table)).Yields dialogue records (result, after)

/-- Calls for the next device up to a limit or to the first that returns none can come to
these devices and leave that. -/
def Takes (I : Interface) [Enumeration I Table Device] (limit : Nat) (table : Table)
    (devices : List Device) (last : Table) : Prop :=
  ∃ dialogue records,
    (take limit table : Procedure I (List Device × Table)).Yields dialogue records (devices, last)

variable {table last : Table} {devices : List Device} {limit : Nat}

theorem eq_of_takes_zero (h : Takes I 0 table devices last) : devices = [] ∧ last = table := by
  obtain ⟨dialogue, records, hyields⟩ := h
  obtain ⟨-, -, heq⟩ := Procedure.yields_done_iff.mp hyields
  exact Prod.mk.inj heq

/-- The first of some calls ends them or is followed by the others. -/
theorem gives_of_takes_succ (h : Takes I (limit + 1) table devices last) :
    (Gives I table none last ∧ devices = []) ∨
      ∃ device middle rest, Gives I table (some device) middle ∧
        Takes I limit middle rest last ∧ devices = device :: rest := by
  obtain ⟨dialogue, records, hyields⟩ := h
  obtain ⟨before, after, early, late, ⟨result, middle⟩, rfl, rfl, hfirst, hrest⟩ :=
    Procedure.yields_andThen_iff.mp hyields
  cases result with
  | none =>
    obtain ⟨rfl, rfl, heq⟩ := Procedure.yields_done_iff.mp hrest
    cases heq
    exact .inl ⟨⟨before, early, hfirst⟩, rfl⟩
  | some device =>
    obtain ⟨⟨rest, final⟩, htake, heq⟩ := Procedure.yields_map_iff.mp hrest
    cases heq
    exact .inr ⟨device, middle, rest, ⟨before, early, hfirst⟩, ⟨after, late, htake⟩, rfl⟩

theorem takes_run {σ : Type} (surroundings : Procedure.Surroundings I σ) (state : σ)
    (limit : Nat) (table : Table) :
    let outcome := (take limit table).run surroundings state
    Takes I limit table outcome.result.1 outcome.result.2 :=
  ⟨_, _, Procedure.yields_dialogueWith surroundings state (take limit table)⟩

/-! ## Walks -/

/-- A kind of table of which is known, after some calls, which entry the next call is about:
it returns that entry, perhaps changed, and moves on to the one behind it. -/
structure Walk (I : Interface) [Enumeration I Table Device] (entries : Table → List Device)
    (stands : Table → Nat → Prop) : Prop where
  met : ∀ {table after : Table} {place : Nat} {result : Option Device},
    stands table place → place < (entries table).length → Gives I table result after →
      ∃ device, result = some device ∧ entries after = (entries table).set place device ∧
        stands after (place + 1)

/-- Behind the last entry there is no next device. -/
structure Ends (I : Interface) [Enumeration I Table Device] (entries : Table → List Device)
    (stands : Table → Nat → Prop) : Prop where
  exhausted : ∀ {table after : Table} {place : Nat} {result : Option Device},
    stands table place → (entries table).length ≤ place → Gives I table result after →
      result = none ∧ entries after = entries table

variable {entries : Table → List Device} {stands : Table → Nat → Prop} {place : Nat}

/-- The calls of a walk return the entries that it leaves, each once and in order. Where
there may be no next device, they go on to the last entry and not further. -/
theorem Walk.takes (hwalk : Walk I entries stands) (hstands : stands table place)
    (hend : place + limit ≤ (entries table).length ∨ Ends I entries stands)
    (h : Takes I limit table devices last) :
    devices = ((entries last).drop place).take limit ∧
      (entries last).take place = (entries table).take place := by
  induction limit generalizing table place devices with
  | zero =>
    obtain ⟨rfl, rfl⟩ := eq_of_takes_zero h
    exact ⟨List.take_zero.symm, rfl⟩
  | succ limit ih =>
    by_cases hplace : place < (entries table).length
    · rcases gives_of_takes_succ h with ⟨hgives, -⟩ | ⟨device, middle, rest, hgives, hrest, rfl⟩
      · obtain ⟨_, hnone, -⟩ := hwalk.met hstands hplace hgives
        cases hnone
      · obtain ⟨_, hsome, hentries, hmiddle⟩ := hwalk.met hstands hplace hgives
        cases hsome
        have hend' : place + 1 + limit ≤ (entries middle).length ∨ Ends I entries stands := by
          rw [hentries, List.length_set]
          exact hend.imp_left fun hle => by omega
        obtain ⟨rfl, hkept⟩ := ih hmiddle hend' hrest
        have hdevice : (entries last)[place]? = some device := by
          rw [← List.getElem?_take_of_lt (Nat.lt_succ_self place), hkept, hentries,
            List.getElem?_take_of_lt (Nat.lt_succ_self place), List.getElem?_set_self hplace]
        have hdrop : (entries last).drop place = device :: (entries last).drop (place + 1) := by
          rw [List.drop_eq_getElem?_toList_append, hdevice]
          rfl
        constructor
        · rw [hdrop, List.take_succ_cons]
        · have htake := congrArg (List.take place) hkept
          rwa [List.take_take, List.take_take, Nat.min_eq_left (Nat.le_succ place), hentries,
            List.take_set_of_le (Nat.le_refl place)] at htake
    · have hends : Ends I entries stands := hend.resolve_left (by omega)
      have hle := Nat.le_of_not_lt hplace
      rcases gives_of_takes_succ h with ⟨hgives, rfl⟩ | ⟨device, middle, rest, hgives, hrest, -⟩
      · obtain ⟨-, hsame⟩ := hends.exhausted hstands hle hgives
        rw [hsame, List.drop_eq_nil_of_le hle]
        exact ⟨rfl, rfl⟩
      · obtain ⟨hnone, -⟩ := hends.exhausted hstands hle hgives
        cases hnone

/-- What every call keeps is kept by any number of them. -/
theorem Takes.invariant (holds : Table → Prop)
    (hgives : ∀ {table after : Table} {result : Option Device},
      holds table → Gives I table result after → holds after)
    (h : Takes I limit table devices last) (hfirst : holds table) : holds last := by
  induction limit generalizing table devices with
  | zero =>
    obtain ⟨-, rfl⟩ := eq_of_takes_zero h
    exact hfirst
  | succ limit ih =>
    rcases gives_of_takes_succ h with ⟨hnone, -⟩ | ⟨device, middle, rest, hsome, hrest, -⟩
    · exact hgives hfirst hnone
    · exact ih hrest (hgives hfirst hsome)

/-- Where there is always a next device, calls end at their limit only. -/
theorem Takes.length_eq (holds : Table → Prop)
    (hgives : ∀ {table after : Table} {result : Option Device},
      holds table → Gives I table result after → result.isSome ∧ holds after)
    (h : Takes I limit table devices last) (hfirst : holds table) : devices.length = limit := by
  induction limit generalizing table devices with
  | zero => rw [(eq_of_takes_zero h).1, List.length_nil]
  | succ limit ih =>
    rcases gives_of_takes_succ h with ⟨hnone, -⟩ | ⟨device, middle, rest, hsome, hrest, rfl⟩
    · cases (hgives hfirst hnone).1
    · rw [List.length_cons, ih hrest (hgives hfirst hsome).2]

end Tethered.Enumeration

namespace Tethered.Adb.SlotTable

open Enumeration Tool

variable {base table after : SlotTable} {call : Nat} {result : Option Device}

/-! ## The slots of a table -/

theorem advanced_of_gives (h : Gives interface table result after) :
    ∃ dialogue, Advanced table dialogue result after := by
  obtain ⟨dialogue, records, hyields⟩ := h
  exact ⟨dialogue, advanced_of_yields hyields⟩

namespace OnSchedule

theorem packed (h : OnSchedule base table call) (hbase : Packed base) : Packed table :=
  packed_of_isSome_iff (h.isSome_iff hbase)

theorem map_identity_devices (h : OnSchedule base table call) (hbase : Packed base) :
    table.devices.map Device.identity = base.devices.map Device.identity := by
  apply List.ext_getElem?
  intro slot
  rw [List.getElem?_map, List.getElem?_map, (h.packed hbase).getElem?_devices,
    hbase.getElem?_devices, h.identities]

theorem length_devices (h : OnSchedule base table call) (hbase : Packed base) :
    table.devices.length = base.devices.length := by
  have hlength := congrArg List.length (h.map_identity_devices hbase)
  rwa [List.length_map, List.length_map] at hlength

end OnSchedule

/-- The first calls after the cursor was set back are about the devices in order. -/
theorem walk_onSchedule (hbase : Packed base) :
    Walk interface devices (OnSchedule base) := by
  constructor
  intro table after call result hstands hcall hgives
  obtain ⟨dialogue, hadvanced⟩ := advanced_of_gives hgives
  have hafter := hstands.advanced hbase hadvanced
  have hposition : table.position = call := by
    rw [hstands.length_devices hbase] at hcall
    rw [hstands.position, place_of_lt (length_devices_le base) hcall]
  have hsome : result.isSome := by
    rw [hadvanced.isSome_result, hposition]
    exact (hstands.packed hbase call).mpr hcall
  obtain ⟨device, rfl⟩ := Option.isSome_iff_exists.mp hsome
  refine ⟨device, rfl, List.ext_getElem? fun slot => ?_, hafter⟩
  rw [(hafter.packed hbase).getElem?_devices]
  by_cases hslot : slot = call
  · rw [hslot, List.getElem?_set_self hcall, ← hadvanced.deviceAt_position, hposition]
  · rw [List.getElem?_set_ne (Ne.symm hslot), (hstands.packed hbase).getElem?_devices,
      hadvanced.deviceAt_of_ne (hposition ▸ hslot)]

/-- A slot that is left empty ends the walk, as does a table without slots. -/
theorem ends_onSchedule (hbase : Packed base)
    (hroom : base.devices.length < base.capacity ∨ base.capacity = 0) :
    Ends interface devices (OnSchedule base) := by
  constructor
  intro table after call result hstands hcall hgives
  obtain ⟨dialogue, hadvanced⟩ := advanced_of_gives hgives
  rw [hstands.length_devices hbase] at hcall
  have hnone : table.deviceAt table.position = none := by
    rw [hstands.position, place_of_room hroom, Nat.min_eq_right hcall,
      ← (hstands.packed hbase).getElem?_devices]
    exact List.getElem?_eq_none (Nat.le_of_eq (hstands.length_devices hbase))
  cases hadvanced with
  | exhausted => exact ⟨rfl, by rw [devices, wrapped_slots]; rfl⟩
  | known hsome => rw [hnone] at hsome; cases hsome
  | asked hsome => rw [hnone] at hsome; cases hsome

/-- A table some calls after the cursor was set back on another. -/
def ComesFrom (base table : SlotTable) : Prop := ∃ call, OnSchedule base table call

theorem comesFrom_of_gives (hbase : Packed base) (h : ComesFrom base table)
    (hgives : Gives interface table result after) : ComesFrom base after := by
  obtain ⟨call, hstands⟩ := h
  obtain ⟨dialogue, hadvanced⟩ := advanced_of_gives hgives
  exact ⟨call + 1, hstands.advanced hbase hadvanced⟩

/-- Where every slot is in use there is always a next device. -/
theorem isSome_of_full (hbase : Packed base) (hfull : base.devices.length = base.capacity)
    (hpos : 0 < base.capacity) (h : ComesFrom base table)
    (hgives : Gives interface table result after) : result.isSome ∧ ComesFrom base after := by
  refine ⟨?_, comesFrom_of_gives hbase h hgives⟩
  obtain ⟨call, hstands⟩ := h
  obtain ⟨dialogue, hadvanced⟩ := advanced_of_gives hgives
  rw [hadvanced.isSome_result, hstands.position, place_of_full hfull hpos, hstands.isSome_iff hbase,
    hfull]
  exact Nat.mod_lt call hpos

theorem cursor_of_reload {dialogue : List (Exchange interface)} {records : List Record}
    {count : Nat} (h : table.reload.Yields dialogue records (.ok count, after)) :
    after.cursor = 0 := by
  cases reloaded_of_yields h
  rfl

end Tethered.Adb.SlotTable

namespace Tethered.Mux.Roster

open Enumeration

variable {Stream : Type}

/-! ## The list of a roster -/

/-- How many devices the calls since the last reload have returned. -/
def Passed (roster : Roster) (place : Nat) : Prop := roster.cursor = place

theorem walk_passed : Walk (clientInterface Stream) devices Passed := by
  constructor
  intro roster after place result hstands hplace hgives
  obtain rfl : roster.cursor = place := hstands
  obtain ⟨dialogue, records, hyields⟩ := hgives
  cases performed_next hyields with
  | @met device hsome =>
    obtain ⟨hlt, rfl⟩ := List.getElem?_eq_some_iff.mp hsome
    exact ⟨_, rfl, (List.set_getElem_self hlt).symm, rfl⟩
  | exhausted hnone =>
    rw [List.getElem?_eq_none_iff] at hnone
    omega

theorem ends_passed : Ends (clientInterface Stream) devices Passed := by
  constructor
  intro roster after place result hstands hplace hgives
  obtain rfl : roster.cursor = place := hstands
  obtain ⟨dialogue, records, hyields⟩ := hgives
  cases performed_next hyields with
  | @met device hsome =>
    have hlt := (List.getElem?_eq_some_iff.mp hsome).1
    omega
  | exhausted hnone => exact ⟨rfl, rfl⟩

/-- A call returns a device of the list and leaves the list. -/
theorem devices_of_gives {roster after : Roster} {result : Option Device}
    (h : Gives (clientInterface Stream) roster result after) :
    after.devices = roster.devices := by
  obtain ⟨dialogue, records, hyields⟩ := h
  cases performed_next hyields <;> rfl

theorem cursor_of_reload {roster after : Roster} {result : Except Failure Nat}
    {dialogue : List (Exchange (clientInterface Stream))} {records : List Record}
    (h : (Enumeration.reload roster).Yields dialogue records (result, after)) :
    after.cursor = 0 := by
  cases performed_reload h <;> rfl

end Tethered.Mux.Roster

namespace Tethered.Enumeration

open Adb (SlotTable)
open Mux (Roster)

/-- Whoever asks a table of slots for the next device after a reload that succeeded gets the
devices in use, each once and in order, with what was learnt of their models since. Where
a slot is empty, or there are no slots, there is none behind the last of them. Where every
slot is in use the calls begin again and there is always one. After a reload of a roster
the devices of its list are returned, each once and in order, and then none. No answer of
the surroundings changes this, and no call fails to return. -/
theorem taken_after_reload :
    (∀ {config : Adb.Config} {history : List SlotTable.Event} {table after : SlotTable}
        {dialogue : List (Exchange Tool.interface)} {records : List Record} {count : Nat},
      SlotTable.Run config history table →
      (reload table : Procedure Tool.interface _).Yields dialogue records (.ok count, after) →
      ∀ {σ : Type} (surroundings : Procedure.Surroundings Tool.interface σ) (state : σ)
        (limit : Nat),
        let taken := ((take limit after).run surroundings state).result
        let used := after.devices.length
        taken.2.devices.map Adb.Device.identity = after.devices.map Adb.Device.identity ∧
        (limit ≤ used ∨ used < after.capacity ∨ after.capacity = 0 →
          taken.1 = taken.2.devices.take limit) ∧
        (used = after.capacity → 0 < after.capacity → taken.1.length = limit)) ∧
    ∀ {Stream : Type} {roster after : Roster}
        {dialogue : List (Exchange (Mux.clientInterface Stream))} {records : List Record}
        {count : Nat},
      (reload roster : Procedure (Mux.clientInterface Stream) _).Yields dialogue records
        (.ok count, after) →
      ∀ {σ : Type} (client : Procedure.Surroundings (Mux.clientInterface Stream) σ) (state : σ)
        (limit : Nat),
        let taken := ((take limit after).run client state).result
        taken.1 = after.devices.take limit ∧ taken.2.devices = after.devices := by
  constructor
  · intro config history table after dialogue records count hrun hreload σ surroundings state
      limit taken used
    have hbase : SlotTable.Packed after :=
      (hrun.append (.cons (.reload hreload) (.nil after))).packed
    have hstands := SlotTable.onSchedule_of_cursor (SlotTable.cursor_of_reload hreload)
    have htakes := takes_run surroundings state limit after
    obtain ⟨call, hlast⟩ := htakes.invariant (SlotTable.ComesFrom after)
      (SlotTable.comesFrom_of_gives hbase) ⟨0, hstands⟩
    refine ⟨hlast.map_identity_devices hbase, fun hlimit => ?_, fun hfull hpos => ?_⟩
    · have hend : 0 + limit ≤ after.devices.length ∨
          Ends Tool.interface SlotTable.devices (SlotTable.OnSchedule after) :=
        hlimit.imp (fun hle => by omega) (SlotTable.ends_onSchedule hbase)
      exact ((SlotTable.walk_onSchedule hbase).takes hstands hend htakes).1
    · exact htakes.length_eq (SlotTable.ComesFrom after)
        (SlotTable.isSome_of_full hbase hfull hpos) ⟨0, hstands⟩
  · intro Stream roster after dialogue records count hreload σ client state limit taken
    have hstands : Roster.Passed after 0 := Roster.cursor_of_reload hreload
    have htakes := takes_run client state limit after
    have hkept := htakes.invariant (fun roster => roster.devices = after.devices)
      (fun hsame hgives => (Roster.devices_of_gives hgives).trans hsame) rfl
    obtain ⟨htaken, -⟩ := Roster.walk_passed.takes hstands (.inr Roster.ends_passed) htakes
    rw [hkept] at htaken
    exact ⟨htaken, hkept⟩

/-- What reloading a new table of some slots comes to where one device is listed. -/
def reloadedOnce (slots : Nat) : Except Failure Nat × SlotTable :=
  ((SlotTable.empty (SlotTable.smallConfig slots)).reload.run SlotTable.prepared
    [SlotTable.printed "" 0, SlotTable.printed "A\tdevice\n" 0]).result

theorem run_empty (slots : Nat) :
    SlotTable.Run (SlotTable.smallConfig slots) [] (.empty (SlotTable.smallConfig slots)) :=
  SlotTable.run_preparedRun (SlotTable.smallConfig slots) [] []

theorem reload_reloadedOnce {slots : Nat} (h : (reloadedOnce slots).1 = .ok 1) :
    ∃ dialogue records, (reload (SlotTable.empty (SlotTable.smallConfig slots)) :
      Procedure Tool.interface _).Yields dialogue records (.ok 1, (reloadedOnce slots).2) := by
  rw [← h]
  exact ⟨_, _, Procedure.yields_dialogueWith _ _ _⟩

/-- Asking a table of one slot for the next device until there is none does not end once a
device is listed. -/
theorem length_taken_of_reloadedOnce :
    SlotTable.Run (SlotTable.smallConfig 1) [] (.empty (SlotTable.smallConfig 1)) ∧
    (∃ dialogue records, (reload (SlotTable.empty (SlotTable.smallConfig 1)) :
      Procedure Tool.interface _).Yields dialogue records (.ok 1, (reloadedOnce 1).2)) ∧
    ∀ {σ : Type} (surroundings : Procedure.Surroundings Tool.interface σ) (state : σ)
      (limit : Nat),
      ((take limit (reloadedOnce 1).2).run surroundings state).result.1.length = limit := by
  obtain ⟨dialogue, records, hreload⟩ := @reload_reloadedOnce 1 rfl
  refine ⟨run_empty 1, ⟨dialogue, records, hreload⟩, fun surroundings state limit => ?_⟩
  have hbase : SlotTable.Packed (reloadedOnce 1).2 :=
    ((run_empty 1).append (.cons (.reload hreload) (.nil _))).packed
  exact (takes_run surroundings state limit _).length_eq (SlotTable.ComesFrom _)
    (SlotTable.isSome_of_full hbase (by decide) (by decide))
    ⟨0, SlotTable.onSchedule_of_cursor (by decide)⟩

/-- The device of a table of two slots is returned once, and then there is none. A list of
two devices is gone through likewise. -/
theorem taken_after_reloadedOnce :
    (∀ limit, ((take limit (reloadedOnce 2).2).run SlotTable.prepared []).result.1.map
        Adb.Device.identity = [("A", "device")].take limit) ∧
    ∀ limit,
      let roster := ((reload Roster.overClient : Procedure (Mux.clientInterface Unit) _).run
        Roster.preparedClient [.ok [Roster.firstDevice, Roster.secondDevice]]).result.2
      ((take limit roster).run Roster.preparedClient []).result.1 =
        [Roster.firstDevice, Roster.secondDevice].take limit := by
  obtain ⟨hslots, hroster⟩ := taken_after_reload
  constructor
  · intro limit
    obtain ⟨dialogue, records, hreload⟩ := @reload_reloadedOnce 2 rfl
    obtain ⟨hidentity, htaken, -⟩ := hslots (run_empty 2) hreload SlotTable.prepared [] limit
    rw [htaken (.inr (.inl (by decide))), List.map_take, hidentity]
    exact congrArg (List.take limit) (by decide)
  · intro limit
    exact (hroster (Procedure.yields_dialogueWith Roster.preparedClient
      [.ok [Roster.firstDevice, Roster.secondDevice]] (reload Roster.overClient))
      Roster.preparedClient [] limit).1

end Tethered.Enumeration
