import Tethered.Proofs.Adb.TableRun

/-!
# What the slots hold after any run

Each slot holds the entry of the last list that was long enough to reach it, and
the slots in use are those that the longest list reached. Models are left aside
here: a slot is compared with a list by its serial number and state. The lists
are read from the reports of the runner, not from the table.
-/
namespace Tethered.Adb

open Tool Text

/-- What identifies a device: its serial number and state. -/
def Device.identity (device : Device) : String × String := (device.serial, device.state)

/-- What a table keeps of a listed device, each part cut to its field. -/
def Listed.stored (listed : Listed) : String × String :=
  (fitField Device.serialCapacity (String.ofList listed.serial),
    fitField Device.stateCapacity (String.ofList listed.state))

namespace SlotTable

/-- The devices in the output of the last command of a reload that succeeded. -/
def Event.listing? (limit : Nat) : Event → Option (List Listed)
  | .reload dialogue (.ok _) =>
      dialogue.getLast?.bind fun exchange =>
        let report : Report := exchange.answer
        match report.outcome with
        | .ok output => some (listing output.text limit)
        | .error _ => none
  | _ => none

def Event.count? : Event → Option Nat
  | .reload _ (.ok count) => some count
  | _ => none

def listings (limit : Nat) (history : List Event) : List (List Listed) :=
  history.filterMap (Event.listing? limit)

def counts (history : List Event) : List Nat := history.filterMap Event.count?

/-- The greatest of some counts, zero if there are none. -/
def peak (counts : List Nat) : Nat := counts.foldr max 0

/-- The entry for a slot in the last list with more entries than the number of
the slot. -/
def latest (slot : Nat) (lists : List (List Listed)) : Option Listed :=
  (lists.reverse.find? fun list => slot < list.length).bind fun list => list[slot]?

theorem lt_peak_iff {slot : Nat} {numbers : List Nat} :
    slot < peak numbers ↔ ∃ n ∈ numbers, slot < n := by
  induction numbers with
  | nil => simp [peak]
  | cons n numbers ih =>
    have hmax : slot < peak (n :: numbers) ↔ slot < n ∨ slot < peak numbers := by
      change slot < max n (peak numbers) ↔ _
      omega
    rw [hmax, ih]
    simp

theorem latest_append_of_lt {slot : Nat} {lists : List (List Listed)} {found : List Listed}
    (h : slot < found.length) : latest slot (lists ++ [found]) = some found[slot] := by
  simp [latest, h]

theorem latest_append_of_le {slot : Nat} {lists : List (List Listed)} {found : List Listed}
    (h : found.length ≤ slot) : latest slot (lists ++ [found]) = latest slot lists := by
  simp [latest, Nat.not_lt.mpr h]

theorem latest_isSome_iff {slot : Nat} {lists : List (List Listed)} :
    (latest slot lists).isSome ↔ ∃ list ∈ lists, slot < list.length := by
  unfold latest
  constructor
  · intro h
    cases hfind : lists.reverse.find? fun list => slot < list.length with
    | none => simp [hfind] at h
    | some list =>
      have hmem := List.mem_reverse.mp (List.mem_of_find?_eq_some hfind)
      have hlt := List.find?_some hfind
      exact ⟨list, hmem, by simpa using hlt⟩
  · rintro ⟨list, hmem, hlt⟩
    cases hfind : lists.reverse.find? fun list => slot < list.length with
    | none =>
      have hnone := List.find?_eq_none.mp hfind list (List.mem_reverse.mpr hmem)
      simp [hlt] at hnone
    | some given =>
      have hgiven := List.find?_some hfind
      simpa using hgiven

/-- A table that lists have filled. -/
structure Filled (limit : Nat) (lists : List (List Listed)) (table : SlotTable) : Prop where
  capacity : table.capacity = limit
  slots : ∀ slot, (table.deviceAt slot).map Device.identity = (latest slot lists).map Listed.stored
  count : table.count = (lists.getLast?.getD []).length

theorem filled_empty (config : Config) : Filled config.deviceLimit [] (empty config) := by
  constructor
  · exact List.length_replicate
  · intro slot
    unfold deviceAt empty
    rw [List.getElem?_replicate]
    split <;> rfl
  · rfl

theorem Filled.accept {limit : Nat} {lists : List (List Listed)} {table : SlotTable}
    {found : List Listed} (h : Filled limit lists table) (hfit : found.length ≤ table.capacity) :
    Filled limit (lists ++ [found]) (table.accept found) := by
  constructor
  · rw [capacity_accept hfit, h.capacity]
  · intro slot
    by_cases hslot : slot < found.length
    · rw [deviceAt_accept_of_lt hfit hslot, latest_append_of_lt hslot]
      rfl
    · have hle := Nat.le_of_not_lt hslot
      rw [deviceAt_accept_of_le hfit hle, latest_append_of_le hle, h.slots]
  · simp [SlotTable.accept]

theorem Advanced.identity_eq {table after : SlotTable} {dialogue : List (Exchange interface)}
    {result : Option Device} (h : Advanced table dialogue result after) (slot : Nat) :
    (after.deviceAt slot).map Device.identity = (table.deviceAt slot).map Device.identity := by
  by_cases hslot : slot = table.position
  · subst hslot
    rw [h.deviceAt_position]
    cases h with
    | exhausted hnone => rw [hnone]
    | known hsome => rw [hsome]
    | asked hsome => rw [hsome]; rfl
  · rw [h.deviceAt_of_ne hslot]

theorem Reloaded.listing_eq {table after : SlotTable} {dialogue : List (Exchange interface)}
    {count : Nat} (h : Reloaded table dialogue (.ok count) after) :
    ∃ found, (Event.reload dialogue (.ok count)).listing? table.capacity = some found ∧
      found.length = count ∧ found.length ≤ table.capacity ∧ after = table.accept found := by
  cases h with
  | @listed first second banner output hfirst hsecond =>
    refine ⟨listing output.text table.capacity, ?_, rfl, length_listing_le .., rfl⟩
    have houtcome := (Report.success?_eq_some_iff.mp hsecond).1.1
    simp [Event.listing?, houtcome]

theorem Filled.step {limit : Nat} {lists : List (List Listed)} {table after : SlotTable}
    {event : Event} (h : Filled limit lists table) (hstep : Step table event after) :
    Filled limit (lists ++ (event.listing? limit).toList) after ∧
      event.count? = (event.listing? limit).map List.length := by
  cases event with
  | reload dialogue result =>
    have hreloaded := hstep.reloaded
    cases result with
    | ok count =>
      obtain ⟨found, hlisting, hlength, hfit, rfl⟩ := hreloaded.listing_eq
      rw [h.capacity] at hlisting
      rw [hlisting]
      exact ⟨h.accept hfit, congrArg some hlength.symm⟩
    | error failure =>
      rw [hreloaded.eq_of_error,
        show (Event.reload dialogue (.error failure)).listing? limit = none from rfl,
        Option.toList_none, List.append_nil]
      exact ⟨h, rfl⟩
  | next slot dialogue result =>
    have hadvanced := hstep.advanced.2
    rw [show (Event.next slot dialogue result).listing? limit = none from rfl,
      Option.toList_none, List.append_nil]
    refine ⟨⟨?_, ?_, ?_⟩, rfl⟩
    · rw [hadvanced.capacity_eq, h.capacity]
    · intro other
      rw [hadvanced.identity_eq, h.slots]
    · rw [hadvanced.count_eq, h.count]

/-- Whatever the calls and their answers, a filled table stays filled, by the old
lists and those of the successful reloads. -/
theorem Filled.trace {limit : Nat} {lists : List (List Listed)} {table last : SlotTable}
    {events : List Event} (h : Filled limit lists table) (htrace : Trace Step table events last) :
    Filled limit (lists ++ listings limit events) last ∧
      counts events = (listings limit events).map List.length := by
  induction htrace generalizing lists with
  | nil => exact ⟨by simpa [listings] using h, rfl⟩
  | @cons first next last event events hstep _ ih =>
    obtain ⟨hnext, hcount⟩ := h.step hstep
    obtain ⟨hlast, hcounts⟩ := ih hnext
    rw [listings, filterMap_cons_eq_append, ← List.append_assoc]
    refine ⟨hlast, ?_⟩
    rw [counts, filterMap_cons_eq_append, hcount, List.map_append, ← Option.toList_map]
    exact congrArg (_ ++ ·) hcounts

theorem Run.filled {config : Config} {history : List Event} {table : SlotTable}
    (h : Run config history table) :
    Filled config.deviceLimit (listings config.deviceLimit history) table ∧
      counts history = (listings config.deviceLimit history).map List.length := by
  simpa using (filled_empty config).trace h.trace

/-- The slots that a successful reload has just written hold its list. -/
theorem Run.deviceAt_of_last {config : Config} {history : List Event} {event : Event}
    {table : SlotTable} {count slot : Nat} (h : Run config (history ++ [event]) table)
    (hcount : event.count? = some count) (hslot : slot < count) :
    ∃ found listed, event.listing? config.deviceLimit = some found ∧
      found[slot]? = some listed ∧ table.deviceAt slot = some (written listed) := by
  obtain ⟨middle, hbefore, hstep⟩ := h.trace.split_last
  cases event with
  | next => nomatch hcount
  | reload dialogue result =>
    cases result with
    | error => nomatch hcount
    | ok given =>
      cases hcount
      obtain ⟨found, hlisting, rfl, hfit, rfl⟩ := hstep.reloaded.listing_eq
      have hcapacity := ((filled_empty config).trace hbefore).1.capacity
      rw [hcapacity] at hlisting
      exact ⟨found, found[slot], hlisting, List.getElem?_eq_getElem hslot,
        deviceAt_accept_of_lt hfit hslot⟩

/-- Where the slots in use come first, the devices of the table are theirs. -/
theorem filterMap_id_getElem? {slots : List (Option Device)} {used : Nat}
    (h : ∀ slot, slots[slot]?.join.isSome ↔ slot < used) (index : Nat) :
    (slots.filterMap id)[index]? = slots[index]?.join := by
  induction slots generalizing used index with
  | nil => rfl
  | cons first rest ih =>
    cases first with
    | none =>
      have hused : used = 0 := Nat.eq_zero_of_not_pos fun hpos => nomatch (h 0).mpr hpos
      subst hused
      have hrest : ∀ slot, rest[slot]?.join.isSome ↔ slot < 0 := fun slot =>
        (h (slot + 1)).trans (by omega)
      change (rest.filterMap id)[index]? = _
      rw [ih hrest index]
      have hnone {held : Option Device} (hheld : held.isSome ↔ index < 0) : held = none :=
        Option.not_isSome_iff_eq_none.mp fun hsome => Nat.not_lt_zero index (hheld.mp hsome)
      rw [hnone (hrest index), hnone (h index)]
    | some device =>
      cases index with
      | zero => rfl
      | succ index =>
        change (rest.filterMap id)[index]? = rest[index]?.join
        refine @ih (used - 1) (fun slot => ?_) index
        have hslot := h (slot + 1)
        rw [List.getElem?_cons_succ] at hslot
        rw [hslot]
        omega

theorem Filled.isSome_iff {limit : Nat} {lists : List (List Listed)} {table : SlotTable}
    (h : Filled limit lists table) (slot : Nat) :
    (table.deviceAt slot).isSome ↔ slot < peak (lists.map List.length) := by
  have hsome := congrArg Option.isSome (h.slots slot)
  rw [Option.isSome_map, Option.isSome_map] at hsome
  rw [hsome, latest_isSome_iff, lt_peak_iff]
  constructor
  · rintro ⟨list, hmem, hlt⟩
    exact ⟨list.length, List.mem_map_of_mem hmem, hlt⟩
  · rintro ⟨n, hmem, hlt⟩
    obtain ⟨list, hlist, rfl⟩ := List.mem_map.mp hmem
    exact ⟨list, hlist, hlt⟩

/-- The devices of the last list stand in the first slots, in its order. -/
theorem Filled.take_devices {limit : Nat} {lists : List (List Listed)} {table : SlotTable}
    (h : Filled limit lists table) :
    (table.devices.take table.count).map Device.identity =
      (lists.getLast?.getD []).map Listed.stored := by
  apply List.ext_getElem?
  intro index
  rw [List.getElem?_map, List.getElem?_map, h.count]
  cases hlast : lists.getLast? with
  | none => rfl
  | some list =>
    rw [Option.getD_some]
    by_cases hindex : index < list.length
    · obtain ⟨before, rfl⟩ := List.getLast?_eq_some_iff.mp hlast
      have hslot := h.slots index
      rw [latest_append_of_lt hindex] at hslot
      rw [List.getElem?_take_of_lt hindex, List.getElem?_eq_getElem hindex]
      exact (congrArg _ (filterMap_id_getElem? h.isSome_iff index)).trans hslot
    · have hle := Nat.le_of_not_lt hindex
      rw [List.getElem?_take_eq_none hle, List.getElem?_eq_none hle]
      rfl

/-- After any run the slots in use are those below the greatest count returned so
far. Each holds the entry of the last list that reached it, and as many devices
as were counted last are the last list. -/
theorem slots_of_run {config : Config} {history : List Event} {table : SlotTable}
    (h : Run config history table) :
    let lists := listings config.deviceLimit history
    table.slots.length = config.deviceLimit ∧
    counts history = lists.map List.length ∧
    (∀ slot, (table.deviceAt slot).isSome ↔ slot < peak (counts history)) ∧
    (∀ slot, slot < peak (counts history) → ∃ device listed,
      table.deviceAt slot = some device ∧ latest slot lists = some listed ∧
      device.identity = listed.stored) ∧
    table.count = (counts history).getLast?.getD 0 ∧
    (table.devices.take table.count).map Device.identity =
      (lists.getLast?.getD []).map Listed.stored := by
  intro lists
  obtain ⟨hfilled, hcounts⟩ := h.filled
  refine ⟨hfilled.capacity, hcounts, ?_, ?_, ?_, hfilled.take_devices⟩
  · rw [hcounts]
    exact hfilled.isSome_iff
  · intro slot hslot
    rw [hcounts] at hslot
    obtain ⟨device, hdevice⟩ := Option.isSome_iff_exists.mp ((hfilled.isSome_iff slot).mpr hslot)
    have hmap := hfilled.slots slot
    rw [hdevice, Option.map_some] at hmap
    obtain ⟨listed, hlatest, hstored⟩ := Option.map_eq_some_iff.mp hmap.symm
    exact ⟨device, listed, hdevice, hlatest, hstored.symm⟩
  · rw [hfilled.count, hcounts, List.getLast?_map]
    cases lists.getLast? <;> rfl

/-- Starting the server fails, two devices are listed and met, a reload fails, and
then one device is listed. -/
def shrinkingRun : List Event × SlotTable :=
  preparedRun (smallConfig 3)
    [printed "" 1, printed "" 0, printed "A\tdevice\nB\tdevice\n" 0, printed "Pixel 7\n" 0,
      printed "" 1, printed "" 0, printed "C\toffline\n" 0]
    [.reload, .next, .reload, .reload]

theorem slots_of_shrinkingRun :
    Run (smallConfig 3) shrinkingRun.1 shrinkingRun.2 ∧
      counts shrinkingRun.1 = [2, 1] ∧
      (shrinkingRun.2.devices.take shrinkingRun.2.count).map Device.identity =
        [("C", "offline")] ∧
      ∃ device, shrinkingRun.2.deviceAt 1 = some device ∧
        device.identity = ("B", "device") := by
  have hrun : Run (smallConfig 3) shrinkingRun.1 shrinkingRun.2 :=
    run_preparedRun _ _ _
  obtain ⟨-, hcounts, -, hslots, -, hdevices⟩ := slots_of_run hrun
  refine ⟨hrun, hcounts.trans (by decide), hdevices.trans (by decide), ?_⟩
  obtain ⟨device, listed, hdevice, hlatest, hidentity⟩ := hslots 1 (by decide)
  have hlisted : latest 1 (listings (smallConfig 3).deviceLimit shrinkingRun.1) =
      some ⟨['B'], "device".toList⟩ := by decide
  rw [hlisted] at hlatest
  cases hlatest
  exact ⟨device, hdevice, hidentity.trans (by decide)⟩

end SlotTable

end Tethered.Adb
