import Mathlib.Data.List.Induction
import Mathlib.Data.List.Nodup
import Tethered.Proofs.Drain
import Tethered.Proofs.Text.Fields

/-!
# Devices that a table shows twice

Where no list has a serial number twice, a table can still hold one in two slots: a
device that moves up in the lists stays in its old slot as long as no list reaches
that slot. This is the only way. The slots that the last list wrote never share a
serial number, and no slots do where the lists become no shorter.
-/
namespace Tethered.Adb

open Tool Text

/-- A list of devices with different serial numbers, each short enough for its field. -/
structure Apart (found : List Listed) : Prop where
  nodup : (found.map Listed.serial).Nodup
  fits : ∀ listed ∈ found, utf8Length listed.serial < Device.serialCapacity

/-- A serial number that is short enough is kept as it is listed. -/
theorem stored_serial {listed : Listed} (h : utf8Length listed.serial < Device.serialCapacity) :
    listed.stored.1 = String.ofList listed.serial := by
  refine (isCut_fitField Device.serialCapacity _).eq_self_iff.mpr ?_
  rw [utf8ByteSize_ofList]
  exact Nat.le_sub_one_of_lt h

namespace Apart

variable {found : List Listed}

/-- What is kept of a list has different serial numbers too. -/
theorem nodup_stored (h : Apart found) : (found.map fun listed => listed.stored.1).Nodup := by
  have hserials : (found.map fun listed => listed.stored.1) =
      (found.map Listed.serial).map String.ofList := by
    rw [List.map_map]
    exact List.map_congr_left fun listed hmem => stored_serial (h.fits listed hmem)
  rw [hserials]
  exact List.Nodup.map (fun _ _ => String.ofList_injective) h.nodup

theorem eq_of_stored (h : Apart found) {first second : Nat} {one other : Listed}
    (hone : found[first]? = some one) (hother : found[second]? = some other)
    (heq : one.stored.1 = other.stored.1) : first = second := by
  have hlt : first < (found.map fun listed => listed.stored.1).length := by
    rw [List.length_map]
    exact (List.getElem?_eq_some_iff.mp hone).1
  apply (List.getElem?_inj hlt h.nodup_stored).mp
  rw [List.getElem?_map, List.getElem?_map, hone, hother, Option.map_some, Option.map_some, heq]

end Apart

namespace SlotTable

variable {lists earlier later : List (List Listed)} {slot : Nat}

/-- Later lists come before earlier ones in what they say of a slot. -/
theorem latest_append (slot : Nat) (earlier later : List (List Listed)) :
    latest slot (earlier ++ later) = (latest slot later).or (latest slot earlier) := by
  induction later using List.reverseRecOn with
  | nil => rw [List.append_nil]; rfl
  | append_singleton later found ih =>
    rw [← List.append_assoc]
    by_cases h : slot < found.length
    · rw [latest_append_of_lt h, latest_append_of_lt h, Option.some_or]
    · have hle := Nat.le_of_not_lt h
      rw [latest_append_of_le hle, latest_append_of_le hle, ih]

/-- What is said of a slot last stands in a list that no later one reaches. -/
theorem exists_of_latest {listed : Listed} (h : latest slot lists = some listed) :
    ∃ before found after, lists = before ++ found :: after ∧ found[slot]? = some listed ∧
      ∀ list ∈ after, list.length ≤ slot := by
  obtain ⟨found, hfind, hlisted⟩ := Option.bind_eq_some_iff.mp h
  obtain ⟨_, after, before, heq, hshort⟩ := List.find?_eq_some_iff_append.mp hfind
  refine ⟨before.reverse, found, after.reverse, ?_, hlisted, fun list hmem => ?_⟩
  · rw [← List.reverse_inj, heq]
    simp
  · simpa using hshort list (List.mem_reverse.mp hmem)

/-- A slot holds the serial number that the last list to reach it has there. -/
theorem Filled.exists_latest {limit : Nat} {table : SlotTable} {device : Device}
    (h : Filled limit lists table) (hdevice : table.deviceAt slot = some device) :
    ∃ listed, latest slot lists = some listed ∧ listed.stored.1 = device.serial := by
  have hslot := h.slots slot
  rw [hdevice, Option.map_some] at hslot
  obtain ⟨listed, hlatest, hstored⟩ := Option.map_eq_some_iff.mp hslot.symm
  exact ⟨listed, hlatest, congrArg Prod.fst hstored⟩

/-- Two slots with one serial number: the upper one was written by a list that no later list
reaches up to, and one of those later lists has the serial number at the lower slot. -/
theorem Filled.exists_of_repeated {limit lower upper : Nat} {table : SlotTable}
    {first second : Device} (h : Filled limit lists table)
    (hapart : ∀ found ∈ lists, Apart found) (hlt : lower < upper)
    (hfirst : table.deviceAt lower = some first) (hsecond : table.deviceAt upper = some second)
    (hserial : first.serial = second.serial) :
    ∃ before found after, lists = before ++ found :: after ∧
      (∃ listed, found[upper]? = some listed ∧ String.ofList listed.serial = second.serial) ∧
      (∀ list ∈ after, list.length ≤ upper) ∧
      ∃ list ∈ after, ∃ listed, list[lower]? = some listed ∧
        String.ofList listed.serial = second.serial := by
  obtain ⟨low, hlow, hlowSerial⟩ := h.exists_latest hfirst
  obtain ⟨high, hhigh, hhighSerial⟩ := h.exists_latest hsecond
  obtain ⟨before, found, after, rfl, hfound, hshort⟩ := exists_of_latest hhigh
  have hnamed {list : List Listed} {listed : Listed} {place : Nat}
      (hlist : list ∈ before ++ found :: after) (hplace : list[place]? = some listed)
      (hstored : listed.stored.1 = second.serial) :
      String.ofList listed.serial = second.serial := by
    rw [← hstored, stored_serial ((hapart list hlist).fits listed (List.mem_of_getElem? hplace))]
  have hreach : lower < found.length :=
    Nat.lt_trans hlt (List.getElem?_eq_some_iff.mp hfound).1
  have hlatest : latest lower (before ++ found :: after) =
      (latest lower after).or (some found[lower]) := by
    rw [List.append_cons, latest_append, latest_append_of_lt hreach]
  refine ⟨before, found, after, rfl, ⟨high, hfound, hnamed (by simp) hfound hhighSerial⟩,
    hshort, ?_⟩
  rw [hlow] at hlatest
  cases hafter : latest lower after with
  | none =>
    -- then one list has the serial number in both places
    rw [hafter, Option.none_or] at hlatest
    have hplace : found[lower]? = some low :=
      (List.getElem?_eq_getElem hreach).trans hlatest.symm
    have heq := (hapart found (by simp)).eq_of_stored hplace hfound
      (hlowSerial.trans (hserial.trans hhighSerial.symm))
    omega
  | some listed =>
    rw [hafter, Option.some_or] at hlatest
    cases hlatest
    obtain ⟨head, list, tail, heq, hplace, -⟩ := exists_of_latest hafter
    have hmem : list ∈ after := by simp [heq]
    exact ⟨list, hmem, low, hplace, hnamed (List.mem_append_right _ (List.mem_cons_of_mem _ hmem))
      hplace (hlowSerial.trans hserial)⟩

/-- The slots that the last list wrote hold different serial numbers. -/
theorem Filled.nodup_take {limit : Nat} {table : SlotTable} (h : Filled limit lists table)
    (hapart : ∀ found ∈ lists, Apart found) :
    ((table.devices.take table.count).map Device.serial).Nodup := by
  have hserials := congrArg (List.map Prod.fst) h.take_devices
  rw [List.map_map, List.map_map] at hserials
  change (table.devices.take table.count).map Device.serial =
    (lists.getLast?.getD []).map fun listed => listed.stored.1 at hserials
  rw [hserials]
  cases hlast : lists.getLast? with
  | none => exact List.nodup_nil
  | some found => exact (hapart found (List.mem_of_getLast? hlast)).nodup_stored

theorem Filled.count_le_length_devices {limit : Nat} {table : SlotTable}
    (h : Filled limit lists table) : table.count ≤ table.devices.length := by
  have hlength := congrArg List.length h.take_devices
  rw [List.length_map, List.length_map, List.length_take, ← h.count] at hlength
  omega

/-- Where no list is longer than the last one, it wrote all slots in use. -/
theorem Filled.length_devices_le {limit : Nat} {table : SlotTable} (h : Filled limit lists table)
    (hlongest : ∀ list ∈ lists, list.length ≤ (lists.getLast?.getD []).length) :
    table.devices.length ≤ table.count := by
  apply Nat.le_of_not_lt
  intro hlt
  have hslot := (packed_of_isSome_iff h.isSome_iff table.count).mpr hlt
  obtain ⟨n, hmem, hshort⟩ := lt_peak_iff.mp ((h.isSome_iff table.count).mp hslot)
  obtain ⟨list, hlist, rfl⟩ := List.mem_map.mp hmem
  have hle := hlongest list hlist
  rw [h.count] at hshort
  omega

/-- Where the lists become no shorter, none is longer than the last one. -/
theorem length_le_getLast (h : (lists.map List.length).Pairwise (· ≤ ·)) :
    ∀ list ∈ lists, list.length ≤ (lists.getLast?.getD []).length := by
  intro list hmem
  cases hlast : lists.getLast? with
  | none =>
    rw [List.getLast?_eq_none_iff.mp hlast] at hmem
    cases hmem
  | some found =>
    obtain ⟨before, rfl⟩ := List.getLast?_eq_some_iff.mp hlast
    rw [List.map_append, List.pairwise_append] at h
    rcases List.mem_append.mp hmem with hbefore | hfound
    · exact h.2.2 _ (List.mem_map_of_mem hbefore) _ List.mem_cons_self
    · exact Nat.le_of_eq (congrArg List.length (List.mem_singleton.mp hfound))

/-- A pass over the slots in use that begins at the first shows the serial numbers of the
devices in order. -/
theorem serials_take {config : Config} {history : List Event} {table : SlotTable} {σ : Type}
    (hrun : Run config history table) (hcursor : table.cursor = 0)
    (surroundings : Procedure.Surroundings interface σ) (state : σ) {limit : Nat}
    (hlimit : limit ≤ table.devices.length) :
    ((Enumeration.take limit table).run surroundings state).result.1.map Device.serial =
      (table.devices.map Device.serial).take limit := by
  have htakes := Enumeration.takes_run surroundings state limit table
  have hstands := onSchedule_of_cursor hcursor
  obtain ⟨call, hlast⟩ := htakes.invariant (ComesFrom table) (comesFrom_of_gives hrun.packed)
    ⟨0, hstands⟩
  have htaken := ((walk_onSchedule hrun.packed).takes hstands (.inl (by omega)) htakes).1
  have hserials := congrArg (List.map Prod.fst) (hlast.map_identity_devices hrun.packed)
  rw [List.map_map, List.map_map] at hserials
  rw [htaken, List.drop_zero, List.map_take]
  exact congrArg (List.take limit) hserials

/-- Where no list has a serial number twice, a table that shows one twice has kept its device
in a slot that no list has reached since, and was later told of it at a lower slot. What the
last list wrote shows no serial number twice, and neither does the table where the lists
become no shorter. The calls for the next device after a reload show what the slots hold. -/
theorem serials_of_run {config : Config} {history : List Event} {table : SlotTable}
    (hrun : Run config history table)
    (hapart : ∀ found ∈ listings config.deviceLimit history, Apart found) :
    (∀ {lower upper : Nat} {first second : Device}, lower < upper →
      table.deviceAt lower = some first → table.deviceAt upper = some second →
      first.serial = second.serial →
      ∃ before found after, listings config.deviceLimit history = before ++ found :: after ∧
        (∃ listed, found[upper]? = some listed ∧ String.ofList listed.serial = second.serial) ∧
        (∀ list ∈ after, list.length ≤ upper) ∧
        ∃ list ∈ after, ∃ listed, list[lower]? = some listed ∧
          String.ofList listed.serial = second.serial) ∧
    (table.count ≤ table.devices.length ∧
      ((table.devices.take table.count).map Device.serial).Nodup) ∧
    ((counts history).Pairwise (· ≤ ·) → (table.devices.map Device.serial).Nodup) ∧
    (table.cursor = 0 → ∀ {σ : Type} (surroundings : Procedure.Surroundings interface σ)
      (state : σ) {limit : Nat}, limit ≤ table.devices.length →
      ((Enumeration.take limit table).run surroundings state).result.1.map Device.serial =
        (table.devices.map Device.serial).take limit) := by
  obtain ⟨hfilled, hcounts⟩ := hrun.filled
  have hwritten := hfilled.nodup_take hapart
  refine ⟨fun hlt hfirst hsecond => hfilled.exists_of_repeated hapart hlt hfirst hsecond,
    ⟨hfilled.count_le_length_devices, hwritten⟩, fun hgrow => ?_,
    fun hcursor _ surroundings state _ hlimit =>
      serials_take hrun hcursor surroundings state hlimit⟩
  rw [hcounts] at hgrow
  rwa [List.take_of_length_le (hfilled.length_devices_le (length_le_getLast hgrow))] at hwritten

/-- Two devices are listed, and then the second of them alone. -/
def movedRun : List Event × SlotTable :=
  preparedRun (smallConfig 2)
    [printed "" 0, printed "" 0, printed "A\tdevice\nB\tdevice\n" 0, printed "" 0,
      printed "B\tdevice\n" 0] [.reload, .reload]

theorem apart_movedRun : ∀ found ∈ listings 2 movedRun.1, Apart found := by
  have hlistings : listings 2 movedRun.1 =
      [[⟨['A'], "device".toList⟩, ⟨['B'], "device".toList⟩], [⟨['B'], "device".toList⟩]] := by
    decide
  rw [hlistings]
  intro found hmem
  rcases List.mem_pair.mp hmem with rfl | rfl
  · exact ⟨by decide, by decide⟩
  · exact ⟨by decide, by decide⟩

/-- The device that is left is shown in both slots. -/
theorem serials_movedRun :
    Run (smallConfig 2) movedRun.1 movedRun.2 ∧ (∀ found ∈ listings 2 movedRun.1, Apart found) ∧
      movedRun.2.devices.map Device.serial = ["B", "B"] ∧
      ¬ (movedRun.2.devices.map Device.serial).Nodup := by
  have hserials : movedRun.2.devices.map Device.serial = ["B", "B"] := by decide
  refine ⟨run_preparedRun _ _ _, apart_movedRun, hserials, ?_⟩
  rw [hserials]
  decide

/-- The upper slot has what the first list wrote, which the second did not reach. -/
theorem repeated_of_movedRun :
    (∃ before found after, listings 2 movedRun.1 = before ++ found :: after ∧
      ∀ list ∈ after, list.length ≤ 1) ∧
    ((movedRun.2.devices.take 1).map Device.serial).Nodup ∧
    ((Enumeration.take 2 movedRun.2).run prepared []).result.1.map Device.serial = ["B", "B"] := by
  obtain ⟨hrepeated, ⟨-, hwritten⟩, -, hpass⟩ :=
    serials_of_run (run_preparedRun (smallConfig 2) _ _) apart_movedRun
  have hfirst : movedRun.2.deviceAt 0 = some ⟨"B", "device", ""⟩ := by decide
  have hsecond : movedRun.2.deviceAt 1 = some ⟨"B", "device", ""⟩ := by decide
  obtain ⟨before, found, after, hlistings, -, hshort, -⟩ :=
    hrepeated (by decide) hfirst hsecond rfl
  refine ⟨⟨before, found, after, hlistings, hshort⟩, hwritten, ?_⟩
  exact (hpass rfl prepared [] (by decide)).trans (by decide)

end SlotTable

end Tethered.Adb
