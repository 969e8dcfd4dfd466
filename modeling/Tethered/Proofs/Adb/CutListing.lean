import Mathlib.Data.List.Infix
import Tethered.Proofs.Adb.DeviceLines
import Tethered.Proofs.Adb.SlotHistory

/-!
# Lists that are cut

The output of a list is kept up to a number of bytes, wherever they end, and what is
kept is read as if it were whole. Its lines are those of the whole output but for the
last, which may be cut in a serial number, in a state or in a character. A cut serial
number has no state behind it and shows nothing, but a cut state is read as a state:
the last entry can be one that the whole output does not have. All entries before it
are the first entries of the whole output.
-/
namespace Tethered.Adb

open Tool Text

/-! ## Lines in two parts -/

variable {before : List (List Char)} {last : List Char} {limit : Nat} {listed : Listed}

/-- The last of some lines adds a device to a list with a limit. -/
structure AddsLast (before : List (List Char)) (last : List Char) (limit : Nat)
    (listed : Listed) : Prop where
  readable : ∀ line ∈ before, ¬ Unreadable line
  room : (shownBy before).length < limit
  shows : ShowsDevice last listed

theorem AddsLast.unique {other : Listed} (h : AddsLast before last limit other)
    (hlisted : AddsLast before last limit listed) : other = listed := by
  have heq := (ofText_of_showsDevice h.shows).symm.trans (ofText_of_showsDevice hlisted.shows)
  exact Line.device.inj heq

theorem shownBy_prefix_append (before later : List (List Char)) :
    shownBy before <+: shownBy (before ++ later) := by
  by_cases hread : ∀ line ∈ before, ¬ Unreadable line
  · rw [shownBy_append hread]
    exact List.prefix_append _ _
  · obtain ⟨line, hmem, hunreadable⟩ : ∃ line ∈ before, Unreadable line := by simpa using hread
    rw [shownBy_append_of_unreadable hmem hunreadable]

theorem AddsLast.take_eq (h : AddsLast before last limit listed) :
    (shownBy (before ++ [last])).take limit = shownBy before ++ [listed] := by
  have hroom := h.room
  rw [shownBy_append h.readable, shownBy_singleton, ofText_of_showsDevice h.shows]
  exact List.take_of_length_le (by rw [List.length_append]; exact hroom)

/-- A last line that adds nothing is as good as none. -/
theorem take_shownBy_of_not_addsLast (h : ∀ listed, ¬ AddsLast before last limit listed) :
    (shownBy (before ++ [last])).take limit = (shownBy before).take limit := by
  by_cases hread : ∀ line ∈ before, ¬ Unreadable line
  · rw [shownBy_append hread, shownBy_singleton]
    by_cases hroom : (shownBy before).length < limit
    · cases hshown : (Line.ofText last).device? with
      | none => rw [Option.toList_none, List.append_nil]
      | some listed =>
        have hline : Line.ofText last ≠ .malformed := by
          intro hmalformed
          rw [hmalformed] at hshown
          cases hshown
        have hshows : Shows last (some listed) := shows_iff.mpr ⟨hline, hshown⟩
        exact absurd ⟨hread, hroom, hshows⟩ (h listed)
    · exact List.take_append_of_le_length (Nat.le_of_not_lt hroom)
  · obtain ⟨line, hmem, hunreadable⟩ : ∃ line ∈ before, Unreadable line := by simpa using hread
    rw [shownBy_append_of_unreadable hmem hunreadable]

/-- A list with one entry more is still a beginning if that entry comes next. -/
theorem append_singleton_prefix_iff {α : Type} {init whole : List α} {entry : α}
    (h : init <+: whole) : init ++ [entry] <+: whole ↔ whole[init.length]? = some entry := by
  obtain ⟨more, rfl⟩ := h
  rw [List.prefix_append_right_inj, List.getElem?_append_right (Nat.le_refl _), Nat.sub_self]
  cases more <;> simp [eq_comm]

/-- What becomes of a list when its last lines are exchanged for one line: all
entries but perhaps the last are still the first entries, and the last one is not
exactly where the line adds a device that is not the next entry. -/
theorem take_shownBy_exchanged {α : Type} (stored : Listed → α) (before rest : List (List Char))
    (last : List Char) (limit : Nat) :
    let changed := ((shownBy (before ++ [last])).take limit).map stored
    let entries := ((shownBy (before ++ rest)).take limit).map stored
    changed.dropLast <+: entries ∧
    (∀ listed, AddsLast before last limit listed →
      changed = (shownBy before).map stored ++ [stored listed]) ∧
    (changed <+: entries ↔ ∀ listed, AddsLast before last limit listed →
      entries[(shownBy before).length]? = some (stored listed)) := by
  intro changed entries
  have hcommon : ((shownBy before).take limit).map stored <+: entries :=
    ((shownBy_prefix_append before rest).take limit).map stored
  by_cases hadds : ∃ listed, AddsLast before last limit listed
  · obtain ⟨listed, hlisted⟩ := hadds
    have hchanged : changed = (shownBy before).map stored ++ [stored listed] := by
      simp only [changed, hlisted.take_eq, List.map_append, List.map_singleton]
    rw [List.take_of_length_le (Nat.le_of_lt hlisted.room)] at hcommon
    have hbegins := @append_singleton_prefix_iff _ _ _ (stored listed) hcommon
    rw [List.length_map] at hbegins
    rw [hchanged, List.dropLast_concat, hbegins]
    refine ⟨hcommon, fun other hother => by rw [hother.unique hlisted], ?_⟩
    constructor
    · intro hnext other hother
      rwa [hother.unique hlisted]
    · exact fun h => h listed hlisted
  · have hnone (other : Listed) : ¬ AddsLast before last limit other :=
      fun hother => hadds ⟨other, hother⟩
    have hchanged : changed = ((shownBy before).take limit).map stored :=
      congrArg _ (take_shownBy_of_not_addsLast hnone)
    rw [hchanged]
    exact ⟨(List.dropLast_prefix _).trans hcommon, fun other hother => absurd hother (hnone other),
      iff_of_true hcommon fun other hother => absurd hother (hnone other)⟩

/-! ## Reloads of a cut output -/

namespace SlotTable

/-- The table with another limit on the output that is kept. -/
def keeping (table : SlotTable) (limit : Nat) : SlotTable :=
  { table with config := { table.config with outputLimit := limit } }

/-- The serial numbers and states of the last list. -/
def entries (table : SlotTable) : List (String × String) :=
  (table.devices.take table.count).map Device.identity

/-- A reload that succeeds, where the tool writes some bytes as its list. -/
def ReloadsFrom (table : SlotTable) (bytes : List UInt8) (after : SlotTable) : Prop :=
  ∃ dialogue records count report status,
    table.reload.Yields dialogue records (.ok count, after) ∧
    ⟨devicesQuery table.config, report⟩ ∈ dialogue ∧
    report.outcome = (Execution.ended bytes status).outcome (devicesQuery table.config)

theorem entries_accept {table : SlotTable} {found : List Listed}
    (h : found.length ≤ table.capacity) :
    (table.accept found).entries = found.map Listed.stored := by
  have hdevices : (table.accept found).devices =
      found.map written ++ (table.slots.drop found.length).filterMap id := by
    rw [devices, accept_slots h, List.filterMap_append, List.filterMap_map]
    exact congrArg (· ++ _) List.filterMap_some
  have hcount : (table.accept found).count = (found.map written).length :=
    (List.length_map _).symm
  rw [entries, hdevices, hcount, List.take_left, List.map_map]
  rfl

theorem reconnecting_ne_devicesQuery (config : Config) :
    reconnecting config ≠ devicesQuery config := fun h => nomatch congrArg Invocation.capture h

/-- What is stored is what the kept bytes show. -/
theorem ReloadsFrom.entries_eq {table after : SlotTable} {bytes : List UInt8}
    (h : table.ReloadsFrom bytes after) :
    after.entries =
      ((shownBy (lines (Utf8.decodeLossy (bytes.take table.config.outputLimit)))).take
        table.capacity).map Listed.stored := by
  obtain ⟨dialogue, records, count, report, status, hyields, hmem, houtcome⟩ := h
  cases reloaded_of_yields hyields with
  | @listed first second banner output hfirst hsecond =>
    have hreport : report = second := by
      rcases List.mem_cons.mp hmem with heq | hmem
      · exact absurd (congrArg Exchange.question heq).symm (reconnecting_ne_devicesQuery _)
      · cases List.mem_singleton.mp hmem
        rfl
    have houtput : output = ⟨status, bytes.take table.config.outputLimit⟩ := by
      have hgiven := (Report.success?_eq_some_iff.mp hsecond).1.1
      rw [← hreport, houtcome] at hgiven
      exact (Except.ok.inj hgiven).symm
    rw [entries_accept (length_listing_le ..), listing_eq_shownBy, houtput]
    rfl

/-- Whatever the tool writes as its list, a reload succeeds where its commands do. -/
theorem exists_reloadsFrom (table : SlotTable) (bytes : List UInt8) :
    ∃ after, table.ReloadsFrom bytes after := by
  have hname : ["reconnect", "offline"].length ≤ argumentLimit := by decide
  have hdevices : ["devices"].length ≤ argumentLimit := by decide
  have hbanner := @Report.success?_of_prompt (.success []) rfl table.config.timeLimit
  have hlist := @Report.success?_of_prompt (.success (bytes.take table.config.outputLimit)) rfl
    table.config.timeLimit
  obtain ⟨early, hfirst⟩ :=
    @yields_runChecked_of_success _ "adb r.o." none _ false _ _ hname hbanner
  obtain ⟨late, hsecond⟩ :=
    @yields_runChecked_of_success _ "adb devices" none _ true _ _ hdevices hlist
  have hlisted : (listDevices table.config).Yields _ _
      (.ok (.success (bytes.take table.config.outputLimit))) :=
    Procedure.yields_onSuccess_iff.mpr (.inr ⟨_, _, _, _, _, rfl, rfl, hfirst, hsecond⟩)
  exact ⟨_, _, _, _, _, .exited 0, Procedure.yields_map_iff.mpr ⟨_, hlisted, rfl⟩,
    List.mem_concat_self, rfl⟩

/-- What a limit on the output changes of a list: all entries but perhaps the last are
the first entries of the whole output. The last is not exactly where the line that the
limit cuts shows a device, with room for it, and the whole output has another entry
or none in its place. -/
theorem entries_of_cut {table cut whole : SlotTable} {bytes : List UInt8} {limit enough : Nat}
    (hcut : (table.keeping limit).ReloadsFrom bytes cut)
    (hwhole : (table.keeping enough).ReloadsFrom bytes whole) (henough : bytes.length ≤ enough) :
    ∃ before kept ending row after,
      lines (Utf8.decodeLossy (bytes.take limit)) = before ++ [kept ++ ending] ∧
      lines (Utf8.decodeLossy bytes) = before ++ row :: after ∧
      kept <+: row ∧ (ending = [] ∨ ending = ['\uFFFD']) ∧
      cut.entries.dropLast <+: whole.entries ∧
      (∀ listed, AddsLast before (kept ++ ending) table.capacity listed →
        cut.entries = (shownBy before).map Listed.stored ++ [listed.stored]) ∧
      (cut.entries <+: whole.entries ↔
        ∀ listed, AddsLast before (kept ++ ending) table.capacity listed →
          whole.entries[(shownBy before).length]? = some listed.stored) := by
  obtain ⟨before, kept, ending, row, after, hcutLines, hlines, hkept, hending⟩ :=
    exists_lines_take bytes limit
  have hcutEntries : cut.entries =
      ((shownBy (before ++ [kept ++ ending])).take table.capacity).map Listed.stored := by
    rw [← hcutLines]
    exact hcut.entries_eq
  have hwholeEntries : whole.entries =
      ((shownBy (before ++ row :: after)).take table.capacity).map Listed.stored := by
    have hbytes : bytes.take enough = bytes := List.take_of_length_le henough
    rw [← hlines, ← hbytes]
    exact hwhole.entries_eq
  have hexchanged :=
    take_shownBy_exchanged Listed.stored before (row :: after) (kept ++ ending) table.capacity
  rw [hcutEntries, hwholeEntries]
  exact ⟨before, kept, ending, row, after, hcutLines, hlines, hkept, hending, hexchanged⟩

/-- One offline device in a list. -/
def offlineList : List UInt8 := Utf8.encode "List of devices attached\nA\toffline\n".toList

/-- The first 30 bytes of the list end in the state, and the device looks online. -/
theorem entries_of_offlineList :
    ∃ cut whole, ((empty .standard).keeping 30).ReloadsFrom offlineList cut ∧
      ((empty .standard).keeping 1024).ReloadsFrom offlineList whole ∧
      cut.entries = [("A", "off")] ∧ whole.entries = [("A", "offline")] ∧
      cut.entries.dropLast <+: whole.entries ∧ ¬ cut.entries <+: whole.entries ∧
      ∀ device ∈ cut.devices.take cut.count, device.isOffline = false := by
  obtain ⟨cut, hcut⟩ := exists_reloadsFrom ((empty .standard).keeping 30) offlineList
  obtain ⟨whole, hwhole⟩ := exists_reloadsFrom ((empty .standard).keeping 1024) offlineList
  have hcutEntries : cut.entries = [("A", "off")] := hcut.entries_eq.trans (by decide)
  have hwholeEntries : whole.entries = [("A", "offline")] := hwhole.entries_eq.trans (by decide)
  obtain ⟨-, -, -, -, -, -, -, -, -, hdropLast, -⟩ := entries_of_cut hcut hwhole (by decide)
  refine ⟨cut, whole, hcut, hwhole, hcutEntries, hwholeEntries, hdropLast, ?_, ?_⟩
  · rw [hcutEntries, hwholeEntries]
    decide
  · intro device hmem
    have hidentity : device.identity ∈ cut.entries := List.mem_map_of_mem hmem
    rw [hcutEntries, List.mem_singleton] at hidentity
    have hstate : device.state = "off" := congrArg Prod.snd hidentity
    rw [Device.isOffline, hstate]
    decide

end SlotTable

end Tethered.Adb
