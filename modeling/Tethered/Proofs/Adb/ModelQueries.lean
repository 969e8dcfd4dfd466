import Tethered.Proofs.Adb.SlotHistory

/-!
# When a device is asked for its model

A device is asked for its model when a call is about to return it, it is not
offline and no model of it is known. An answer without a name leaves the question
open for the next time round; the first answer with one settles it until a list
writes the slot again. The epoch of a slot is a trace in which no list does.
-/
namespace Tethered.Adb

open Tool

/-! ## The name of a model -/

/-- The bytes of which the name of a model is made. -/
def Admitted (byte : UInt8) : Prop :=
  (0x30 ≤ byte ∧ byte ≤ 0x39) ∨ (0x41 ≤ byte ∧ byte ≤ 0x5A) ∨ (0x61 ≤ byte ∧ byte ≤ 0x7A) ∨
    byte = 0x20 ∨ byte = 0x2D ∨ byte = 0x5F

/-- The longest beginning of an output that can be the name of a model. -/
structure LongestName (output kept : List UInt8) : Prop where
  beginning : kept <+: output
  short : kept.length ≤ 78
  admitted : ∀ byte ∈ kept, Admitted byte
  longest : ∀ other, other <+: output → other.length ≤ 78 → (∀ byte ∈ other, Admitted byte) →
    other.length ≤ kept.length

instance (byte : UInt8) : Decidable (Admitted byte) :=
  inferInstanceAs (Decidable (_ ∨ _))

theorem isModelByte_iff (byte : UInt8) : isModelByte byte = true ↔ Admitted byte := by
  have hall : ∀ bits : Fin 256,
      isModelByte (UInt8.ofNat bits.val) = decide (Admitted (UInt8.ofNat bits.val)) := by
    decide +kernel
  have hbyte := hall ⟨byte.toNat, byte.toNat_lt⟩
  rw [UInt8.ofNat_toNat] at hbyte
  rw [hbyte, decide_eq_true_iff]

/-- What is kept of an output is its longest beginning that can be a name. -/
theorem longestName_of_output (output : List UInt8) :
    ∃ kept, LongestName output kept ∧
      modelName output = String.ofList (kept.map fun byte => Char.ofNat byte.toNat) := by
  refine ⟨(output.take 78).takeWhile isModelByte, ⟨?_, ?_, ?_, ?_⟩, rfl⟩
  · exact (List.takeWhile_prefix _).trans (List.take_prefix ..)
  · exact Nat.le_trans (List.takeWhile_prefix _).length_le (List.length_take_le ..)
  · intro byte hmem
    exact (isModelByte_iff byte).mp (List.all_eq_true.mp List.all_takeWhile byte hmem)
  · intro other hbegins hshort hadmitted
    obtain ⟨rest, hrest⟩ := List.prefix_take_iff.mpr ⟨hbegins, hshort⟩
    have hall : ∀ byte ∈ other, isModelByte byte = true := fun byte hmem =>
      (isModelByte_iff byte).mpr (hadmitted byte hmem)
    rw [← hrest, List.takeWhile_append_of_pos hall, List.length_append]
    exact Nat.le_add_right ..

theorem Device.needsModel_iff {device : Device} :
    device.needsModel = true ↔
      ¬ "offline".toList <+: device.state.toList ∧ device.model = "" := by
  unfold Device.needsModel Device.isOffline
  rw [Bool.and_eq_true, Bool.not_eq_true', ← Bool.not_eq_true, List.isPrefixOf_iff_prefix,
    String.isEmpty_iff]

namespace SlotTable

variable {config : Config} {slot : Nat} {device : Device} {reports : List Report}
variable {table after : SlotTable} {dialogue : List (Exchange interface)}
variable {result : Option Device}

/-! ## What one call asks -/

/-- A call asks for the model of the device in its slot, and only where it is due. -/
theorem Advanced.dialogue_ne_nil_iff (h : Advanced table dialogue result after) :
    dialogue ≠ [] ↔ ∃ device, table.deviceAt table.position = some device ∧
      ¬ "offline".toList <+: device.state.toList ∧ device.model = "" := by
  cases h with
  | exhausted hnone => simp [hnone]
  | @known device hsome hmodel =>
    refine ⟨fun hne => absurd rfl hne, ?_⟩
    rintro ⟨held, hheld, hdue⟩
    rw [hsome] at hheld
    cases hheld
    rw [Device.needsModel_iff.mpr hdue] at hmodel
    cases hmodel
  | @asked device report hsome hmodel =>
    exact ⟨fun _ => ⟨device, hsome, Device.needsModel_iff.mp hmodel⟩, fun _ => List.cons_ne_nil _ _⟩

theorem Advanced.of_exchange {exchange : Exchange interface}
    (h : Advanced table dialogue result after) (hmem : exchange ∈ dialogue) :
    ∃ (device : Device) (report : Report), table.deviceAt table.position = some device ∧
      device.needsModel = true ∧
      exchange = ⟨modelQuery table.config device.serial, report⟩ ∧
      after.deviceAt table.position = some (device.told table.config.timeLimit report) := by
  have hheld := h.deviceAt_position
  cases h with
  | exhausted => cases hmem
  | known => cases hmem
  | @asked device report hsome hmodel =>
    obtain rfl := List.mem_singleton.mp hmem
    exact ⟨device, report, hsome, hmodel, rfl, hheld⟩

theorem Advanced.deviceAt_of_silent (h : Advanced table [] result after) (slot : Nat) :
    after.deviceAt slot = table.deviceAt slot := by
  by_cases hslot : slot = table.position
  · subst hslot
    rw [h.deviceAt_position]
    cases h with
    | exhausted hnone => exact hnone.symm
    | known hsome => exact hsome.symm
  · exact h.deviceAt_of_ne hslot

/-! ## The epoch of a slot -/

/-- The report on the model of the device in a slot, if a call asked for one. -/
def Event.modelReport? (slot : Nat) : Event → Option Report
  | .reload .. => none
  | .next about dialogue _ =>
      if about = slot then dialogue.head?.map fun exchange => exchange.answer else none

def modelReports (slot : Nat) (events : List Event) : List Report :=
  events.filterMap (Event.modelReport? slot)

/-- No list of a history writes a slot. -/
def Untouched (slot : Nat) (events : List Event) : Prop :=
  ∀ event ∈ events, ∀ count, event.count? = some count → count ≤ slot

/-- A slot that a list has given a device, with the reports on its model since. -/
structure Resolving (config : Config) (slot : Nat) (device : Device) (reports : List Report)
    (table : SlotTable) : Prop where
  configured : table.config = config
  held : table.deviceAt slot = some
    { device with model := (reports.getLast?.map (modelIn config.timeLimit)).getD "" }
  nameless : ∀ report ∈ reports.dropLast, modelIn config.timeLimit report = ""
  offline : "offline".toList <+: device.state.toList → reports = []

/-- While no name is known, no report has given one. -/
theorem Resolving.all_nameless {held : Device} (h : Resolving config slot device reports table)
    (hheld : table.deviceAt slot = some held) (hmodel : held.model = "") :
    ∀ report ∈ reports, modelIn config.timeLimit report = "" := by
  rcases List.eq_nil_or_concat reports with rfl | ⟨before, last, heq⟩
  · simp
  · rw [List.concat_eq_append] at heq
    subst heq
    have hlast := h.held
    rw [hheld] at hlast
    cases hlast
    intro report hmem
    rcases List.mem_append.mp hmem with hbefore | hlast
    · exact h.nameless report (by simpa using hbefore)
    · rw [List.mem_singleton.mp hlast]
      simpa using hmodel

theorem Reloaded.deviceAt_of_untouched {result : Except Failure Nat}
    (h : Reloaded table dialogue result after)
    (huntouched : ∀ count, (Event.reload dialogue result).count? = some count → count ≤ slot) :
    after.deviceAt slot = table.deviceAt slot := by
  cases result with
  | error failure =>
    rw [h.eq_of_error]
  | ok count =>
    obtain ⟨found, -, hlength, hfit, rfl⟩ := h.listing_eq
    exact deviceAt_accept_of_le hfit (Nat.le_trans (Nat.le_of_eq hlength) (huntouched count rfl))

theorem Resolving.unmoved (h : Resolving config slot device reports table)
    (hconfig : after.config = table.config)
    (hslot : after.deviceAt slot = table.deviceAt slot) :
    Resolving config slot device reports after :=
  ⟨hconfig.trans h.configured, hslot.trans h.held, h.nameless, h.offline⟩

theorem Resolving.asked {held : Device} {report : Report}
    (h : Resolving config slot device reports table) (hconfig : after.config = table.config)
    (hheld : table.deviceAt slot = some held) (hneeds : held.needsModel = true)
    (hafter : after.deviceAt slot = some (held.told table.config.timeLimit report)) :
    Resolving config slot device (reports ++ [report]) after := by
  obtain ⟨hreachable, hmodel⟩ := Device.needsModel_iff.mp hneeds
  -- the slot has no name yet, so no report so far gave one
  have hnameless := h.all_nameless hheld hmodel
  have hsame := h.held
  rw [hheld] at hsame
  cases hsame
  refine ⟨hconfig.trans h.configured, ?_, ?_, fun hoffline => absurd hoffline hreachable⟩
  · rw [hafter, h.configured, List.getLast?_concat]
    rfl
  · rw [List.dropLast_concat]
    exact hnameless

theorem Resolving.step {event : Event} (h : Resolving config slot device reports table)
    (hstep : Step table event after)
    (huntouched : ∀ count, event.count? = some count → count ≤ slot) :
    Resolving config slot device (reports ++ (event.modelReport? slot).toList) after := by
  have hconfig := hstep.config_eq
  cases event with
  | reload dialogue result =>
    rw [show (Event.reload dialogue result).modelReport? slot = none from rfl,
      Option.toList_none, List.append_nil]
    exact h.unmoved hconfig (hstep.reloaded.deviceAt_of_untouched huntouched)
  | next about dialogue result =>
    obtain ⟨rfl, hadvanced⟩ := hstep.advanced
    by_cases hslot : slot = table.position
    · subst hslot
      cases dialogue with
      | nil =>
        have hnone : (Event.next table.position [] result).modelReport? table.position = none :=
          if_pos rfl
        rw [hnone, Option.toList_none, List.append_nil]
        exact h.unmoved hconfig (hadvanced.deviceAt_of_silent _)
      | cons exchange rest =>
        obtain ⟨held, report, hheld, hneeds, hexchange, hafter⟩ :=
          hadvanced.of_exchange (List.mem_cons_self ..)
        have hgiven : (Event.next table.position (exchange :: rest) result).modelReport?
            table.position = some report := by
          rw [hexchange]
          exact if_pos rfl
        rw [hgiven, Option.toList_some]
        exact h.asked hconfig hheld hneeds hafter
    · have hnone : (Event.next table.position dialogue result).modelReport? slot = none :=
        if_neg (Ne.symm hslot)
      rw [hnone, Option.toList_none, List.append_nil]
      exact h.unmoved hconfig (hadvanced.deviceAt_of_ne hslot)

theorem Resolving.trace {last : SlotTable} {events : List Event}
    (h : Resolving config slot device reports table) (htrace : Trace Step table events last)
    (huntouched : Untouched slot events) :
    Resolving config slot device (reports ++ modelReports slot events) last := by
  induction htrace generalizing reports with
  | nil => simpa [modelReports] using h
  | @cons first next last event events hstep _ ih =>
    have hnext := h.step hstep (huntouched event (List.mem_cons_self ..))
    have hlast := ih hnext fun later hmem => huntouched later (List.mem_cons_of_mem _ hmem)
    rw [modelReports, filterMap_cons_eq_append, ← List.append_assoc]
    exact hlast

/-- A report with a name is the last one, and the only one with a name. -/
theorem Resolving.settled {before later : List Report} {report : Report}
    (h : Resolving config slot device (before ++ report :: later) table)
    (hnamed : modelIn config.timeLimit report ≠ "") :
    (∀ earlier ∈ before, modelIn config.timeLimit earlier = "") ∧ later = [] ∧
      table.deviceAt slot = some { device with model := modelIn config.timeLimit report } := by
  have hnameless := h.nameless
  rw [List.dropLast_append_cons] at hnameless
  cases later with
  | nil =>
    refine ⟨fun earlier hmem => hnameless earlier (List.mem_append_left _ hmem), rfl, ?_⟩
    have hheld := h.held
    rwa [List.getLast?_concat] at hheld
  | cons next rest =>
    -- a report that others follow is not the last one, and only the last has a name
    refine absurd (hnameless report (List.mem_append_right _ ?_)) hnamed
    exact List.mem_cons_self ..

theorem Resolving.unnamed (h : Resolving config slot device reports table)
    (hnameless : ∀ report ∈ reports, modelIn config.timeLimit report = "") :
    table.deviceAt slot = some { device with model := "" } := by
  rw [h.held]
  cases hlast : reports.getLast? with
  | none => rfl
  | some report =>
    rw [Option.map_some, Option.getD_some, hnameless report (List.mem_of_getLast? hlast)]

theorem Run.config_eq {history : List Event} (h : Run config history table) :
    table.config = config := trace_config_eq h.trace

/-- A call for the next device asks at most one question: for the model of a device
that is not offline and has none. A successful answer gives the name, and nothing
else changes. After a list has written a slot, its answers are without a name up
to the first one with a name; with it the questions end, and the slot keeps it. -/
theorem models_of_run (config : Config) :
    (∀ (history : List Event) (table after : SlotTable) (slot : Nat)
        (dialogue : List (Exchange interface)) (result : Option Device),
      Run config history table → Step table (.next slot dialogue result) after →
      result = after.deviceAt slot ∧ dialogue.length ≤ 1 ∧
      (dialogue ≠ [] ↔ ∃ device, table.deviceAt slot = some device ∧
        ¬ "offline".toList <+: device.state.toList ∧ device.model = "") ∧
      (∀ exchange ∈ dialogue, ∃ (device : Device) (report : Report),
        table.deviceAt slot = some device ∧
        exchange = ⟨⟨⟨config.program, ["-s", device.serial, "shell", "getprop",
          "ro.product.model"]⟩, some config.outputLimit⟩, report⟩ ∧
        (∀ output, report.success? config.timeLimit = some output →
          after.deviceAt slot = some { device with model := modelName output.stdout }) ∧
        (report.success? config.timeLimit = none → after.deviceAt slot = some device)) ∧
      (dialogue = [] → after.deviceAt slot = table.deviceAt slot) ∧
      ∀ other, other ≠ slot → after.deviceAt other = table.deviceAt other) ∧
    ∀ (before since : List Event) (event : Event) (base table : SlotTable) (count slot : Nat),
      Run config (before ++ [event]) base → event.count? = some count → slot < count →
      Trace Step base since table → Untouched slot since →
      ∃ device, base.deviceAt slot = some device ∧ device.model = "" ∧
        (∀ early report late, modelReports slot since = early ++ report :: late →
          modelIn config.timeLimit report ≠ "" →
          (∀ other ∈ early, modelIn config.timeLimit other = "") ∧ late = [] ∧
          ∃ output kept name, report.success? config.timeLimit = some output ∧
            LongestName output.stdout kept ∧
            name = String.ofList (kept.map fun byte => Char.ofNat byte.toNat) ∧ name ≠ "" ∧
            table.deviceAt slot = some { device with model := name }) ∧
        ((∀ report ∈ modelReports slot since, modelIn config.timeLimit report = "") →
          table.deviceAt slot = some device) ∧
        ("offline".toList <+: device.state.toList → modelReports slot since = []) := by
  constructor
  · intro history table after slot dialogue result hrun hstep
    obtain ⟨rfl, hadvanced⟩ := hstep.advanced
    refine ⟨hadvanced.deviceAt_position.symm, ?_, hadvanced.dialogue_ne_nil_iff, ?_, ?_, ?_⟩
    · cases hadvanced <;> simp
    · intro exchange hmem
      obtain ⟨device, report, hdevice, hneeds, hexchange, hafter⟩ := hadvanced.of_exchange hmem
      rw [hrun.config_eq] at hexchange hafter
      refine ⟨device, report, hdevice, hexchange, fun output hsuccess => ?_, fun hfailure => ?_⟩
      · rw [hafter, Device.told, modelIn_of_success hsuccess]
      · rw [hafter, Device.told, modelIn_of_failure hfailure,
          ← Device.model_of_needsModel hneeds]
    · rintro rfl
      exact hadvanced.deviceAt_of_silent _
    · intro other hother
      exact hadvanced.deviceAt_of_ne hother
  · intro before since event base table count slot hrun hcount hslot htrace huntouched
    obtain ⟨found, listed, -, -, hwritten⟩ := hrun.deviceAt_of_last hcount hslot
    have hbase : Resolving config slot (written listed) [] base :=
      ⟨hrun.config_eq, hwritten, fun _ hmem => absurd hmem List.not_mem_nil, fun _ => rfl⟩
    have htable := hbase.trace htrace huntouched
    rw [List.nil_append] at htable
    refine ⟨written listed, hwritten, rfl, ?_, htable.unnamed, htable.offline⟩
    intro early report late heq hnamed
    rw [heq] at htable
    obtain ⟨hearly, hlate, hheld⟩ := htable.settled hnamed
    refine ⟨hearly, hlate, ?_⟩
    cases hsuccess : report.success? config.timeLimit with
    | none => exact absurd (modelIn_of_failure hsuccess) hnamed
    | some output =>
      rw [modelIn_of_success hsuccess] at hnamed hheld
      obtain ⟨kept, hlongest, hkept⟩ := longestName_of_output output.stdout
      exact ⟨output, kept, _, rfl, hlongest, hkept, hnamed, hheld⟩

def retryRun : List Event × SlotTable :=
  preparedRun (smallConfig 2) [printed "" 0, printed "" 0, printed "A\tdevice\nB\toffline\n" 0]
    [.reload]

/-- Three times round: the first answer about a model fails, the second has no name,
the third has one. -/
def retryLaps : List Event × SlotTable :=
  carryOut prepared [printed "" 1, printed "\n" 0, printed "Pixel 7 (x)\n" 0] retryRun.2
    [.next, .next, .next, .next, .next, .next]

/-- Once a name is found the next time round asks nothing, and the offline device is
never asked. -/
theorem models_of_retryLaps :
    (∃ kept, LongestName (Text.Utf8.encode "Pixel 7 (x)\n".toList) kept ∧
      retryLaps.2.deviceAt 0 =
        some ⟨"A", "device", String.ofList (kept.map fun byte => Char.ofNat byte.toNat)⟩) ∧
      Procedure.dialogueWith prepared [] retryLaps.2.next = [] ∧
      modelReports 1 retryLaps.1 = [] := by
  obtain ⟨hcalls, hepochs⟩ := models_of_run (smallConfig 2)
  have hrun : Run (smallConfig 2) retryRun.1 retryRun.2 := run_preparedRun _ _ _
  have htrace : Trace Step retryRun.2 retryLaps.1 retryLaps.2 := trace_carryOut _ _ _ _
  let listed : Event := .reload
    (Procedure.dialogueWith prepared
      [printed "" 0, printed "A\tdevice\nB\toffline\n" 0] (empty (smallConfig 2)).reload) (.ok 2)
  have hlisted : Run (smallConfig 2) ([] ++ [listed]) retryRun.2 := hrun
  refine ⟨?_, ?_, ?_⟩
  · obtain ⟨device, hdevice, -, hnamed, -, -⟩ := hepochs [] retryLaps.1 listed retryRun.2
      retryLaps.2 2 0 hlisted rfl (by decide) htrace (by unfold Untouched; decide)
    have hfirst : retryRun.2.deviceAt 0 = some ⟨"A", "device", ""⟩ := by decide
    have hreports : modelReports 0 retryLaps.1 =
        [printed "" 1, printed "\n" 0] ++ printed "Pixel 7 (x)\n" 0 :: [] := rfl
    obtain ⟨-, -, output, kept, name, hsuccess, hlongest, rfl, -, hheld⟩ :=
      hnamed _ _ _ hreports (by decide)
    have houtput : (printed "Pixel 7 (x)\n" 0).success? (smallConfig 2).timeLimit =
        some ⟨.exited 0, Text.Utf8.encode "Pixel 7 (x)\n".toList⟩ := rfl
    rw [hfirst] at hdevice
    cases hdevice
    rw [houtput] at hsuccess
    cases hsuccess
    exact ⟨kept, hlongest, hheld⟩
  · let outcome := Procedure.run prepared [] retryLaps.2.next
    obtain ⟨-, -, hasks, -⟩ := hcalls (retryRun.1 ++ retryLaps.1) retryLaps.2 outcome.result.2
      retryLaps.2.position _ outcome.result.1 (hrun.append htrace)
      (step_next prepared [] retryLaps.2)
    have hknown : retryLaps.2.deviceAt retryLaps.2.position =
        some ⟨"A", "device", "Pixel 7 "⟩ := by decide
    refine Decidable.not_not.mp fun hne => ?_
    obtain ⟨device, hdevice, -, hmodel⟩ := hasks.mp hne
    rw [hknown] at hdevice
    cases hdevice
    exact absurd hmodel (by decide)
  · obtain ⟨device, hdevice, -, -, -, hoffline⟩ := hepochs [] retryLaps.1 listed retryRun.2
      retryLaps.2 2 1 hlisted rfl (by decide) htrace (by unfold Untouched; decide)
    have hsecond : retryRun.2.deviceAt 1 = some ⟨"B", "offline", ""⟩ := by decide
    rw [hsecond] at hdevice
    cases hdevice
    exact hoffline (List.prefix_refl _)

end SlotTable

end Tethered.Adb
