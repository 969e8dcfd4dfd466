import Tethered.Proofs.Adb.DeviceLines
import Tethered.Proofs.Adb.ModelQueries
import Tethered.Proofs.Text.Fields

/-!
# What the fields of a device look like

Whatever the tool prints, a device in a slot has a serial number and a state of the form
that a line gives them, cut to their fields but never to nothing, and a model of plain
characters. No cut makes an offline device look online or the reverse. That a state is
one that the tool knows is not said.
-/
namespace Tethered.Adb

open Tool Text

/-- The characters of which the name of a model is made. -/
def IsModelCharacter (c : Char) : Prop :=
  ('0' ≤ c ∧ c ≤ '9') ∨ ('A' ≤ c ∧ c ≤ 'Z') ∨ ('a' ≤ c ∧ c ≤ 'z') ∨ c = ' ' ∨ c = '-' ∨ c = '_'

/-- A device whose fields have the form and the size that they should. -/
structure Device.WellFormed (device : Device) : Prop where
  serial_ne_nil : device.serial.toList ≠ []
  serial_size : device.serial.utf8ByteSize ≤ 79
  serial_clean : ∀ c ∈ device.serial.toList, c ≠ ' ' ∧ c ≠ '\t' ∧ c ≠ '\n'
  serial_start : device.serial.toList.head? ≠ some '*'
  state_ne_nil : device.state.toList ≠ []
  state_size : device.state.utf8ByteSize ≤ 31
  state_clean : '\n' ∉ device.state.toList
  state_start : device.state.toList.head? ≠ some ' ' ∧ device.state.toList.head? ≠ some '\t'
  model_size : device.model.utf8ByteSize ≤ 78
  model_clean : ∀ c ∈ device.model.toList, IsModelCharacter c
  model_of_offline : "offline".toList <+: device.state.toList → device.model = ""

/-! ## Entries of a list -/

/-- What a line gives: a serial number and a state, both without a newline. -/
theorem readable_of_mem_listing {output : List Char} {limit : Nat} {listed : Listed}
    (h : listed ∈ listing output limit) :
    listed.Readable ∧ '\n' ∉ listed.serial ∧ '\n' ∉ listed.state := by
  obtain ⟨read, hread, hdevice⟩ := List.mem_filterMap.mp (List.mem_of_mem_take h)
  obtain ⟨line, hline, rfl⟩ := List.mem_map.mp (List.takeWhile_subset _ hread)
  have hmalformed : Line.ofText line ≠ .malformed := by
    intro heq
    rw [heq] at hdevice
    cases hdevice
  have hshows : ShowsDevice line listed := shows_iff.mpr ⟨hmalformed, hdevice⟩
  obtain ⟨hreadable, -, separation, tail, rfl, -⟩ := hshows
  have hclean := newline_not_mem_of_mem_lines hline
  simp only [List.mem_append, not_or] at hclean
  exact ⟨hreadable, hclean.1.1.1, hclean.1.2⟩

theorem not_separator {c : Char} (h : isSeparator c = false) : c ≠ ' ' ∧ c ≠ '\t' := by
  simpa [isSeparator] using h

/-- Cutting an entry to its fields leaves it its form. -/
theorem wellFormed_written {listed : Listed} (h : listed.Readable) (hserial : '\n' ∉ listed.serial)
    (hstate : '\n' ∉ listed.state) : (SlotTable.written listed).WellFormed := by
  have hserialKept : (SlotTable.written listed).serial.toList = clip 79 listed.serial :=
    toList_fitField Device.serialCapacity _
  have hstateKept : (SlotTable.written listed).state.toList = clip 31 listed.state :=
    toList_fitField Device.stateCapacity _
  have hserialNe := clip_ne_nil (show 4 ≤ 79 by decide) h.serial_ne_nil
  have hstateNe := clip_ne_nil (show 4 ≤ 31 by decide) h.state_ne_nil
  have hserialMem {c : Char} (hc : c ∈ clip 79 listed.serial) : c ∈ listed.serial :=
    (clip_isPrefix 79 listed.serial).subset hc
  constructor
  case serial_ne_nil => rwa [hserialKept]
  case serial_size => exact utf8ByteSize_fitField_le Device.serialCapacity listed.serial
  case serial_clean =>
    intro c hc
    rw [hserialKept] at hc
    obtain ⟨hspace, htab⟩ := not_separator (h.serial_clean c (hserialMem hc))
    exact ⟨hspace, htab, fun hnewline => hserial (hnewline ▸ hserialMem hc)⟩
  case serial_start =>
    rw [hserialKept, head?_clip hserialNe]
    exact h.serial_start
  case state_ne_nil => rwa [hstateKept]
  case state_size => exact utf8ByteSize_fitField_le Device.stateCapacity listed.state
  case state_clean =>
    rw [hstateKept]
    exact fun hc => hstate ((clip_isPrefix 31 listed.state).subset hc)
  case state_start =>
    rw [hstateKept, head?_clip hstateNe]
    exact ⟨fun hspace => (not_separator (h.state_start _ hspace)).1 rfl,
      fun htab => (not_separator (h.state_start _ htab)).2 rfl⟩
  case model_size => exact Nat.zero_le 78
  case model_clean => exact fun c hc => absurd hc List.not_mem_nil
  case model_of_offline => exact fun _ => rfl

/-- The cut of a state leaves it to be seen whether it begins with `offline`. -/
theorem isOffline_written (listed : Listed) :
    (SlotTable.written listed).isOffline = true ↔ "offline".toList <+: listed.state := by
  have hkept : (SlotTable.written listed).state.toList = clip 31 listed.state :=
    toList_fitField Device.stateCapacity _
  rw [Device.isOffline, List.isPrefixOf_iff_prefix, hkept]
  exact isPrefix_clip_iff (by decide)

/-! ## Models -/

instance (c : Char) : Decidable (IsModelCharacter c) :=
  inferInstanceAs (Decidable (_ ∨ _))

/-- The bytes that a name admits are characters of one byte. -/
theorem isModelCharacter_of_admitted {byte : UInt8} (h : Admitted byte) :
    (Char.ofNat byte.toNat).toNat < 0x80 ∧ IsModelCharacter (Char.ofNat byte.toNat) := by
  have hall : ∀ bits : Fin 256, Admitted (UInt8.ofNat bits.val) →
      (Char.ofNat bits.val).toNat < 0x80 ∧ IsModelCharacter (Char.ofNat bits.val) := by
    decide +kernel
  apply hall ⟨byte.toNat, byte.toNat_lt⟩
  rwa [UInt8.ofNat_toNat]

/-- A model has characters of one byte each, and no more of them than its field holds. -/
theorem modelName_form (output : List UInt8) :
    (modelName output).utf8ByteSize ≤ 78 ∧ ∀ c ∈ (modelName output).toList, IsModelCharacter c := by
  obtain ⟨kept, hlongest, hname⟩ := longestName_of_output output
  have hform {c : Char} (hc : c ∈ kept.map fun byte => Char.ofNat byte.toNat) :
      c.toNat < 0x80 ∧ IsModelCharacter c := by
    obtain ⟨byte, hbyte, rfl⟩ := List.mem_map.mp hc
    exact isModelCharacter_of_admitted (hlongest.admitted byte hbyte)
  rw [hname, utf8ByteSize_ofList, utf8Length_of_ascii fun c hc => (hform hc).1, List.length_map,
    String.toList_ofList]
  exact ⟨hlongest.short, fun c hc => (hform hc).2⟩

theorem modelIn_form (limit : Option Number.Duration) (report : Report) :
    (modelIn limit report).utf8ByteSize ≤ 78 ∧
      ∀ c ∈ (modelIn limit report).toList, IsModelCharacter c := by
  cases hsuccess : report.success? limit with
  | none =>
    rw [modelIn_of_failure hsuccess]
    exact ⟨Nat.zero_le 78, fun c hc => absurd hc List.not_mem_nil⟩
  | some output =>
    rw [modelIn_of_success hsuccess]
    exact modelName_form output.stdout

/-- A device that is asked for its model is not offline, so it may be given one. -/
theorem Device.WellFormed.told {device : Device} (h : device.WellFormed)
    (hneeds : device.needsModel = true) (limit : Option Number.Duration) (report : Report) :
    (device.told limit report).WellFormed := by
  obtain ⟨hsize, hclean⟩ := modelIn_form limit report
  have honline := (Device.needsModel_iff.mp hneeds).1
  exact { h with
    model_size := hsize
    model_clean := hclean
    model_of_offline := fun hoffline => absurd hoffline honline }

namespace SlotTable

/-- A table in which every device has the form that it should. -/
def Tidy (table : SlotTable) : Prop :=
  ∀ slot device, table.deviceAt slot = some device → device.WellFormed

variable {table after : SlotTable} {event : Event}

theorem tidy_empty (config : Config) : Tidy (empty config) := by
  intro slot device hdevice
  rw [deviceAt_eq_some_iff, empty, List.getElem?_replicate] at hdevice
  split at hdevice
  · cases hdevice
  · cases hdevice

theorem Tidy.accept (h : Tidy table) (output : List Char) :
    Tidy (table.accept (listing output table.capacity)) := by
  have hfit := length_listing_le output table.capacity
  intro slot device hdevice
  by_cases hslot : slot < (listing output table.capacity).length
  · rw [deviceAt_accept_of_lt hfit hslot] at hdevice
    cases hdevice
    obtain ⟨hreadable, hserial, hstate⟩ := readable_of_mem_listing (List.getElem_mem hslot)
    exact wellFormed_written hreadable hserial hstate
  · rw [deviceAt_accept_of_le hfit (Nat.le_of_not_lt hslot)] at hdevice
    exact h slot device hdevice

theorem Tidy.step (h : Tidy table) (hstep : Step table event after) : Tidy after := by
  cases event with
  | reload dialogue result =>
    cases hstep.reloaded with
    | unreachable => exact h
    | unlisted => exact h
    | listed => exact h.accept _
  | next slot dialogue result =>
    obtain ⟨rfl, hadvanced⟩ := hstep.advanced
    intro other device hdevice
    by_cases hother : other = table.position
    · -- what the slot then holds is what the call returns
      rw [hother, hadvanced.deviceAt_position] at hdevice
      cases hadvanced with
      | exhausted => cases hdevice
      | known hsome =>
        cases hdevice
        exact h _ _ hsome
      | asked hsome hneeds =>
        cases hdevice
        exact (h _ _ hsome).told hneeds _ _
    · rw [hadvanced.deviceAt_of_ne hother] at hdevice
      exact h other device hdevice

theorem Tidy.trace {last : SlotTable} {events : List Event} (h : Tidy table)
    (htrace : Trace Step table events last) : Tidy last := by
  induction htrace with
  | nil => exact h
  | cons hstep _ ih => exact ih (h.step hstep)

/-- After any run every device in a slot has fields of the form and the size that they
should have, and it is offline exactly where the entry that was listed for it, uncut,
has a state that begins with `offline`. -/
theorem wellFormed_of_run {config : Config} {history : List Event} {table : SlotTable}
    (h : Run config history table) (slot : Nat) (device : Device)
    (hdevice : table.deviceAt slot = some device) :
    device.WellFormed ∧
      ∃ listed, latest slot (listings config.deviceLimit history) = some listed ∧
        device.identity = listed.stored ∧
        (device.isOffline = true ↔ "offline".toList <+: listed.state) := by
  refine ⟨(tidy_empty config).trace h.trace slot device hdevice, ?_⟩
  have hslot := h.filled.1.slots slot
  rw [hdevice, Option.map_some] at hslot
  obtain ⟨listed, hlatest, hstored⟩ := Option.map_eq_some_iff.mp hslot.symm
  refine ⟨listed, hlatest, hstored.symm, ?_⟩
  have hstate : device.state = (written listed).state := congrArg Prod.snd hstored.symm
  rw [← isOffline_written, Device.isOffline, Device.isOffline, hstate]

/-- A serial number of thirty bytes that are no text, a state longer than its field, and a
device whose model is learnt. -/
def wideList : List UInt8 :=
  List.replicate 30 0xFF ++
    Utf8.encode "\toffline since the last time it was seen\nB\tdevice\n".toList

def wideListRun : List Event × SlotTable :=
  preparedRun (smallConfig 2)
    [printed "" 0, printed "" 0, ⟨.ok (.success wideList), ⟨0⟩⟩, printed "Pixel 7 (x)\n" 0]
    [.reload, .next, .next]

/-- The first serial number is cut between two marks of broken bytes, and the cut state is
still that of an offline device. -/
theorem wellFormed_of_wideListRun :
    ∃ first second, wideListRun.2.deviceAt 0 = some first ∧
      wideListRun.2.deviceAt 1 = some second ∧
      first.identity = (String.ofList (List.replicate 26 '\uFFFD'),
        "offline since the last time it ") ∧
      first.WellFormed ∧ first.isOffline = true ∧
      second = ⟨"B", "device", "Pixel 7 "⟩ ∧ second.WellFormed ∧ second.isOffline = false := by
  have hrun : Run (smallConfig 2) wideListRun.1 wideListRun.2 := run_preparedRun _ _ _
  have hfirst : wideListRun.2.deviceAt 0 = some ⟨String.ofList (List.replicate 26 '\uFFFD'),
      "offline since the last time it ", ""⟩ := by decide +kernel
  have hsecond : wideListRun.2.deviceAt 1 = some ⟨"B", "device", "Pixel 7 "⟩ := by decide +kernel
  obtain ⟨hformed, listed, hlatest, -, hoffline⟩ := wellFormed_of_run hrun 0 _ hfirst
  have hstate : (latest 0 (listings (smallConfig 2).deviceLimit wideListRun.1)).map Listed.state =
      some "offline since the last time it was seen".toList := by decide +kernel
  rw [hlatest, Option.map_some, Option.some.injEq] at hstate
  refine ⟨_, _, hfirst, hsecond, rfl, hformed, hoffline.mpr ?_, rfl,
    (wellFormed_of_run hrun 1 _ hsecond).1, by decide⟩
  rw [hstate]
  decide

end SlotTable

end Tethered.Adb
