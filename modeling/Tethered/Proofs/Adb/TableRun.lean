import Tethered.Adb.SlotTable
import Tethered.Proofs.Adb.Checked

/-!
# Runs of the table of devices

A call on the table is an event: what was asked and answered in its course, and
what it returned. What a call can do is said once, by cases, with the reports of
the runner left arbitrary; every statement about runs rests on these cases. A run
begins with a new table, whatever came of starting the server.
-/
namespace Tethered.Adb

open Tool

namespace SlotTable

/-- The slot that the next call is about. -/
def position (table : SlotTable) : Nat := table.wrapped.cursor

def deviceAt (table : SlotTable) (slot : Nat) : Option Device := table.slots[slot]?.join

@[simp] theorem wrapped_slots (table : SlotTable) : table.wrapped.slots = table.slots := by
  unfold wrapped
  split <;> rfl

@[simp] theorem wrapped_config (table : SlotTable) : table.wrapped.config = table.config := by
  unfold wrapped
  split <;> rfl

@[simp] theorem wrapped_count (table : SlotTable) : table.wrapped.count = table.count := by
  unfold wrapped
  split <;> rfl

theorem position_eq (table : SlotTable) :
    table.position = if table.capacity ≤ table.cursor then 0 else table.cursor := by
  unfold position wrapped
  split <;> rfl

/-- The commands of a reload, and the question for a model. -/
def reconnecting (config : Config) : Invocation :=
  invocation config none ["reconnect", "offline"] false

def devicesQuery (config : Config) : Invocation := invocation config none ["devices"] true

def modelQuery (config : Config) (serial : String) : Invocation :=
  invocation config (some serial) ["shell", "getprop", "ro.product.model"] true

/-- What a reload can come to. -/
inductive Reloaded (table : SlotTable) :
    List (Exchange interface) → Except Failure Nat → SlotTable → Prop
  | unreachable {report : Report} {failure : Failure}
      (hfail : verdict table.config "adb r.o." (reconnecting table.config).command report =
        .error failure) :
      Reloaded table [⟨reconnecting table.config, report⟩] (.error failure) table
  | unlisted {first second : Report} {banner : Output} {failure : Failure}
      (hfirst : first.success? table.config.timeLimit = some banner)
      (hfail : verdict table.config "adb devices" (devicesQuery table.config).command second =
        .error failure) :
      Reloaded table [⟨reconnecting table.config, first⟩, ⟨devicesQuery table.config, second⟩]
        (.error failure) table
  | listed {first second : Report} {banner output : Output}
      (hfirst : first.success? table.config.timeLimit = some banner)
      (hsecond : second.success? table.config.timeLimit = some output) :
      Reloaded table [⟨reconnecting table.config, first⟩, ⟨devicesQuery table.config, second⟩]
        (.ok (listing output.text table.capacity).length)
        (table.accept (listing output.text table.capacity))

theorem reloaded_of_yields {table after : SlotTable} {dialogue : List (Exchange interface)}
    {records : List Record} {result : Except Failure Nat}
    (h : table.reload.Yields dialogue records (result, after)) :
    Reloaded table dialogue result after := by
  obtain ⟨listed, hlist, hresult⟩ := Procedure.yields_map_iff.mp h
  rcases Procedure.yields_onSuccess_iff.mp hlist with
    ⟨failure, hfirst, rfl⟩ | ⟨before, later, early, late, banner, rfl, rfl, hfirst, hsecond⟩
  · obtain ⟨report, rfl, rfl, hfail⟩ := (yields_runChecked_iff (by decide)).mp hfirst
    cases hresult
    exact .unreachable hfail.symm
  · obtain ⟨first, rfl, rfl, hok⟩ := (yields_runChecked_iff (by decide)).mp hfirst
    obtain ⟨second, rfl, rfl, hverdict⟩ := (yields_runChecked_iff (by decide)).mp hsecond
    have hbanner := verdict_eq_ok_iff.mp hok.symm
    cases listed with
    | error failure =>
      cases hresult
      exact .unlisted hbanner hverdict.symm
    | ok output =>
      cases hresult
      exact .listed hbanner (verdict_eq_ok_iff.mp hverdict.symm)

theorem Reloaded.eq_of_error {table after : SlotTable} {dialogue : List (Exchange interface)}
    {failure : Failure} (h : Reloaded table dialogue (.error failure) after) : after = table := by
  cases h with
  | unreachable => rfl
  | unlisted => rfl

end SlotTable

/-- The name of the model that a report gives, empty where it gives none. -/
def modelIn (limit : Option Number.Duration) (report : Report) : String :=
  ((report.success? limit).map fun output => modelName output.stdout).getD ""

def Device.told (device : Device) (limit : Option Number.Duration) (report : Report) : Device :=
  { device with model := modelIn limit report }

theorem modelIn_of_success {limit : Option Number.Duration} {report : Report} {output : Output}
    (h : report.success? limit = some output) : modelIn limit report = modelName output.stdout := by
  rw [modelIn, h, Option.map_some, Option.getD_some]

theorem modelIn_of_failure {limit : Option Number.Duration} {report : Report}
    (h : report.success? limit = none) : modelIn limit report = "" := by
  rw [modelIn, h, Option.map_none, Option.getD_none]

theorem Device.model_of_needsModel {device : Device} (h : device.needsModel = true) :
    device.model = "" := by
  unfold Device.needsModel at h
  simpa using (Bool.and_eq_true_iff.mp h).2

theorem Device.told_of_error {config : Config} {name : String} {command : CommandLine}
    {device : Device} {report : Report} {failure : Failure} (hmodel : device.needsModel = true)
    (hverdict : verdict config name command report = .error failure) :
    device.told config.timeLimit report = device := by
  have hnone : report.success? config.timeLimit = none := by
    apply Option.eq_none_iff_forall_ne_some.mpr
    intro output hsome
    rw [verdict_eq_ok_iff.mpr hsome] at hverdict
    cases hverdict
  rw [Device.told, modelIn_of_failure hnone, ← Device.model_of_needsModel hmodel]

namespace SlotTable

inductive Advanced (table : SlotTable) :
    List (Exchange interface) → Option Device → SlotTable → Prop
  | exhausted (hnone : table.deviceAt table.position = none) :
      Advanced table [] none table.wrapped
  | known {device : Device} (hsome : table.deviceAt table.position = some device)
      (hmodel : device.needsModel = false) :
      Advanced table [] (some device) (table.wrapped.learn device)
  | asked {device : Device} {report : Report}
      (hsome : table.deviceAt table.position = some device) (hmodel : device.needsModel = true) :
      Advanced table [⟨modelQuery table.config device.serial, report⟩]
        (some (device.told table.config.timeLimit report))
        (table.wrapped.learn (device.told table.config.timeLimit report))

/-- What the answer to a question for a model makes of the device under the cursor. -/
def answered (table : SlotTable) (device : Device) :
    Except Failure Output → Option Device × SlotTable
  | .error _ => (some device, table.wrapped.learn device)
  | .ok output =>
      let device := { device with model := modelName output.stdout }
      (some device, table.wrapped.learn device)

theorem next_eq (table : SlotTable) :
    table.next =
      match table.deviceAt table.position with
      | none => .done (none, table.wrapped)
      | some device =>
          if device.needsModel then
            (askModel table.config device.serial).map (table.answered device)
          else .done (some device, table.wrapped.learn device) := by
  have hdevice : table.wrapped.slots[table.wrapped.cursor]?.join =
      table.deviceAt table.position := by
    rw [wrapped_slots]
    rfl
  unfold next
  simp only [hdevice, wrapped_config]
  cases table.deviceAt table.position with
  | none => rfl
  | some device => rfl

theorem advanced_of_yields {table after : SlotTable} {dialogue : List (Exchange interface)}
    {records : List Record} {result : Option Device}
    (h : table.next.Yields dialogue records (result, after)) :
    Advanced table dialogue result after := by
  rw [next_eq] at h
  cases hsome : table.deviceAt table.position with
  | none =>
    simp only [hsome] at h
    obtain ⟨rfl, rfl, heq⟩ := Procedure.yields_done_iff.mp h
    cases heq
    exact .exhausted hsome
  | some device =>
    simp only [hsome] at h
    cases hmodel : device.needsModel with
    | false =>
      simp only [hmodel] at h
      obtain ⟨rfl, rfl, heq⟩ := Procedure.yields_done_iff.mp h
      cases heq
      exact .known hsome hmodel
    | true =>
      simp only [hmodel, if_true] at h
      obtain ⟨answer, hanswer, heq⟩ := Procedure.yields_map_iff.mp h
      obtain ⟨report, rfl, rfl, hverdict⟩ := (yields_runChecked_iff (by decide)).mp hanswer
      have hasked := @Advanced.asked table device report hsome hmodel
      cases answer with
      | error failure =>
        cases heq
        rw [Device.told_of_error hmodel hverdict.symm] at hasked
        exact hasked
      | ok output =>
        cases heq
        have htold : device.told table.config.timeLimit report =
            { device with model := modelName output.stdout } := by
          rw [Device.told, modelIn_of_success (verdict_eq_ok_iff.mp hverdict.symm)]
        rw [htold] at hasked
        exact hasked

/-! ## What the calls leave in the slots -/

theorem deviceAt_eq_some_iff {table : SlotTable} {slot : Nat} {device : Device} :
    table.deviceAt slot = some device ↔ table.slots[slot]? = some (some device) :=
  Option.join_eq_some_iff

theorem lt_capacity_of_deviceAt {table : SlotTable} {slot : Nat} {device : Device}
    (h : table.deviceAt slot = some device) : slot < table.capacity :=
  (List.getElem?_eq_some_iff.mp (deviceAt_eq_some_iff.mp h)).1

@[simp] theorem deviceAt_wrapped (table : SlotTable) (slot : Nat) :
    table.wrapped.deviceAt slot = table.deviceAt slot := by
  unfold deviceAt
  rw [wrapped_slots]

@[simp] theorem capacity_wrapped (table : SlotTable) : table.wrapped.capacity = table.capacity := by
  unfold capacity
  rw [wrapped_slots]

@[simp] theorem capacity_learn (table : SlotTable) (device : Device) :
    (table.learn device).capacity = table.capacity := List.length_set

theorem deviceAt_learn_self {table : SlotTable} (device : Device)
    (h : table.cursor < table.capacity) :
    (table.learn device).deviceAt table.cursor = some device := by
  simp only [deviceAt, learn]
  rw [List.getElem?_set_self h]
  rfl

theorem deviceAt_learn_of_ne {table : SlotTable} (device : Device) {slot : Nat}
    (h : slot ≠ table.cursor) : (table.learn device).deviceAt slot = table.deviceAt slot := by
  simp only [deviceAt, learn]
  rw [List.getElem?_set_ne (Ne.symm h)]

theorem overwrite_eq_append {devices : List Device} {slots : List (Option Device)}
    (h : devices.length ≤ slots.length) :
    overwrite devices slots = devices.map some ++ slots.drop devices.length := by
  induction devices generalizing slots with
  | nil => rfl
  | cons device devices ih =>
    cases slots with
    | nil => simp at h
    | cons slot slots =>
      have hlength : devices.length ≤ slots.length := by simpa using h
      simp only [overwrite, ih hlength, List.map_cons, List.cons_append, List.length_cons,
        List.drop_succ_cons]

/-- The device that a slot holds right after a list wrote it. -/
def written (listed : Listed) : Device :=
  Device.listed (String.ofList listed.serial) (String.ofList listed.state)

theorem accept_slots {table : SlotTable} {found : List Listed}
    (h : found.length ≤ table.capacity) :
    (table.accept found).slots =
      (found.map written).map some ++ table.slots.drop found.length := by
  have hlength : (found.map written).length ≤ table.slots.length := by
    rw [List.length_map]
    exact h
  change overwrite (found.map written) table.slots = _
  rw [overwrite_eq_append hlength, List.length_map]

theorem capacity_accept {table : SlotTable} {found : List Listed}
    (h : found.length ≤ table.capacity) : (table.accept found).capacity = table.capacity := by
  unfold capacity at h ⊢
  rw [accept_slots h]
  simp only [List.length_append, List.length_map, List.length_drop]
  omega

theorem deviceAt_accept_of_lt {table : SlotTable} {found : List Listed} {slot : Nat}
    (h : found.length ≤ table.capacity) (hslot : slot < found.length) :
    (table.accept found).deviceAt slot = some (written found[slot]) := by
  unfold deviceAt
  rw [accept_slots h, List.getElem?_append_left (by simpa using hslot)]
  simp [hslot]

theorem deviceAt_accept_of_le {table : SlotTable} {found : List Listed} {slot : Nat}
    (h : found.length ≤ table.capacity) (hslot : found.length ≤ slot) :
    (table.accept found).deviceAt slot = table.deviceAt slot := by
  unfold deviceAt
  rw [accept_slots h, List.getElem?_append_right (by simpa using hslot), List.getElem?_drop]
  simp [Nat.add_sub_cancel' hslot]

theorem length_listing_le (output : List Char) (limit : Nat) :
    (listing output limit).length ≤ limit := List.length_take_le ..

namespace Advanced

variable {table after : SlotTable} {dialogue : List (Exchange interface)}
variable {result : Option Device}

theorem config_eq (h : Advanced table dialogue result after) : after.config = table.config := by
  cases h <;> exact wrapped_config table

theorem count_eq (h : Advanced table dialogue result after) : after.count = table.count := by
  cases h <;> exact wrapped_count table

theorem capacity_eq (h : Advanced table dialogue result after) :
    after.capacity = table.capacity := by
  cases h <;> simp

/-- The cursor moves on past a device and stays at an empty slot. -/
theorem cursor_eq (h : Advanced table dialogue result after) :
    after.cursor = if result.isSome then table.position + 1 else table.position := by
  cases h <;> rfl

theorem deviceAt_of_ne (h : Advanced table dialogue result after) {slot : Nat}
    (hslot : slot ≠ table.position) : after.deviceAt slot = table.deviceAt slot := by
  cases h with
  | exhausted => exact deviceAt_wrapped table slot
  | known => rw [deviceAt_learn_of_ne _ hslot, deviceAt_wrapped]
  | asked => rw [deviceAt_learn_of_ne _ hslot, deviceAt_wrapped]

/-- What is returned is what the slot then holds. -/
theorem deviceAt_position (h : Advanced table dialogue result after) :
    after.deviceAt table.position = result := by
  cases h with
  | exhausted hnone => rw [deviceAt_wrapped, hnone]
  | known hsome =>
    exact deviceAt_learn_self _ (by rw [capacity_wrapped]; exact lt_capacity_of_deviceAt hsome)
  | asked hsome =>
    exact deviceAt_learn_self _ (by rw [capacity_wrapped]; exact lt_capacity_of_deviceAt hsome)

end Advanced

/-! ## Calls and runs -/

inductive Call where
  | reload
  | next
  deriving DecidableEq, Repr

/-- A call in its course: the questions with their answers, and what it returned.
A call for the next device also shows which slot it was about. -/
inductive Event where
  | reload (dialogue : List (Exchange interface)) (result : Except Failure Nat)
  | next (slot : Nat) (dialogue : List (Exchange interface)) (result : Option Device)

def Event.call : Event → Call
  | .reload .. => .reload
  | .next .. => .next

/-- One call, under any answers. -/
inductive Step : SlotTable → Event → SlotTable → Prop
  | reload {table after : SlotTable} {dialogue : List (Exchange interface)}
      {records : List Record} {result : Except Failure Nat}
      (h : table.reload.Yields dialogue records (result, after)) :
      Step table (.reload dialogue result) after
  | next {table after : SlotTable} {dialogue : List (Exchange interface)}
      {records : List Record} {result : Option Device}
      (h : table.next.Yields dialogue records (result, after)) :
      Step table (.next table.position dialogue result) after

theorem Step.reloaded {table after : SlotTable} {dialogue : List (Exchange interface)}
    {result : Except Failure Nat} (h : Step table (.reload dialogue result) after) :
    Reloaded table dialogue result after := by
  cases h with
  | reload h => exact reloaded_of_yields h

theorem Step.advanced {table after : SlotTable} {slot : Nat}
    {dialogue : List (Exchange interface)} {result : Option Device}
    (h : Step table (.next slot dialogue result) after) :
    slot = table.position ∧ Advanced table dialogue result after := by
  cases h with
  | next h => exact ⟨rfl, advanced_of_yields h⟩

theorem Step.config_eq {table after : SlotTable} {event : Event} (h : Step table event after) :
    after.config = table.config := by
  cases h with
  | reload h =>
    cases reloaded_of_yields h with
    | unreachable => rfl
    | unlisted => rfl
    | listed => rfl
  | next h => exact (advanced_of_yields h).config_eq

theorem trace_config_eq {table last : SlotTable} {events : List Event}
    (h : Trace Step table events last) : last.config = table.config := by
  induction h with
  | nil => rfl
  | cons hstep _ ih => rw [ih, hstep.config_eq]

/-- A new table and the calls made on it so far, the earliest first. -/
def Run (config : Config) (history : List Event) (table : SlotTable) : Prop :=
  ∃ dialogue records new, (create config).Yields dialogue records new ∧
    Trace Step new history table

theorem eq_empty_of_create {config : Config} {dialogue : List (Exchange interface)}
    {records : List Record} {table : SlotTable}
    (h : (create config).Yields dialogue records table) : table = empty config := by
  obtain ⟨_, _, heq⟩ := Procedure.yields_map_iff.mp h
  exact heq

theorem Run.trace {config : Config} {history : List Event} {table : SlotTable}
    (h : Run config history table) : Trace Step (empty config) history table := by
  obtain ⟨dialogue, records, new, hnew, htrace⟩ := h
  rwa [eq_empty_of_create hnew] at htrace

theorem Run.append {config : Config} {history later : List Event} {table last : SlotTable}
    (h : Run config history table) (hlater : Trace Step table later last) :
    Run config (history ++ later) last := by
  obtain ⟨dialogue, records, new, hnew, htrace⟩ := h
  exact ⟨dialogue, records, new, hnew, htrace.append hlater⟩

theorem step_next {σ : Type} (surroundings : Procedure.Surroundings interface σ) (state : σ)
    (table : SlotTable) :
    let outcome := Procedure.run surroundings state table.next
    Step table (.next table.position (Procedure.dialogueWith surroundings state table.next)
      outcome.result.1) outcome.result.2 :=
  .next (Procedure.yields_dialogueWith surroundings state table.next)

theorem step_reload {σ : Type} (surroundings : Procedure.Surroundings interface σ) (state : σ)
    (table : SlotTable) :
    let outcome := Procedure.run surroundings state table.reload
    Step table (.reload (Procedure.dialogueWith surroundings state table.reload)
      outcome.result.1) outcome.result.2 :=
  .reload (Procedure.yields_dialogueWith surroundings state table.reload)

def carryOut {σ : Type} (surroundings : Procedure.Surroundings interface σ) (state : σ)
    (table : SlotTable) : List Call → List Event × SlotTable
  | [] => ([], table)
  | .reload :: calls =>
      let outcome := Procedure.run surroundings state table.reload
      let later := carryOut surroundings outcome.state outcome.result.2 calls
      (.reload (Procedure.dialogueWith surroundings state table.reload) outcome.result.1 :: later.1,
        later.2)
  | .next :: calls =>
      let outcome := Procedure.run surroundings state table.next
      let later := carryOut surroundings outcome.state outcome.result.2 calls
      (.next table.position (Procedure.dialogueWith surroundings state table.next)
        outcome.result.1 :: later.1, later.2)

/-- Calls made against surroundings all return, and make a trace. -/
theorem trace_carryOut {σ : Type} (surroundings : Procedure.Surroundings interface σ) (state : σ)
    (table : SlotTable) (calls : List Call) :
    Trace Step table (carryOut surroundings state table calls).1
      (carryOut surroundings state table calls).2 := by
  induction calls generalizing state table with
  | nil => exact .nil table
  | cons call calls ih =>
    cases call with
    | reload => exact .cons (step_reload surroundings state table) (ih _ _)
    | next => exact .cons (step_next surroundings state table) (ih _ _)

theorem run_carryOut {σ : Type} (surroundings : Procedure.Surroundings interface σ) (state : σ)
    (config : Config) (calls : List Call) :
    let new := Procedure.run surroundings state (create config)
    Run config (carryOut surroundings new.state new.result calls).1
      (carryOut surroundings new.state new.result calls).2 :=
  ⟨_, _, _, Procedure.yields_dialogueWith surroundings state _, trace_carryOut _ _ _ _⟩

/-- A report of a command that printed a text, ended with a code and took no time. -/
def printed (text : String) (code : Int32) : Report :=
  ⟨.ok ⟨.exited code, Text.Utf8.encode text.toList⟩, ⟨0⟩⟩

/-- Surroundings that give prepared reports in order, and then empty successes. -/
def prepared : Procedure.Surroundings interface (List Report) := fun _ reports =>
  (reports.headD (printed "" 0), reports.tail)

def smallConfig (slots : Nat) : Config := { Config.standard with deviceLimit := slots }

/-- The run of a new table with prepared reports, the first for starting the server. -/
def preparedRun (config : Config) (reports : List Report) (calls : List Call) :
    List Event × SlotTable :=
  let new := Procedure.run prepared reports (create config)
  carryOut prepared new.state new.result calls

theorem run_preparedRun (config : Config) (reports : List Report) (calls : List Call) :
    Run config (preparedRun config reports calls).1 (preparedRun config reports calls).2 :=
  run_carryOut prepared reports config calls

end SlotTable

end Tethered.Adb
