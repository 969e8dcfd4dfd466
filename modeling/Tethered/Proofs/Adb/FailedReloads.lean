import Tethered.Proofs.Adb.TableRun

/-!
# Reloads that fail

A reload that fails leaves the table as it was and returns the failure of the first of
its commands that failed; behind that command nothing is run. So failed reloads can be
left out of a run: what else is done with the table returns what it did, as long as its
commands are answered as they were. What is recorded in the journal is no part of this.
-/
namespace Tethered.Tool

/-- Whether a report came within the time allowed. -/
def Report.InTime (report : Report) (limit : Option Number.Duration) : Prop :=
  ∀ allowed, limit = some allowed → report.elapsed.nanoseconds ≤ allowed.nanoseconds

/-- How a report is a failure for whoever requires success of the command called `name`:
time ran out, the runner gave up the command, or the command ended in another way than
with the code zero. -/
inductive Report.FailsAs (limit : Option Number.Duration) (name : String) (command : CommandLine)
    (report : Report) : Failure → Prop
  | late {allowed : Number.Duration} (hlimit : limit = some allowed)
      (htime : allowed.nanoseconds < report.elapsed.nanoseconds) :
      FailsAs limit name command report (.timedOut command.display allowed)
  | unrun {failure : Failure} (htime : report.InTime limit)
      (houtcome : report.outcome = .error failure) : FailsAs limit name command report failure
  | exited {output : Output} {code : Int32} (htime : report.InTime limit)
      (houtcome : report.outcome = .ok output) (hstatus : output.status = .exited code)
      (hcode : code ≠ 0) : FailsAs limit name command report (.exitStatus name code)
  | terminated {output : Output} (htime : report.InTime limit)
      (houtcome : report.outcome = .ok output) (hstatus : output.status = .terminated) :
      FailsAs limit name command report (.terminated name)

theorem Report.within_of_inTime {report : Report} {limit : Option Number.Duration}
    (h : report.InTime limit) (command : CommandLine) :
    report.within limit command = report.outcome := by
  cases limit with
  | none => rfl
  | some allowed => exact if_neg (Nat.not_lt.mpr (h allowed rfl))

theorem Report.within_of_late {report : Report} {allowed : Number.Duration}
    (h : allowed.nanoseconds < report.elapsed.nanoseconds) (command : CommandLine) :
    report.within (some allowed) command = .error (.timedOut command.display allowed) := if_pos h

end Tethered.Tool

namespace Tethered.Adb

open Tool

theorem verdict_eq_error_iff {config : Config} {name : String} {command : CommandLine}
    {report : Report} {failure : Failure} :
    verdict config name command report = .error failure ↔
      report.FailsAs config.timeLimit name command failure := by
  unfold verdict
  constructor
  · intro h
    rcases report.elapsed.keeps_or_exceeds config.timeLimit with htime | ⟨allowed, hlimit, hlate⟩
    · rw [Report.within_of_inTime htime] at h
      cases houtcome : report.outcome with
      | error given =>
        rw [houtcome] at h
        cases h
        exact .unrun htime houtcome
      | ok output =>
        simp only [houtcome, Output.failure?] at h
        cases hstatus : output.status with
        | terminated =>
          rw [hstatus] at h
          cases h
          exact .terminated htime houtcome hstatus
        | exited code =>
          by_cases hcode : code = 0
          · simp [hstatus, hcode] at h
          · simp only [hstatus, if_neg hcode] at h
            cases h
            exact .exited htime houtcome hstatus hcode
    · rw [hlimit, Report.within_of_late hlate] at h
      cases h
      exact .late hlimit hlate
  · intro h
    cases h with
    | late hlimit hlate => rw [hlimit, Report.within_of_late hlate]
    | unrun htime houtcome => rw [Report.within_of_inTime htime, houtcome]
    | exited htime houtcome hstatus hcode =>
      simp [Report.within_of_inTime htime, houtcome, Output.failure?, hstatus, hcode]
    | terminated htime houtcome hstatus =>
      simp [Report.within_of_inTime htime, houtcome, Output.failure?, hstatus]

theorem yields_runChecked_of_failsAs {config : Config} {name : String} {serial : Option String}
    {arguments : List String} {capture : Bool} {report : Report} {failure : Failure}
    (hlimit : arguments.length ≤ argumentLimit)
    (h : report.FailsAs config.timeLimit name (invocation config serial arguments capture).command
      failure) :
    ∃ records, (runChecked config name serial arguments capture).Yields
      [⟨invocation config serial arguments capture, report⟩] records (.error failure) :=
  ⟨_, (yields_runChecked_iff hlimit).mpr ⟨report, rfl, rfl, (verdict_eq_error_iff.mpr h).symm⟩⟩

/-! ## The same answers again -/

/-- The reports that the commands of a dialogue got. -/
def reportsIn (dialogue : List (Exchange interface)) : List Report :=
  dialogue.map fun exchange => exchange.answer

/-- The reports decide the course: what is run, what is recorded and what comes of it. -/
theorem yields_unique {α : Type} {procedure : Procedure interface α}
    {dialogue other : List (Exchange interface)} {records left : List Record} {result value : α}
    (h : procedure.Yields dialogue records result) (hother : procedure.Yields other left value)
    (hreports : reportsIn dialogue = reportsIn other) :
    dialogue = other ∧ records = left ∧ result = value := by
  induction h generalizing other left with
  | done result =>
    obtain ⟨rfl, rfl, rfl⟩ := Procedure.yields_done_iff.mp hother
    exact ⟨rfl, rfl, rfl⟩
  | record _ ih =>
    obtain ⟨later, rfl, hrest⟩ := Procedure.yields_record_iff.mp hother
    obtain ⟨rfl, rfl, rfl⟩ := ih hrest hreports
    exact ⟨rfl, rfl, rfl⟩
  | ask answer _ ih =>
    obtain ⟨report, later, rfl, hresume⟩ := Procedure.yields_ask_iff.mp hother
    obtain ⟨hanswer, hlater⟩ := List.cons.inj hreports
    obtain rfl : answer = report := hanswer
    obtain ⟨rfl, rfl, rfl⟩ := ih hresume hlater
    exact ⟨rfl, rfl, rfl⟩

namespace SlotTable

/-! ## What is done with a table -/

/-- What can be done with a table. Its devices and its count are shown without a command. -/
inductive Request where
  | reload
  | next
  | devices
  | count
  deriving DecidableEq, Repr

/-- What a request returns. -/
inductive Returned where
  | reloaded (result : Except Failure Nat)
  | next (device : Option Device)
  | devices (shown : List Device)
  | count (shown : Nat)

def Request.perform (table : SlotTable) : Request → Procedure interface (Returned × SlotTable)
  | reload => table.reload.map fun (result, after) => (.reloaded result, after)
  | next => table.next.map fun (device, after) => (.next device, after)
  | devices => .done (.devices table.devices, table)
  | count => .done (.count table.count, table)

/-- A request in its course: the commands with their reports, what was recorded, and what
was returned. -/
structure Act where
  request : Request
  dialogue : List (Exchange interface)
  records : List Record
  returned : Returned

/-- What an act depends on besides the table: the request, and how its commands are answered. -/
def Act.script (act : Act) : Request × List Report := (act.request, reportsIn act.dialogue)

/-- A reload in its course that has failed. -/
def Act.Failed (act : Act) : Prop :=
  act.request = .reload ∧ ∃ failure, act.returned = .reloaded (.error failure)

/-- One request, under any reports. -/
def Acts (table : SlotTable) (act : Act) (after : SlotTable) : Prop :=
  (act.request.perform table).Yields act.dialogue act.records (act.returned, after)

/-- A new table, and what has been done with it since, the earliest first. -/
def Course (config : Config) (history : List Act) (table : SlotTable) : Prop :=
  ∃ dialogue records new, (create config).Yields dialogue records new ∧
    Trace Acts new history table

/-- Acts of which some failed reloads are left out. -/
inductive Thinned : List Act → List Act → Prop
  | nil : Thinned [] []
  | keep {acts kept : List Act} (act : Act) (h : Thinned acts kept) :
      Thinned (act :: acts) (act :: kept)
  | leave {act : Act} {acts kept : List Act} (hact : act.Failed) (h : Thinned acts kept) :
      Thinned (act :: acts) kept

/-- The commands of a reload that fails, with their reports, and the failure of the reload.
Nothing is run behind the first command that fails. -/
inductive BreaksOff (config : Config) : List (Exchange interface) → Failure → Prop
  | unreachable {report : Report} {failure : Failure}
      (h : report.FailsAs config.timeLimit "adb r.o." (reconnecting config).command failure) :
      BreaksOff config [⟨reconnecting config, report⟩] failure
  | unlisted {first second : Report} {banner : Output} {failure : Failure}
      (hfirst : first.success? config.timeLimit = some banner)
      (hsecond : second.FailsAs config.timeLimit "adb devices" (devicesQuery config).command
        failure) :
      BreaksOff config [⟨reconnecting config, first⟩, ⟨devicesQuery config, second⟩] failure

section
variable {config : Config} {table after : SlotTable} {act : Act} {acts kept history : List Act}
variable {dialogue : List (Exchange interface)} {failure : Failure}

theorem breaksOff_of_reloaded (h : Reloaded table dialogue (.error failure) after) :
    after = table ∧ BreaksOff table.config dialogue failure := by
  cases h with
  | unreachable hfail => exact ⟨rfl, .unreachable (verdict_eq_error_iff.mp hfail)⟩
  | unlisted hfirst hfail => exact ⟨rfl, .unlisted hfirst (verdict_eq_error_iff.mp hfail)⟩

theorem exists_yields_of_breaksOff (h : BreaksOff table.config dialogue failure) :
    ∃ records, table.reload.Yields dialogue records (.error failure, table) := by
  have hlist : ∃ records,
      (listDevices table.config).Yields dialogue records (.error failure) := by
    cases h with
    | unreachable hfail =>
      obtain ⟨records, hyields⟩ : ∃ records,
          (runChecked table.config "adb r.o." none ["reconnect", "offline"] false).Yields _ records
            (.error failure) := yields_runChecked_of_failsAs (by decide) hfail
      exact ⟨records, Procedure.yields_onSuccess_iff.mpr (.inl ⟨failure, hyields, rfl⟩)⟩
    | unlisted hfirst hsecond =>
      obtain ⟨early, hearly⟩ : ∃ early,
          (runChecked table.config "adb r.o." none ["reconnect", "offline"] false).Yields _ early
            (.ok _) := yields_runChecked_of_success (by decide) hfirst
      obtain ⟨late, hlate⟩ : ∃ late,
          (runChecked table.config "adb devices" none ["devices"] true).Yields _ late
            (.error failure) := yields_runChecked_of_failsAs (by decide) hsecond
      exact ⟨early ++ late, Procedure.yields_onSuccess_iff.mpr
        (.inr ⟨_, _, early, late, _, rfl, rfl, hearly, hlate⟩)⟩
  obtain ⟨records, hyields⟩ := hlist
  exact ⟨records, Procedure.yields_map_iff.mpr ⟨_, hyields, rfl⟩⟩

theorem acts_reload_iff {records : List Record} {result : Except Failure Nat} :
    Acts table ⟨.reload, dialogue, records, .reloaded result⟩ after ↔
      table.reload.Yields dialogue records (result, after) := by
  rw [Acts, Request.perform, Procedure.yields_map_iff]
  constructor
  · rintro ⟨⟨given, left⟩, hyields, heq⟩
    cases heq
    exact hyields
  · exact fun hyields => ⟨(result, after), hyields, rfl⟩

/-- A reload that fails has come to the first command that failed, and the table is what it was. -/
theorem exists_acts_failed_iff :
    (∃ records, Acts table ⟨.reload, dialogue, records, .reloaded (.error failure)⟩ after) ↔
      after = table ∧ BreaksOff table.config dialogue failure := by
  simp only [acts_reload_iff]
  constructor
  · rintro ⟨records, hyields⟩
    exact breaksOff_of_reloaded (reloaded_of_yields hyields)
  · rintro ⟨rfl, hbreaks⟩
    exact exists_yields_of_breaksOff hbreaks

theorem Acts.eq_of_failed (h : Acts table act after) (hact : act.Failed) : after = table := by
  obtain ⟨request, dialogue, records, returned⟩ := act
  obtain ⟨rfl, failure, rfl⟩ := hact
  exact (exists_acts_failed_iff.mp ⟨records, h⟩).1

theorem Acts.unique {other : Act} {last : SlotTable} (h : Acts table act after)
    (hother : Acts table other last) (hscript : act.script = other.script) :
    act = other ∧ after = last := by
  obtain ⟨request, dialogue, records, returned⟩ := act
  obtain ⟨otherRequest, otherDialogue, otherRecords, otherReturned⟩ := other
  obtain ⟨rfl, hreports⟩ := Prod.mk.inj hscript
  obtain ⟨rfl, rfl, heq⟩ := yields_unique h hother hreports
  obtain ⟨rfl, rfl⟩ := Prod.mk.inj heq
  exact ⟨rfl, rfl⟩

theorem trace_thinned {last : SlotTable} (hthinned : Thinned acts kept)
    (h : Trace Acts table acts last) : Trace Acts table kept last := by
  induction hthinned generalizing table with
  | nil => exact h
  | keep act _ ih =>
    cases h with
    | cons hact hrest => exact .cons hact (ih hrest)
  | leave hfailed _ ih =>
    cases h with
    | cons hact hrest =>
      obtain rfl := hact.eq_of_failed hfailed
      exact ih hrest

theorem Acts.config_eq (h : Acts table act after) : after.config = table.config := by
  obtain ⟨request, dialogue, records, returned⟩ := act
  cases request with
  | reload =>
    obtain ⟨⟨result, _⟩, hreload, heq⟩ := Procedure.yields_map_iff.mp h
    cases heq
    exact (Step.reload hreload).config_eq
  | next =>
    obtain ⟨⟨device, _⟩, hnext, heq⟩ := Procedure.yields_map_iff.mp h
    cases heq
    exact (Step.next hnext).config_eq
  | devices =>
    obtain ⟨-, -, heq⟩ := Procedure.yields_done_iff.mp h
    cases heq
    rfl
  | count =>
    obtain ⟨-, -, heq⟩ := Procedure.yields_done_iff.mp h
    cases heq
    rfl

theorem Course.trace (h : Course config history table) :
    Trace Acts (empty config) history table := by
  obtain ⟨dialogue, records, new, hnew, htrace⟩ := h
  rwa [eq_empty_of_create hnew] at htrace

theorem Course.config_eq (h : Course config history table) : table.config = config :=
  Trace.induction_last (motive := fun _ table => table.config = config) rfl
    (fun _ htable hact => hact.config_eq.trans htable) h.trace

theorem Course.thinned (h : Course config history table) (hthinned : Thinned history kept) :
    Course config kept table := by
  obtain ⟨dialogue, records, new, hnew, htrace⟩ := h
  exact ⟨dialogue, records, new, hnew, trace_thinned hthinned htrace⟩

end

/-- In every course a reload that fails leaves the table as it is and returns the failure of the
first of its commands that failed. With any of the failed reloads left out the course is one
again, and it is the only one with the same requests answered alike: everything else returns
what it returned, and the table is the same. -/
theorem failures_of_course {config : Config} {history : List Act} {table : SlotTable}
    (h : Course config history table) :
    (∀ dialogue failure after,
      (∃ records, Acts table ⟨.reload, dialogue, records, .reloaded (.error failure)⟩ after) ↔
        after = table ∧ BreaksOff config dialogue failure) ∧
    ∀ kept, Thinned history kept → Course config kept table ∧
      ∀ others last, Course config others last →
        others.map Act.script = kept.map Act.script → others = kept ∧ last = table := by
  constructor
  · intro dialogue failure after
    rw [exists_acts_failed_iff, h.config_eq]
  · intro kept hthinned
    have hkept := h.thinned hthinned
    exact ⟨hkept, fun others last hothers hscripts =>
      Trace.unique Acts.unique hothers.trace hkept.trace hscripts⟩

/-- A request in its course against surroundings, with the table and the state that it leaves. -/
def enact {σ : Type} (surroundings : Procedure.Surroundings interface σ) (start : SlotTable × σ)
    (request : Request) : Act × SlotTable × σ :=
  let procedure := request.perform start.1
  let outcome := procedure.run surroundings start.2
  (⟨request, procedure.dialogueWith surroundings start.2, outcome.records, outcome.result.1⟩,
    outcome.result.2, outcome.state)

def enactAll {σ : Type} (surroundings : Procedure.Surroundings interface σ)
    (start : SlotTable × σ) : List Request → List Act × SlotTable
  | [] => ([], start.1)
  | request :: requests =>
      let first := enact surroundings start request
      let later := enactAll surroundings first.2 requests
      (first.1 :: later.1, later.2)

/-- Requests put against surroundings all return, and make a trace. -/
theorem trace_enactAll {σ : Type} (surroundings : Procedure.Surroundings interface σ)
    (start : SlotTable × σ) (requests : List Request) :
    Trace Acts start.1 (enactAll surroundings start requests).1
      (enactAll surroundings start requests).2 := by
  induction requests generalizing start with
  | nil => exact .nil start.1
  | cons request requests ih =>
    exact .cons (Procedure.yields_dialogueWith surroundings start.2 (request.perform start.1))
      (ih (enact surroundings start request).2)

/-- The course of a new table with prepared reports, the first for starting the server. -/
def preparedCourse (config : Config) (given : List Report) (requests : List Request) :
    List Act × SlotTable :=
  let new := Procedure.run prepared given (create config)
  enactAll prepared (new.result, new.state) requests

theorem course_preparedCourse (config : Config) (given : List Report) (requests : List Request) :
    Course config (preparedCourse config given requests).1
      (preparedCourse config given requests).2 := by
  have hnew := Procedure.yields_dialogueWith prepared given (create config)
  exact ⟨_, _, _, hnew, trace_enactAll prepared (_, _) requests⟩

def absentTool : Report := ⟨.error (.missingBinary "adb reconnect offline"), ⟨0⟩⟩

def killed : Report := ⟨.ok ⟨.terminated, []⟩, ⟨0⟩⟩

/-- The tool is absent at first. Behind the first list it is killed when it is to list again. -/
def interruptedCourse : List Act × SlotTable :=
  preparedCourse (smallConfig 3)
    [printed "" 1, absentTool, printed "" 0, printed "A\tdevice\nB\toffline\n" 0,
      printed "Pixel 7\n" 0, printed "" 0, killed]
    [.reload, .reload, .next, .reload, .next, .devices, .count]

/-- The same without the two reloads that fail. -/
def undisturbedCourse : List Act × SlotTable :=
  preparedCourse (smallConfig 3)
    [printed "" 1, printed "" 0, printed "A\tdevice\nB\toffline\n" 0, printed "Pixel 7\n" 0]
    [.reload, .next, .next, .devices, .count]

theorem failures_of_interruptedCourse :
    ∃ kept, Thinned interruptedCourse.1 kept ∧ undisturbedCourse.1 = kept ∧
      undisturbedCourse.2 = interruptedCourse.2 ∧
      (∃ records after, Acts interruptedCourse.2 ⟨.reload,
        [⟨reconnecting (smallConfig 3), printed "" 0⟩, ⟨devicesQuery (smallConfig 3), killed⟩],
        records, .reloaded (.error (.terminated "adb devices"))⟩ after ∧
          after = interruptedCourse.2) := by
  obtain ⟨hfails, hthinned⟩ :=
    failures_of_course (course_preparedCourse (smallConfig 3) _ _ : Course _ interruptedCourse.1 _)
  have hleft : Thinned interruptedCourse.1 _ :=
    .leave ⟨rfl, _, rfl⟩ (.keep _ (.keep _ (.leave ⟨rfl, _, rfl⟩
      (.keep _ (.keep _ (.keep _ .nil))))))
  obtain ⟨-, hunique⟩ := hthinned _ hleft
  obtain ⟨hacts, htable⟩ := hunique undisturbedCourse.1 undisturbedCourse.2
    (course_preparedCourse _ _ _) rfl
  refine ⟨_, hleft, hacts, htable, ?_⟩
  have hbanner : (printed "" 0).success? (smallConfig 3).timeLimit = some (.success []) :=
    Report.success?_of_prompt rfl _
  have houtcome : killed.outcome = .ok ⟨.terminated, []⟩ := rfl
  obtain ⟨records, hacted⟩ := (hfails _ _ _).mpr
    ⟨rfl, .unlisted hbanner (.terminated (fun _ h => nomatch h) houtcome rfl)⟩
  exact ⟨records, _, hacted, rfl⟩

end SlotTable

end Tethered.Adb
