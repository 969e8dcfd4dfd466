import Tethered.Adb.Forward
import Tethered.Proofs.Adb.TableRun

/-!
# Every failure is recorded once

Whatever is asked of the tool attempts some commands in turn, up to the first that
fails. What is recorded in its course are the failures of these commands, each once and
in its own words, also where the caller is told of none. A runner is trusted only to
name the command where it says that the executable is missing or that time ran out.
-/
namespace Tethered.Adb

open Tool

/-! ## What is asked of the tool -/

/-- What may be asked of the tool: about a table of devices, about forwards, or directly. -/
inductive Task where
  | create
  | reload
  | next
  | establish (serial : String) (hostPort devicePort : UInt16)
  | removeAll (serial : String)
  | list
  | execute (serial : Option String) (arguments : List String) (capture : Bool)
  deriving DecidableEq, Repr

namespace Task

/-- A task: the failure that the caller is told of, and the table that later tasks are about. -/
def perform (config : Config) (table : SlotTable) :
    Task → Procedure interface (Option Failure × SlotTable)
  | create => (SlotTable.create config).map fun table => (none, table)
  | reload => table.reload.map fun (result, after) => (failureOf result, after)
  | next => table.next.map fun (_, after) => (none, after)
  | establish serial hostPort devicePort =>
      (Forward.establish config serial hostPort devicePort).map fun result =>
        (failureOf result, table)
  | removeAll serial => (Forward.removeAll config serial).map fun _ => (none, table)
  | list => (Forward.list config).map fun result => (failureOf result, table)
  | execute serial arguments capture =>
      (Adb.execute config serial arguments capture).map fun result => (failureOf result, table)

/-- Whether the caller is told of no failure. -/
def disregards : Task → Bool
  | create | next | removeAll _ => true
  | _ => false

end Task

/-! ## Attempts of commands -/

/-- A command to attempt. Where it has a name, success is required under this name. -/
structure Attempt where
  name : Option String
  serial : Option String
  arguments : List String
  capture : Bool
  deriving DecidableEq, Repr

/-- The commands that a task attempts, each only if those before it succeed. -/
def Task.attempts (table : SlotTable) : Task → List Attempt
  | create => [⟨some "adb start-server", none, ["start-server"], false⟩]
  | reload =>
      [⟨some "adb r.o.", none, ["reconnect", "offline"], false⟩,
        ⟨some "adb devices", none, ["devices"], true⟩]
  | next =>
      match table.deviceAt table.position with
      | some device =>
          if device.needsModel then
            [⟨some "adb get model", some device.serial, ["shell", "getprop", "ro.product.model"],
              true⟩]
          else []
      | none => []
  | establish serial hostPort devicePort =>
      [⟨some "adb fwd", some serial,
        ["forward", Forward.tcpEnd hostPort, Forward.tcpEnd devicePort], false⟩]
  | removeAll serial => [⟨some "adb fwd clear", some serial, ["forward", "--remove-all"], false⟩]
  | list => [⟨some "adb fwd list", none, ["forward", "--list"], true⟩]
  | execute serial arguments capture => [⟨none, serial, arguments, capture⟩]

namespace Attempt

/-- What the runner is asked for an attempt. -/
def query (config : Config) (attempt : Attempt) : Invocation :=
  invocation config attempt.serial attempt.arguments attempt.capture

/-- The failure that a report is for an attempt: the run failed or took too long, or it ended
otherwise than is required. -/
def failure? (config : Config) (attempt : Attempt) (report : Report) : Option Failure :=
  match report.within config.timeLimit (attempt.query config).command with
  | .error failure => some failure
  | .ok output => attempt.name.bind output.failure?

/-- How an attempt ends: what the runner is asked, and the failure if there is one. -/
inductive Ends (config : Config) (attempt : Attempt) :
    List (Exchange interface) → Option Failure → Prop
  | refused (h : 28 < attempt.arguments.length) :
      Ends config attempt [] (some (.tooManyArguments 28))
  | ran (h : attempt.arguments.length ≤ 28) (report : Report) :
      Ends config attempt [⟨attempt.query config, report⟩] (attempt.failure? config report)

/-- How attempts end that are made in turn, up to the first that fails. -/
inductive InTurn (config : Config) :
    List Attempt → List (Exchange interface) → List Failure → Prop
  | done : InTurn config [] [] []
  | failed {attempt : Attempt} {later : List Attempt} {dialogue : List (Exchange interface)}
      {failure : Failure} (h : attempt.Ends config dialogue (some failure)) :
      InTurn config (attempt :: later) dialogue [failure]
  | succeeded {attempt : Attempt} {later : List Attempt}
      {before after : List (Exchange interface)} {failures : List Failure}
      (h : attempt.Ends config before none) (hlater : InTurn config later after failures) :
      InTurn config (attempt :: later) (before ++ after) failures

theorem inTurn_singleton {config : Config} {attempt : Attempt}
    {dialogue : List (Exchange interface)} {failure : Option Failure}
    (h : attempt.Ends config dialogue failure) :
    InTurn config [attempt] dialogue failure.toList := by
  cases failure with
  | some failure => exact .failed h
  | none =>
    have hturn := InTurn.succeeded h .done
    rwa [List.append_nil] at hturn

end Attempt

/-! ## Wording -/

/-- A report that names the command where it says that its executable is missing or that
its time ran out. -/
structure NamesCommand (command : CommandLine) (report : Report) : Prop where
  missing : ∀ text, report.outcome = .error (.missingBinary text) → text = command.display
  late : ∀ text limit, report.outcome = .error (.timedOut text limit) → text = command.display

/-- What a runner is trusted with in one exchange. -/
def Named (exchange : Exchange interface) : Prop :=
  let invocation : Invocation := exchange.question
  NamesCommand invocation.command exchange.answer

/-- What the system makes of a command names it. -/
theorem namesCommand_of_execution (invocation : Invocation) (execution : Execution)
    (elapsed : Number.Duration) :
    NamesCommand invocation.command ⟨execution.outcome invocation, elapsed⟩ := by
  cases execution with
  | notStarted fault =>
    by_cases hkind : fault.kind = .notFound
    · constructor <;> simp [Execution.outcome, hkind]
    · constructor <;> simp [Execution.outcome, hkind]
  | ended written status => constructor <;> simp [Execution.outcome]

/-- Surroundings in which the system executes commands as prepared, in order and without delay,
and then any number that write nothing. -/
def executing : Procedure.Surroundings interface (List Execution) :=
  fun (invocation : Invocation) executions =>
    (⟨(executions.headD (.ended [] (.exited 0))).outcome invocation, ⟨0⟩⟩, executions.tail)

/-- A runner that hands on what the system says can be trusted. -/
theorem named_of_executing {α : Type} {procedure : Procedure interface α}
    {executions : List Execution} {exchange : Exchange interface}
    (h : exchange ∈ procedure.dialogueWith executing executions) : Named exchange := by
  induction procedure generalizing executions with
  | done result => cases h
  | record entry rest ih => exact ih h
  | ask question resume ih =>
    rcases List.mem_cons.mp h with rfl | hlater
    · exact namesCommand_of_execution ..
    · exact ih _ hlater

/-- The records of failures, each in its own words. -/
def recorded (failures : List Failure) : List Record :=
  failures.map fun failure => ⟨.error, failure.message⟩

/-- The failure of a run is recorded in its own words. -/
theorem recorded_of_within {limit : Option Number.Duration} {command : CommandLine}
    {report : Report} {failure : Failure} (hnames : NamesCommand command report)
    (h : report.within limit command = .error failure) :
    [⟨.error, failureText command failure⟩] = recorded [failure] := by
  have houtcome (h : report.outcome = .error failure) :
      [⟨.error, failureText command failure⟩] = recorded [failure] := by
    cases failure with
    | missingBinary text =>
      obtain rfl := hnames.missing text h
      rfl
    | timedOut text limit =>
      obtain rfl := hnames.late text limit h
      rfl
    | _ => rfl
  unfold Report.within at h
  cases limit with
  | none => exact houtcome h
  | some limit =>
    simp only at h
    split at h
    · cases h
      rfl
    · exact houtcome h

/-! ## One attempt -/

section
variable {config : Config} {attempt : Attempt} {dialogue : List (Exchange interface)}
variable {records : List Record} {result : Except Failure Output} {report : Report}

theorem Attempt.failure?_of_error {failure : Failure}
    (h : report.within config.timeLimit (attempt.query config).command = .error failure) :
    attempt.failure? config report = some failure := by
  rw [failure?, h]

theorem Attempt.failure?_of_ok {output : Output}
    (h : report.within config.timeLimit (attempt.query config).command = .ok output) :
    attempt.failure? config report = attempt.name.bind output.failure? := by
  rw [failure?, h]

/-- An attempt, as the tool is asked for it. -/
def Attempt.carryOut (config : Config) (attempt : Attempt) :
    Procedure interface (Except Failure Output) :=
  match attempt.name with
  | none => execute config attempt.serial attempt.arguments attempt.capture
  | some name => runChecked config name attempt.serial attempt.arguments attempt.capture

theorem carryOut_eq_record (hmany : argumentLimit < attempt.arguments.length) :
    attempt.carryOut config =
      .record ⟨.error, (Failure.tooManyArguments argumentLimit).message⟩
        (.done (.error (.tooManyArguments argumentLimit))) := by
  unfold Attempt.carryOut
  cases attempt.name with
  | none => exact execute_eq_record hmany
  | some name =>
    change runChecked config name _ _ _ = _
    rw [runChecked, execute_eq_record hmany]
    rfl

/-- A run that fails is recorded in the words of its failure, and so is an end that is no
success where one is required. -/
theorem yields_carryOut (hfew : attempt.arguments.length ≤ argumentLimit)
    (h : (attempt.carryOut config).Yields dialogue records result) :
    ∃ report, dialogue = [⟨attempt.query config, report⟩] ∧
      failureOf result = attempt.failure? config report ∧
      (NamesCommand (attempt.query config).command report →
        records = recorded (failureOf result).toList) := by
  unfold Attempt.carryOut at h
  cases hname : attempt.name with
  | none =>
    simp only [hname] at h
    rw [execute_eq_ask hfew] at h
    obtain ⟨report, later, rfl, hlater⟩ := Procedure.yields_ask_iff.mp h
    obtain ⟨rfl, rfl, rfl⟩ := Procedure.yields_leaving_iff.mp hlater
    refine ⟨report, rfl, ?_⟩
    cases hwithin : report.within config.timeLimit
        (invocation config attempt.serial attempt.arguments attempt.capture).command with
    | error failure =>
      exact ⟨(Attempt.failure?_of_error hwithin).symm, fun hnames =>
        recorded_of_within hnames hwithin⟩
    | ok output =>
      rw [Attempt.failure?_of_ok hwithin, hname]
      exact ⟨rfl, fun _ => rfl⟩
  | some name =>
    simp only [hname] at h
    obtain ⟨report, rfl, rfl, rfl⟩ := (yields_runChecked_iff hfew).mp h
    refine ⟨report, rfl, ?_⟩
    cases hwithin : report.within config.timeLimit
        (invocation config attempt.serial attempt.arguments attempt.capture).command with
    | error failure =>
      rw [Attempt.failure?_of_error hwithin]
      simp only [verdict, complaints, hwithin]
      exact ⟨rfl, fun hnames => recorded_of_within hnames hwithin⟩
    | ok output =>
      rw [Attempt.failure?_of_ok hwithin, hname]
      simp only [verdict, complaints, hwithin, Option.bind_some]
      cases output.failure? name with
      | none => exact ⟨rfl, fun _ => rfl⟩
      | some failure => exact ⟨rfl, fun _ => rfl⟩

/-- An attempt ends in one of its ways, and its failure alone is on record. -/
theorem ends_of_carryOut (attempt : Attempt)
    (h : (attempt.carryOut config).Yields dialogue records result)
    (hnamed : ∀ exchange ∈ dialogue, Named exchange) :
    attempt.Ends config dialogue (failureOf result) ∧
      records = recorded (failureOf result).toList := by
  rcases Nat.lt_or_ge argumentLimit attempt.arguments.length with hmany | hfew
  · rw [carryOut_eq_record hmany] at h
    obtain ⟨later, rfl, hdone⟩ := Procedure.yields_record_iff.mp h
    obtain ⟨rfl, rfl, rfl⟩ := Procedure.yields_done_iff.mp hdone
    exact ⟨.refused hmany, rfl⟩
  · obtain ⟨report, rfl, hfailure, hrecords⟩ := yields_carryOut hfew h
    rw [hfailure]
    exact ⟨.ran hfew report, hfailure ▸ hrecords (hnamed _ List.mem_cons_self)⟩

end

/-! ## One task -/

/-- What a task owes to whoever asked for it: the failures of its attempts are on record, and
the first of them is told unless it is to be disregarded. -/
def Accounts (config : Config) (table : SlotTable) (task : Task)
    (dialogue : List (Exchange interface)) (records : List Record) (told : Option Failure) : Prop :=
  ∃ failures, Attempt.InTurn config (task.attempts table) dialogue failures ∧
    records = recorded failures ∧
    told = if task.disregards then none else failures.head?

section
variable {config : Config} {table after : SlotTable} {task : Task}
variable {dialogue : List (Exchange interface)} {records : List Record} {told : Option Failure}

theorem accounts_of_carryOut (attempt : Attempt) {result : Except Failure Output}
    (h : (attempt.carryOut config).Yields dialogue records result)
    (hnamed : ∀ exchange ∈ dialogue, Named exchange) (hattempts : task.attempts table = [attempt])
    (htold : told = if task.disregards then none else failureOf result) :
    Accounts config table task dialogue records told := by
  obtain ⟨hends, hrecords⟩ := ends_of_carryOut attempt h hnamed
  refine ⟨_, ?_, hrecords, ?_⟩
  · rw [hattempts]
    exact Attempt.inTurn_singleton hends
  · rw [htold, Option.head?_toList]

/-- A reload goes on to the list of devices only where the first command succeeded. -/
theorem accounts_of_reload
    (h : (Task.perform table.config table .reload).Yields dialogue records (told, after))
    (hnamed : ∀ exchange ∈ dialogue, Named exchange) :
    Accounts table.config table .reload dialogue records told := by
  obtain ⟨⟨result, _⟩, hreload, htold⟩ := Procedure.yields_map_iff.mp h
  obtain ⟨listed, hlist, hresult⟩ := Procedure.yields_map_iff.mp hreload
  cases htold
  have hfailure : failureOf result = failureOf listed := by
    cases listed <;> cases hresult <;> rfl
  rw [hfailure]
  rcases Procedure.yields_onSuccess_iff.mp hlist with
    ⟨failure, hfirst, rfl⟩ | ⟨before, later, early, late, banner, rfl, rfl, hfirst, hsecond⟩
  · obtain ⟨hends, rfl⟩ :=
      ends_of_carryOut ⟨some "adb r.o.", none, ["reconnect", "offline"], false⟩ hfirst hnamed
    exact ⟨[failure], .failed hends, rfl, rfl⟩
  · obtain ⟨hfirstNamed, hsecondNamed⟩ := List.forall_mem_append.mp hnamed
    obtain ⟨hends, rfl⟩ := ends_of_carryOut
      ⟨some "adb r.o.", none, ["reconnect", "offline"], false⟩ hfirst hfirstNamed
    obtain ⟨hlast, rfl⟩ := ends_of_carryOut ⟨some "adb devices", none, ["devices"], true⟩
      hsecond hsecondNamed
    exact ⟨_, .succeeded hends (Attempt.inTurn_singleton hlast), rfl, Option.head?_toList.symm⟩

/-- A question for a model is the only attempt of a step to the next device, and not every step
puts one. -/
theorem accounts_of_next
    (h : (Task.perform table.config table .next).Yields dialogue records (told, after))
    (hnamed : ∀ exchange ∈ dialogue, Named exchange) :
    Accounts table.config table .next dialogue records told := by
  obtain ⟨⟨found, _⟩, hnext, htold⟩ := Procedure.yields_map_iff.mp h
  cases htold
  rw [SlotTable.next_eq] at hnext
  have hidle (hnone : Task.attempts table .next = []) (hdialogue : dialogue = [])
      (hrecords : records = []) : Accounts table.config table .next dialogue records none := by
    refine ⟨[], ?_, hrecords, rfl⟩
    rw [hnone, hdialogue]
    exact .done
  cases hsome : table.deviceAt table.position with
  | none =>
    simp only [hsome] at hnext
    obtain ⟨hdialogue, hrecords, -⟩ := Procedure.yields_done_iff.mp hnext
    exact hidle (by rw [Task.attempts, hsome]) hdialogue hrecords
  | some device =>
    simp only [hsome] at hnext
    cases hmodel : device.needsModel with
    | false =>
      simp only [hmodel] at hnext
      obtain ⟨hdialogue, hrecords, -⟩ := Procedure.yields_done_iff.mp hnext
      exact hidle (by simp [Task.attempts, hsome, hmodel]) hdialogue hrecords
    | true =>
      simp only [hmodel, if_true] at hnext
      obtain ⟨answer, hanswer, -⟩ := Procedure.yields_map_iff.mp hnext
      exact accounts_of_carryOut ⟨some "adb get model", some device.serial,
        ["shell", "getprop", "ro.product.model"], true⟩ hanswer hnamed
        (by simp [Task.attempts, hsome, hmodel]) rfl

/-- Every task accounts for the attempts that it makes. -/
theorem accounts_of_perform
    (h : (task.perform table.config table).Yields dialogue records (told, after))
    (hnamed : ∀ exchange ∈ dialogue, Named exchange) :
    Accounts table.config table task dialogue records told := by
  cases task with
  | create =>
    obtain ⟨new, hcreate, htold⟩ := Procedure.yields_map_iff.mp h
    obtain ⟨result, hstart, -⟩ := Procedure.yields_map_iff.mp hcreate
    exact accounts_of_carryOut ⟨some "adb start-server", none, ["start-server"], false⟩ hstart
      hnamed rfl (congrArg Prod.fst htold)
  | reload => exact accounts_of_reload h hnamed
  | next => exact accounts_of_next h hnamed
  | establish serial hostPort devicePort =>
    obtain ⟨result, hestablish, htold⟩ := Procedure.yields_map_iff.mp h
    rw [Forward.establish, Procedure.onSuccess_done] at hestablish
    obtain ⟨output, hforward, rfl⟩ := Procedure.yields_map_iff.mp hestablish
    refine accounts_of_carryOut ⟨some "adb fwd", some serial, _, false⟩ hforward hnamed rfl ?_
    exact (congrArg Prod.fst htold).trans (failureOf_map _ output)
  | removeAll serial =>
    obtain ⟨_, hremove, htold⟩ := Procedure.yields_map_iff.mp h
    obtain ⟨result, hforward, -⟩ := Procedure.yields_map_iff.mp hremove
    exact accounts_of_carryOut ⟨some "adb fwd clear", some serial, ["forward", "--remove-all"],
      false⟩ hforward hnamed rfl (congrArg Prod.fst htold)
  | list =>
    obtain ⟨result, hlist, htold⟩ := Procedure.yields_map_iff.mp h
    rw [Forward.list, Procedure.onSuccess_done] at hlist
    obtain ⟨output, hforward, rfl⟩ := Procedure.yields_map_iff.mp hlist
    refine accounts_of_carryOut ⟨some "adb fwd list", none, ["forward", "--list"], true⟩ hforward
      hnamed rfl ?_
    exact (congrArg Prod.fst htold).trans (failureOf_map _ output)
  | execute serial arguments capture =>
    obtain ⟨result, hexecute, htold⟩ := Procedure.yields_map_iff.mp h
    exact accounts_of_carryOut ⟨none, serial, arguments, capture⟩ hexecute hnamed rfl
      (congrArg Prod.fst htold)

end

/-! ## Runs -/

namespace Task

/-- A task in its course: the questions with their answers, the records, and what was told. -/
structure Event where
  task : Task
  dialogue : List (Exchange interface)
  records : List Record
  told : Option Failure

def Step (config : Config) (table : SlotTable) (event : Event) (after : SlotTable) : Prop :=
  (event.task.perform config table).Yields event.dialogue event.records (event.told, after)

variable {config : Config} {table after : SlotTable} {event : Event} {events : List Event}

/-- No task changes the settings that a table was made with. -/
theorem Step.config_eq (h : Step config table event after) (htable : table.config = config) :
    after.config = config := by
  obtain ⟨task, dialogue, records, told⟩ := event
  cases task with
  | create =>
    obtain ⟨new, hcreate, hafter⟩ := Procedure.yields_map_iff.mp h
    cases hafter
    rw [SlotTable.eq_empty_of_create hcreate]
    rfl
  | reload =>
    obtain ⟨⟨result, _⟩, hreload, hafter⟩ := Procedure.yields_map_iff.mp h
    cases hafter
    exact (SlotTable.Step.reload hreload).config_eq.trans htable
  | next =>
    obtain ⟨⟨found, _⟩, hnext, hafter⟩ := Procedure.yields_map_iff.mp h
    cases hafter
    exact (SlotTable.Step.next hnext).config_eq.trans htable
  | _ =>
    obtain ⟨result, -, hafter⟩ := Procedure.yields_map_iff.mp h
    cases hafter
    exact htable

theorem config_of_trace (h : Trace (Step config) (.empty config) events table) :
    table.config = config :=
  Trace.induction_last (motive := fun _ table => table.config = config) rfl
    (fun _ htable hstep => hstep.config_eq htable) h

/-- In every run of tasks, the records of a task are the failures of the commands that it
attempts, each once and in its own words, whether or not the caller is told. -/
theorem records_of_run {earlier : List Event}
    (hrun : Trace (Step config) (.empty config) earlier table)
    (hstep : Step config table event after)
    (hnamed : ∀ exchange ∈ event.dialogue, Named exchange) :
    ∃ failures, Attempt.InTurn config (event.task.attempts table) event.dialogue failures ∧
      event.records = recorded failures ∧
      event.told = if event.task.disregards then none else failures.head? := by
  obtain rfl := config_of_trace hrun
  exact accounts_of_perform hstep hnamed

/-- A task in its course against surroundings, with the table and the state that it leaves. -/
def carriedOut {σ : Type} (surroundings : Procedure.Surroundings interface σ) (config : Config)
    (start : SlotTable × σ) (task : Task) : Event × SlotTable × σ :=
  let procedure := task.perform config start.1
  let outcome := procedure.run surroundings start.2
  (⟨task, procedure.dialogueWith surroundings start.2, outcome.records, outcome.result.1⟩,
    outcome.result.2, outcome.state)

theorem step_carriedOut {σ : Type} (surroundings : Procedure.Surroundings interface σ)
    (config : Config) (start : SlotTable × σ) (task : Task) :
    let result := carriedOut surroundings config start task
    Step config start.1 result.1 result.2.1 :=
  Procedure.yields_dialogueWith surroundings start.2 (task.perform config start.1)

theorem named_carriedOut (config : Config) (start : SlotTable × List Execution) (task : Task) :
    ∀ exchange ∈ (carriedOut executing config start task).1.dialogue, Named exchange :=
  fun _ hmem => named_of_executing hmem

/-- A tool that is found at first and is gone when a model is asked for. -/
def vanishingTool : List Execution :=
  [.ended [] (.exited 1), .ended [] (.exited 0),
    .ended (Text.Utf8.encode "A\tdevice\n".toList) (.exited 0), .notStarted ⟨.notFound, none⟩]

theorem records_of_vanishingRun :
    let config := SlotTable.smallConfig 1
    let created := carriedOut executing config (.empty config, vanishingTool) .create
    let listed := carriedOut executing config created.2 .reload
    let asked := carriedOut executing config listed.2 .next
    (∃ failures,
      Attempt.InTurn config (asked.1.task.attempts listed.2.1) asked.1.dialogue failures ∧
      asked.1.records = recorded failures ∧
      asked.1.told = if asked.1.task.disregards then none else failures.head?) ∧
    asked.1.records =
      [⟨.error, "command not found: adb -s A shell getprop ro.product.model"⟩] := by
  intro config created listed asked
  have hrun : Trace (Step config) (.empty config) [created.1, listed.1] listed.2.1 :=
    .cons (step_carriedOut _ config _ .create)
      (.cons (step_carriedOut _ config _ .reload) (.nil _))
  have hasked := step_carriedOut executing config listed.2 .next
  exact ⟨records_of_run hrun hasked (named_carriedOut config listed.2 .next), by decide +kernel⟩

end Task

end Tethered.Adb
