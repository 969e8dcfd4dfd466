import Tethered.Adb.Command
import Tethered.Proofs.Dialogue

/-!
# What a checked command makes of a report

A checked command puts one question to the runner. The report, which may be
anything, decides alone what the command returns and records. Success means the
code zero within the time allowed; an output that is kept of any other end is
never looked at.
-/
namespace Tethered.Tool

/-- What came of an invocation whose time is limited. -/
def Report.within (report : Report) (limit : Option Number.Duration) (command : CommandLine) :
    Except Failure Output :=
  match limit with
  | some limit =>
      if limit.nanoseconds < report.elapsed.nanoseconds then
        .error (.timedOut command.display limit)
      else report.outcome
  | none => report.outcome

/-- The output of a command that ended with the code zero in its time. -/
def Report.success? (report : Report) (limit : Option Number.Duration) : Option Output :=
  match report.outcome with
  | .ok output =>
      if output.status = .exited 0 ∧
          limit.all (fun limit => report.elapsed.nanoseconds ≤ limit.nanoseconds) then some output
      else none
  | .error _ => none

theorem run_eq_ask (limit : Option Number.Duration) (invocation : Invocation) :
    run limit invocation =
      .ask invocation fun (report : Report) =>
        .done (report.within limit invocation.command) := rfl

theorem Report.within_eq_ok_iff {report : Report} {limit : Option Number.Duration}
    (command : CommandLine) {output : Output} :
    report.within limit command = .ok output ↔
      report.outcome = .ok output ∧
        limit.all (fun limit => report.elapsed.nanoseconds ≤ limit.nanoseconds) = true := by
  unfold Report.within
  cases limit with
  | none => simp
  | some limit =>
    by_cases hlate : limit.nanoseconds < report.elapsed.nanoseconds
    · simp [hlate]
    · simp [hlate, Nat.le_of_not_lt hlate]

theorem Report.success?_eq_some_iff {report : Report} {limit : Option Number.Duration}
    {output : Output} :
    report.success? limit = some output ↔
      (report.outcome = .ok output ∧
        limit.all (fun limit => report.elapsed.nanoseconds ≤ limit.nanoseconds) = true) ∧
      output.status = .exited 0 := by
  unfold Report.success?
  cases report.outcome with
  | error failure => simp
  | ok given =>
    simp only [Option.ite_none_right_eq_some, Option.some.injEq, Except.ok.injEq]
    constructor
    · rintro ⟨⟨hstatus, htime⟩, rfl⟩
      exact ⟨⟨rfl, htime⟩, hstatus⟩
    · rintro ⟨⟨rfl, htime⟩, hstatus⟩
      exact ⟨⟨hstatus, htime⟩, rfl⟩

/-- A success that took no time is in time for every limit. -/
theorem Report.success?_of_prompt {output : Output} (h : output.status = .exited 0)
    (limit : Option Number.Duration) :
    (⟨.ok output, ⟨0⟩⟩ : Report).success? limit = some output := by
  have htime : limit.all (fun limit => 0 ≤ limit.nanoseconds) = true := by
    cases limit <;> simp
  exact Report.success?_eq_some_iff.mpr ⟨⟨rfl, htime⟩, h⟩

theorem Output.failure?_eq_none_iff {output : Output} (name : String) :
    output.failure? name = none ↔ output.status = .exited 0 := by
  unfold Output.failure?
  cases output.status with
  | exited code => by_cases h : code = 0 <;> simp [h]
  | terminated => simp

end Tethered.Tool

namespace Tethered.Adb

open Tool

variable {config : Config} {name : String} {serial : Option String} {arguments : List String}
variable {capture : Bool} {dialogue : List (Exchange interface)} {records : List Record}

/-- A command for a device or for none, with the part of its output that is kept. -/
def invocation (config : Config) (serial : Option String) (arguments : List String)
    (capture : Bool) : Invocation :=
  ⟨⟨config.program, addressing serial ++ arguments⟩,
    if capture then some config.outputLimit else none⟩

/-- What a report is for whoever requires success of a command. -/
def verdict (config : Config) (name : String) (command : CommandLine) (report : Report) :
    Except Failure Output :=
  match report.within config.timeLimit command with
  | .error failure => .error failure
  | .ok output =>
      match output.failure? name with
      | none => .ok output
      | some failure => .error failure

def complaints (config : Config) (name : String) (command : CommandLine) (report : Report) :
    List Record :=
  match report.within config.timeLimit command with
  | .error failure => [⟨.error, failureText command failure⟩]
  | .ok output =>
      match output.failure? name with
      | none => []
      | some failure => [⟨.error, failure.message⟩]

/-- The failure of an operation that failed. -/
def failureOf {α : Type} : Except Failure α → Option Failure
  | .ok _ => none
  | .error failure => some failure

theorem failureOf_map {α β : Type} (f : α → β) (result : Except Failure α) :
    failureOf (result.map f) = failureOf result := by
  cases result with
  | error failure => rfl
  | ok value => rfl

/-- A command with too many arguments is refused before anything is asked. -/
theorem execute_eq_record (hmany : argumentLimit < arguments.length) :
    execute config serial arguments capture =
      .record ⟨.error, (Failure.tooManyArguments argumentLimit).message⟩
        (.done (.error (.tooManyArguments argumentLimit))) := by
  rw [execute, commandLine, if_pos hmany]
  rfl

/-- Any other command puts one question, and a failure of the run is left on record. -/
theorem execute_eq_ask (hlimit : arguments.length ≤ argumentLimit) :
    execute config serial arguments capture =
      .ask (invocation config serial arguments capture) fun (report : Report) =>
        let command := (invocation config serial arguments capture).command
        let result := report.within config.timeLimit command
        .leaving ((failureOf result).toList.map fun failure =>
          ⟨.error, failureText command failure⟩) result := by
  have hline : (commandLine config serial arguments : Procedure interface _) =
      .done (.ok ⟨config.program, addressing serial ++ arguments⟩) := by
    rw [commandLine, if_neg (by omega)]
  rw [execute, hline]
  simp only [Procedure.onSuccess, Procedure.andThen, run_eq_ask]
  refine congrArg (Procedure.ask _) (funext fun report => ?_)
  simp only [invocation]
  cases Report.within report config.timeLimit ⟨config.program, addressing serial ++ arguments⟩ with
  | error failure => rfl
  | ok output => rfl

theorem runChecked_eq_ask (hlimit : arguments.length ≤ argumentLimit) :
    runChecked config name serial arguments capture =
      .ask (invocation config serial arguments capture) fun (report : Report) =>
        .leaving
          (complaints config name (invocation config serial arguments capture).command report)
          (verdict config name (invocation config serial arguments capture).command report) := by
  rw [runChecked, execute_eq_ask hlimit]
  refine congrArg (Procedure.ask _) (funext fun report => ?_)
  simp only [verdict, complaints]
  cases Report.within report config.timeLimit
    (invocation config serial arguments capture).command with
  | error failure => rfl
  | ok output =>
    change output.check name = _
    simp only [Output.check]
    cases output.failure? name with
    | none => rfl
    | some failure => rfl

/-- A checked command puts one question. The report alone decides what it
returns and what it leaves on record. -/
theorem yields_runChecked_iff {result : Except Failure Output}
    (hlimit : arguments.length ≤ argumentLimit) :
    (runChecked config name serial arguments capture).Yields dialogue records result ↔
      ∃ report : Report, dialogue = [⟨invocation config serial arguments capture, report⟩] ∧
        records = complaints config name (invocation config serial arguments capture).command
          report ∧
        result = verdict config name (invocation config serial arguments capture).command
          report := by
  rw [runChecked_eq_ask hlimit]
  constructor
  · intro h
    obtain ⟨report, later, rfl, hlater⟩ := Procedure.yields_ask_iff.mp h
    obtain ⟨rfl, rfl, rfl⟩ := Procedure.yields_leaving_iff.mp hlater
    exact ⟨report, rfl, rfl, rfl⟩
  · rintro ⟨report, rfl, rfl, rfl⟩
    exact Procedure.yields_ask_iff.mpr
      ⟨report, [], rfl, Procedure.yields_leaving_iff.mpr ⟨rfl, rfl, rfl⟩⟩

/-- Against surroundings a checked command puts its question once and leaves what the answer
leaves. -/
theorem run_runChecked {σ : Type} (surroundings : Procedure.Surroundings interface σ) (state : σ)
    (hlimit : arguments.length ≤ argumentLimit) :
    let query := invocation config serial arguments capture
    let reply := surroundings query state
    (runChecked config name serial arguments capture).run surroundings state =
      ⟨verdict config name query.command reply.1, reply.2, [query],
        complaints config name query.command reply.1⟩ := by
  rw [runChecked_eq_ask hlimit]
  simp only [Procedure.run, Procedure.run_leaving]

/-- Required success is success: neither the name nor the wording of the command
has a part in it. -/
theorem verdict_eq_ok_iff {command : CommandLine} {report : Report} {output : Output} :
    verdict config name command report = .ok output ↔
      report.success? config.timeLimit = some output := by
  rw [Report.success?_eq_some_iff, ← Report.within_eq_ok_iff command,
    ← Output.failure?_eq_none_iff name]
  unfold verdict
  cases report.within config.timeLimit command with
  | error failure => simp
  | ok given =>
    cases hgiven : given.failure? name with
    | none =>
      simp only [hgiven, Except.ok.injEq]
      constructor
      · rintro rfl
        exact ⟨rfl, hgiven⟩
      · exact fun h => h.1
    | some failure =>
      simp only [hgiven, reduceCtorEq, false_iff, Except.ok.injEq]
      rintro ⟨rfl, hnone⟩
      rw [hgiven] at hnone
      cases hnone

theorem yields_runChecked_of_success {report : Report} {output : Output}
    (hlimit : arguments.length ≤ argumentLimit)
    (h : report.success? config.timeLimit = some output) :
    ∃ records, (runChecked config name serial arguments capture).Yields
      [⟨invocation config serial arguments capture, report⟩] records (.ok output) :=
  ⟨_, (yields_runChecked_iff hlimit).mpr ⟨report, rfl, rfl, (verdict_eq_ok_iff.mpr h).symm⟩⟩

end Tethered.Adb
