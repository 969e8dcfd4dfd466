import Tethered.Tool.CommandLine
import Tethered.Tool.Output

/-!
# Running commands

A command is run by whoever answers the question for its outcome. The answer
also says how long it took, so that a limit on the time can be applied to any
runner. A command that started has an output whatever its end; only one that did
not start, or that the runner gave up, is a failure.
-/
namespace Tethered.Tool

/-- A command to run, and how many bytes of its standard output to keep. Without
a number nothing is kept. -/
structure Invocation where
  command : CommandLine
  capture : Option Nat
  deriving DecidableEq, Repr

/-- What came of an invocation, and after what time. -/
structure Report where
  outcome : Except Failure Output
  elapsed : Number.Duration

/-- The questions of operations that run commands. -/
def interface : Interface := ⟨Invocation, fun _ => Report⟩

/-- Run a command and wait for its end, but no longer than a limit. -/
def run (limit : Option Number.Duration) (invocation : Invocation) :
    Procedure interface (Except Failure Output) :=
  .ask invocation fun (report : Report) => .done <|
    match limit with
    | some limit =>
        if limit.nanoseconds < report.elapsed.nanoseconds then
          .error (.timedOut invocation.command.display limit)
        else report.outcome
    | none => report.outcome

/-- What the operating system made of a command: it did not start, or it wrote
to its standard output and ended. -/
inductive Execution where
  | notStarted (fault : IoFault)
  | ended (written : List UInt8) (status : ExitStatus)

def Invocation.kept (invocation : Invocation) (written : List UInt8) : List UInt8 :=
  match invocation.capture with
  | some limit => written.take limit
  | none => []

/-- What an execution is for the invocation behind it. An absent executable is
told apart from every other reason not to start. -/
def Execution.outcome (invocation : Invocation) : Execution → Except Failure Output
  | .notStarted fault =>
      if fault.kind = .notFound then .error (.missingBinary invocation.command.display)
      else .error (.notStarted invocation.command.display fault)
  | .ended written status => .ok ⟨status, invocation.kept written⟩

end Tethered.Tool
