import Tethered.Adb.Config
import Tethered.Tool.Runner

/-!
# Commands of the adb tool

A command is addressed to one device by its serial number or to none. Every
command that fails leaves exactly one record, written where the failure arises:
too many arguments before anything is run, a failure of the run, or, where
success is required, an end other than the code zero.
-/
namespace Tethered.Adb

open Tool

/-- The arguments that a command may have besides the serial number. -/
def argumentLimit : Nat := 28

/-- The arguments that address a command to a device. -/
def addressing : Option String → List String
  | some serial => ["-s", serial]
  | none => []

/-- The command line for a device and arguments. -/
def commandLine {I : Interface} (config : Config) (serial : Option String)
    (arguments : List String) : Procedure I (Except Failure CommandLine) :=
  if arguments.length > argumentLimit then
    let failure := Failure.tooManyArguments argumentLimit
    .record ⟨.error, failure.message⟩ (.done (.error failure))
  else .done (.ok ⟨config.program, addressing serial ++ arguments⟩)

/-- What is recorded of a command whose run failed. -/
def failureText (command : CommandLine) : Failure → String
  | .missingBinary _ => "command not found: " ++ command.display
  | .timedOut _ limit => "\"" ++ command.display ++ "\" timed out after " ++ limit.text
  | failure => failure.message

/-- Run a command and give its output whatever its end. Output is kept up to the
limit of the settings, or not at all. -/
def execute (config : Config) (serial : Option String) (arguments : List String)
    (capture : Bool) : Procedure interface (Except Failure Output) :=
  (commandLine config serial arguments).onSuccess fun command =>
    (run config.timeLimit ⟨command, if capture then some config.outputLimit else none⟩).andThen fun
      | .ok output => .done (.ok output)
      | .error failure =>
          .record ⟨.error, failureText command failure⟩ (.done (.error failure))

/-- Run a command and require its success. A failure to succeed bears `name`. -/
def runChecked (config : Config) (name : String) (serial : Option String)
    (arguments : List String) (capture : Bool) : Procedure interface (Except Failure Output) :=
  (execute config serial arguments capture).onSuccess fun output => output.check name

end Tethered.Adb
