import Tethered.Failure
import Tethered.Procedure
import Tethered.Text.Utf8

/-!
# What a finished command leaves

A command ends with a code or is ended without one, and leaves what was kept of
its standard output. Only the code zero is a success. Requiring success turns
any other end into a failure under the name of the command and records it.
-/
namespace Tethered.Tool

inductive ExitStatus where
  | exited (code : Int32)
  | terminated
  deriving DecidableEq, Repr

structure Output where
  status : ExitStatus
  stdout : List UInt8
  deriving DecidableEq, Repr

/-- Whether a command ended with the code zero. -/
def ExitStatus.isSuccess : ExitStatus → Bool
  | .exited code => code == 0
  | .terminated => false

namespace Output

/-- The code zero and an output. -/
def success (stdout : List UInt8) : Output := ⟨.exited 0, stdout⟩

def failure (code : Int32) : Output := ⟨.exited code, []⟩

def text (output : Output) : List Char := Text.Utf8.decodeLossy output.stdout

/-- The failure of the command called `name`, unless it succeeded. -/
def failure? (output : Output) (name : String) : Option Failure :=
  match output.status with
  | .exited code => if code = 0 then none else some (.exitStatus name code)
  | .terminated => some (.terminated name)

/-- The output of the command called `name`, if it succeeded. A failure is
recorded. -/
def check {I : Interface} (output : Output) (name : String) :
    Procedure I (Except Failure Output) :=
  match output.failure? name with
  | none => .done (.ok output)
  | some failure => .record ⟨.error, failure.message⟩ (.done (.error failure))

end Output

end Tethered.Tool
