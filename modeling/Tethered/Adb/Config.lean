import Tethered.Number.Duration

/-!
# Settings of the adb tool

Where the tool is, how many devices are kept track of, how much of its output is
read and how long it may take.
-/
namespace Tethered.Adb

structure Config where
  /-- The executable. The path need not be text. -/
  program : List UInt8
  deviceLimit : Nat
  /-- Bytes of output that are read. -/
  outputLimit : Nat
  /-- How long a command may take. -/
  timeLimit : Option Number.Duration
  deriving DecidableEq, Repr

namespace Config

/-- The settings where nothing else is asked for. -/
def standard : Config := ⟨"adb".toUTF8.toList, 8, 1024, none⟩

/-- The standard settings with the executable that an environment variable
names, if it is set and not empty. -/
def ofEnvironment (value : Option (List UInt8)) : Config :=
  match value with
  | none | some [] => standard
  | some path => { standard with program := path }

end Config

end Tethered.Adb
