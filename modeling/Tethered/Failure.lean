import Tethered.Number.Duration
import Tethered.Plist.Fault

/-!
# Failures and their wording

Every operation of this library that can fail does so with a `Failure`, a cause
with the data needed to word it. `Failure.message` is the only place where the
wording is fixed, so a failure that is both returned and recorded reads the same
in both places.
-/
namespace Tethered

open Number

/-- What kind of trouble the operating system or a stream reports. -/
inductive IoFault.Kind where
  | notFound
  | permissionDenied
  | connectionRefused
  | networkUnreachable
  | notADirectory
  | invalidInput
  | unexpectedEof
  | brokenPipe
  | other
  deriving DecidableEq, Repr

/-- Trouble with a file, a process or a stream, with a wording of its own where
it has one. -/
structure IoFault where
  kind : IoFault.Kind
  wording : Option String
  deriving DecidableEq, Repr

namespace IoFault

def Kind.message : Kind → String
  | .notFound => "entity not found"
  | .permissionDenied => "permission denied"
  | .connectionRefused => "connection refused"
  | .networkUnreachable => "network unreachable"
  | .notADirectory => "not a directory"
  | .invalidInput => "invalid input parameter"
  | .unexpectedEof => "unexpected end of file"
  | .brokenPipe => "broken pipe"
  | .other => "other error"

/-- Trouble that the operating system reports under a number. -/
def ofSystem (kind : Kind) (wording : String) (number : Nat) : IoFault :=
  ⟨kind, some (wording ++ " (os error " ++ toString number ++ ")")⟩

/-- A stream that ends before what was asked of it. -/
def earlyEof : IoFault := ⟨.unexpectedEof, some "early eof"⟩

/-- The wording of a fault: its own, or that of its kind. -/
def message (fault : IoFault) : String := fault.wording.getD fault.kind.message

end IoFault

/-- Why an operation did not succeed. -/
inductive Failure where
  | missingBinary (command : String)
  | notStarted (command : String) (fault : IoFault)
  /-- A command ended with a code other than zero. -/
  | exitStatus (name : String) (code : Int32)
  | terminated (name : String)
  /-- A command or an exchange took longer than its limit. -/
  | timedOut (name : String) (limit : Duration)
  /-- A command has more arguments than are allowed. -/
  | tooManyArguments (limit : Nat)
  | io (fault : IoFault)
  | plist (fault : Plist.Fault)
  /-- A message of the daemon is not what the protocol allows. -/
  | protocol (wording : String)
  /-- The daemon refused a request with a code. -/
  | refused (code : UInt64)
  /-- An index is not below the number of devices last listed. -/
  | noSuchDevice (index count : Nat)
  /-- No daemon is configured. -/
  | unavailable
  | invalidAddress (text : String)
  deriving DecidableEq, Repr

namespace Failure

def message : Failure → String
  | missingBinary command => "command not found: " ++ command
  | notStarted command fault => "failed to exec: " ++ command ++ ": " ++ fault.message
  | exitStatus name code => "\"" ++ name ++ "\" exit value " ++ toString code.toInt
  | terminated name => "\"" ++ name ++ "\" exited unexpectedly"
  | timedOut name limit => "\"" ++ name ++ "\" timed out after " ++ limit.text
  | tooManyArguments limit => "max " ++ toString limit ++ " command args allowed"
  | io fault => "I/O error: " ++ fault.message
  | plist fault => "plist error: " ++ fault.message
  | protocol wording => "usbmuxd protocol error: " ++ wording
  | refused code => "usbmuxd returned error code " ++ toString code.toNat
  | noSuchDevice index count =>
      "no device at index " ++ toString index ++ " (" ++ toString count ++ " known)"
  | unavailable => "usbmuxd backend not available"
  | invalidAddress text => "invalid usbmuxd address: " ++ text

/-- Whether the failure says that an executable is absent. -/
def isMissingBinary : Failure → Bool
  | missingBinary _ => true
  | _ => false

end Failure

end Tethered
