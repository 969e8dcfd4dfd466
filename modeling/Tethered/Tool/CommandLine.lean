import Tethered.Text.Clip
import Tethered.Text.Utf8

/-!
# Command lines

A command line is a program, which need not be text, and its arguments. For
messages it is rendered as the parts with single spaces between them; empty
parts at the beginning are left out, later ones are not. A rendering has a limit
in bytes and ends between characters: no part behind the one that reaches the limit
is looked at. No quoting takes place.
-/
namespace Tethered.Tool

open Text

structure CommandLine where
  program : List UInt8
  arguments : List String
  deriving DecidableEq, Repr

namespace CommandLine

def parts (command : CommandLine) : List (List Char) :=
  Utf8.decodeLossy command.program :: command.arguments.map String.toList

/-- What is written, and a part behind it. -/
def writeOn (written : String) (part : List Char) : String :=
  (if written.isEmpty then written else written.push ' ') ++ String.ofList part

/-- Writes part behind part, and ends with the one that reaches a limit in bytes. -/
def renderFrom (limit : Nat) (written : String) : List (List Char) → String
  | [] => written
  | part :: rest =>
      let longer := writeOn written part
      if limit ≤ longer.utf8ByteSize then cutAt limit longer else renderFrom limit longer rest

/-- The parts of a command line, up to a limit in bytes. -/
def render (command : CommandLine) (limit : Nat) : String :=
  renderFrom limit "" command.parts

/-- The bytes of a command line that a message shows. -/
def displayLimit : Nat := 255

/-- A command line as a message shows it. -/
def display (command : CommandLine) : String := command.render displayLimit

end CommandLine

end Tethered.Tool
