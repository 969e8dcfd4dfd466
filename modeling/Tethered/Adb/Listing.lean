import Tethered.Text.Pieces

/-!
# The list of devices

The tool lists one device a line: a serial number, spaces or tabs, a state. Its
heading, its banners and blank lines are noise. A line without a space or a tab
is not part of any list the tool prints, and nothing behind it is read.
-/
namespace Tethered.Adb

open Text

/-- A device as one line lists it. -/
structure Listed where
  serial : List Char
  state : List Char
  deriving DecidableEq, Repr

/-- What one line of a list is. -/
inductive Line where
  | noise
  | device (listed : Listed)
  | malformed
  deriving DecidableEq, Repr

/-- The characters between a serial number and a state. -/
def isSeparator (c : Char) : Bool := c = ' ' || c = '\t'

/-- Whether a line is blank, belongs to the heading or is a banner. -/
def isHeading (line : List Char) : Bool :=
  line.all isBlank || occursIn "List of".toList line || line.head? = some '*'

def Line.ofText (line : List Char) : Line :=
  if isHeading line then .noise
  else
    let serial := line.takeWhile fun c => !isSeparator c
    let behind := line.dropWhile fun c => !isSeparator c
    let state := dropEndWhile isBlank (behind.dropWhile isSeparator)
    if behind.isEmpty then .malformed
    else if serial.isEmpty || state.isEmpty then .noise
    else .device ⟨serial, state⟩

/-- The device that a line lists, if it lists one. -/
def Line.device? : Line → Option Listed
  | .device listed => some listed
  | _ => none

/-- The devices of an output, at most `limit` of them. -/
def listing (output : List Char) (limit : Nat) : List Listed :=
  ((((lines output).map Line.ofText).takeWhile (· != .malformed)).filterMap Line.device?).take limit

end Tethered.Adb
