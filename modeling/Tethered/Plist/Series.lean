import Tethered.Plist.Elements

/-!
# The events of a property list

A property list is an XML text or, where a fault comes before anything of that
form is recognised, a bare word. An event or a declaration is enough to
recognise it. A word that writes an integer is one and any other a string; what
follows the first word is not read. The binary form and quoted or bracketed
forms without markup are not covered.
-/
namespace Tethered.Plist

/-- Events in order, and the fault that ends them if there is one. -/
structure Series where
  events : List Event
  fault : Option Fault
  deriving DecidableEq, Repr

namespace Series

/-- What a reader meets behind the last event. -/
def ending (series : Series) : Fault := series.fault.getD .endedEarly

/-- The fewest bytes that tell the form of a property list. -/
def leastLength : Nat := 8

/-- Whether a byte is one of some ASCII characters. -/
def isAmong (characters : String) (byte : UInt8) : Bool := (asciiBytes characters).contains byte

/-- Whether a byte may stand before a bare word without belonging to it. -/
def isBeforeWord (byte : UInt8) : Bool := isAmong " \r\n\t,;=" byte

/-- Whether a byte ends a bare word. A newline does not. -/
def endsWord (byte : UInt8) : Bool := isAmong " )\r\t;," byte

def ofWord (bytes : List UInt8) : Series :=
  match bytes.dropWhile isBeforeWord with
  | [] => ⟨[], none⟩
  | first :: rest =>
      match Text.Utf8.decode? (first :: rest.takeWhile fun b => !endsWord b) with
      | none => ⟨[], some .wordNotUtf8⟩
      | some word =>
          match Integer.ofText? word with
          | some value => ⟨[.integer value], none⟩
          | none => ⟨[.string (String.ofList word)], none⟩

def ofBytes (bytes : List UInt8) : Series :=
  if bytes.length < leastLength then ⟨[], some .tooShort⟩
  else
    let reading := Nesting.empty.read (Markup.lexemes (Markup.dropMark bytes))
    if reading.fault.isSome ∧ reading.events = [] ∧ reading.declared = false then ofWord bytes
    else ⟨reading.events, reading.fault⟩

end Series

end Tethered.Plist
