import Tethered.Text.Quoted
import Tethered.Plist.Event

/-!
# What can be wrong with a property list

Faults are of two sorts: those of the written form, found while the events are
read, and mismatches between well-formed events and the value a reader wants.
Every fault has one wording, which `Fault.message` gives; positions in the input
are not part of it.
-/
namespace Tethered.Plist

open Number

/-- A value as a mismatch shows it. A date is shown as the text that stands for
it, a string between quotes, data and collections without their content. -/
inductive Shown where
  | boolean (value : Bool)
  | integer (value : Int)
  | real (value : Binary64)
  | string (text : String)
  | bytes
  | sequence
  | map
  deriving DecidableEq, Repr

def Shown.message : Shown → String
  | .boolean value => "boolean `" ++ toString value ++ "`"
  | .integer value => "integer `" ++ toString value ++ "`"
  | .real value => "floating point `" ++ value.text ++ "`"
  | .string text => "string " ++ Text.quote text
  | .bytes => "byte array"
  | .sequence => "sequence"
  | .map => "map"

/-- What a reader wants in the place of a value. -/
inductive Wanted where
  | unsigned32
  | unsigned64
  | string
  | sequence
  | fieldIdentifier
  deriving DecidableEq, Repr

def Wanted.message : Wanted → String
  | .unsigned32 => "u32"
  | .unsigned64 => "u64"
  | .string => "a string"
  | .sequence => "a sequence"
  | .fieldIdentifier => "field identifier"

/-- How well-formed events fail to make up the wanted value: a value of another
type, a value of the right type outside its range, or a dictionary whose fields
are incomplete or repeated. -/
inductive Mismatch where
  | type (found : Shown) (wanted : Wanted)
  | value (found : Shown) (wanted : Wanted)
  | missingField (name : String)
  | duplicateField (name : String)
  deriving DecidableEq, Repr

def Mismatch.message : Mismatch → String
  | .type found wanted => "invalid type: " ++ found.message ++ ", expected " ++ wanted.message
  | .value found wanted => "invalid value: " ++ found.message ++ ", expected " ++ wanted.message
  | .missingField name => "missing field `" ++ name ++ "`"
  | .duplicateField name => "duplicate field `" ++ name ++ "`"

/-- Why a property list cannot be read as the wanted value. -/
inductive Fault where
  /-- The input is too short to tell its form. -/
  | tooShort
  /-- The input ends inside a piece of markup, or markup begins in no known way. -/
  | cutShort
  /-- Tags do not nest, or a reference is not closed or names no character. -/
  | illFormed
  /-- Text, a reference or a piece of markup is not UTF-8. -/
  | notUtf8
  /-- A bare word is not UTF-8. -/
  | wordNotUtf8
  /-- The input ends inside the content of an element. -/
  | unclosedElement
  /-- An element begins inside the content of a scalar. -/
  | elementInContent
  | unknownElement
  | textBetweenElements
  | invalidData
  | invalidDate
  | invalidInteger
  | invalidReal
  | endedEarly
  | unexpectedEvent (wanted found : Event.Sort)
  /-- An event follows the whole value. -/
  | eventBehindValue (found : Event.Sort)
  | mismatch (cause : Mismatch)
  deriving DecidableEq, Repr

def Fault.message : Fault → String
  | .tooShort => "Io(Error \x7b kind: UnexpectedEof, message: \"failed to fill whole buffer\" \x7d)"
  | .cutShort => "UnexpectedEof"
  | .illFormed => "InvalidXmlSyntax"
  | .notUtf8 => "InvalidXmlUtf8"
  | .wordNotUtf8 => "InvalidUtf8AsciiStream"
  | .unclosedElement => "UnclosedXmlElement"
  | .elementInContent => "UnexpectedXmlOpeningTag"
  | .unknownElement => "UnknownXmlElement"
  | .textBetweenElements => "UnexpectedXmlCharactersExpectedElement"
  | .invalidData => "InvalidDataString"
  | .invalidDate => "InvalidDateString"
  | .invalidInteger => "InvalidIntegerString"
  | .invalidReal => "InvalidRealString"
  | .endedEarly => "UnexpectedEndOfEventStream"
  | .unexpectedEvent wanted found =>
      "UnexpectedEventType \x7b expected: " ++ wanted.name ++ ", found: " ++ found.name ++ " \x7d"
  | .eventBehindValue found =>
      "ExpectedEndOfEventStream \x7b found: " ++ found.name ++ " \x7d"
  | .mismatch cause => "Serde(" ++ Text.quote cause.message ++ ")"

end Tethered.Plist
