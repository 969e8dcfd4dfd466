import Tethered.Number.Binary64
import Tethered.Number.Moment

/-!
# Property lists as a series of events

A property list is read as a flat series: scalars, the start of an array or a
dictionary, and the end of a collection. A dictionary is its keys and values in
turn, and a key is an ordinary value. An integer is within the union of the
signed and the unsigned 64-bit range; the type does not enforce this.
-/
namespace Tethered.Plist

open Number

inductive Event where
  | startArray
  | startDictionary
  | endCollection
  | boolean (value : Bool)
  | data (bytes : List UInt8)
  | date (moment : Moment)
  | integer (value : Int)
  | real (value : Binary64)
  | string (text : String)
  deriving DecidableEq, Repr

/-- The sorts of event that a reader asks for or meets. -/
inductive Event.Sort where
  | startArray
  | startDictionary
  | endCollection
  | boolean
  | data
  | date
  | integer
  | real
  | string
  | valueOrStartCollection
  deriving DecidableEq, Repr

def Event.sort : Event → Event.Sort
  | .startArray => .startArray
  | .startDictionary => .startDictionary
  | .endCollection => .endCollection
  | .boolean _ => .boolean
  | .data _ => .data
  | .date _ => .date
  | .integer _ => .integer
  | .real _ => .real
  | .string _ => .string

/-- The name of a sort in a message. -/
def Event.Sort.name : Event.Sort → String
  | .startArray => "StartArray"
  | .startDictionary => "StartDictionary"
  | .endCollection => "EndCollection"
  | .boolean => "Boolean"
  | .data => "Data"
  | .date => "Date"
  | .integer => "Integer"
  | .real => "Real"
  | .string => "String"
  | .valueOrStartCollection => "ValueOrStartCollection"

end Tethered.Plist
