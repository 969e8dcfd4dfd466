import Tethered.Plist.Event

/-!
# Values to be written as property lists

The values that this library writes: text, integers, truth values and
collections of them. `Value.events` is the series that a value stands for, so a
written value and the events read from it can be compared.
-/
namespace Tethered.Plist

/-- A value of a property list. The entries of a dictionary keep their order. -/
inductive Value where
  | string (text : String)
  | integer (value : Int)
  | boolean (value : Bool)
  | array (items : List Value)
  | dictionary (entries : List (String × Value))
  deriving Repr

namespace Value

mutual

def events : Value → List Event
  | .string text => [.string text]
  | .integer value => [.integer value]
  | .boolean value => [.boolean value]
  | .array items => .startArray :: itemEvents items ++ [.endCollection]
  | .dictionary entries => .startDictionary :: entryEvents entries ++ [.endCollection]

def itemEvents : List Value → List Event
  | [] => []
  | item :: rest => item.events ++ itemEvents rest

/-- The events of the entries of a dictionary: each key before its value. -/
def entryEvents : List (String × Value) → List Event
  | [] => []
  | (key, value) :: rest => .string key :: value.events ++ entryEvents rest

end

end Value

end Tethered.Plist
