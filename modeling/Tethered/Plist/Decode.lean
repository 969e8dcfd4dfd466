import Tethered.Plist.Series

/-!
# Reading values from events

A reader takes one whole value from the front of the events and leaves the rest,
which is always shorter, so readers of collections recur on what is left. The
events are read in order and the first problem wins. A dictionary is read as a
record: its keys are matched against named fields, each at most once, and a
value under any other key is skipped whatever it is.
-/
namespace Tethered.Plist

/-- What is left of events behind a value. -/
abbrev Rest (events : List Event) : Type := { rest : List Event // rest.length < events.length }

namespace Rest

/-- Everything behind the first event. -/
def tail (event : Event) (rest : List Event) : Rest (event :: rest) := ⟨rest, Nat.lt_succ_self _⟩

/-- What is left of a part is left of the whole. -/
def widen {event : Event} {events : List Event} (rest : Rest events) : Rest (event :: events) :=
  ⟨rest.1, Nat.lt_succ_of_lt rest.2⟩

/-- What is left of what is left. -/
def within {events : List Event} (outer : Rest events) (inner : Rest outer.1) : Rest events :=
  ⟨inner.1, Nat.lt_trans inner.2 outer.2⟩

end Rest

/-- Reads a value from the front of events. `ending` is the fault to give where
the events end before the value does. -/
abbrev Reader (α : Type) : Type :=
  (ending : Fault) → (events : List Event) → Except Fault (α × Rest events)

/-- An event as a mismatch shows it. The end of a collection is no value. -/
def Event.shown? : Event → Option Shown
  | .startArray => some .sequence
  | .startDictionary => some .map
  | .endCollection => none
  | .boolean value => some (.boolean value)
  | .data _ => some .bytes
  | .date moment => some (.string moment.text)
  | .integer value => some (.integer value)
  | .real value => some (.real value)
  | .string text => some (.string text)

/-- The fault of an end of a collection where a value has to stand. -/
def Fault.absentValue : Fault := .unexpectedEvent .valueOrStartCollection .endCollection

/-- The fault of an event that begins no value of the wanted sort. -/
def Event.refuse (event : Event) (wanted : Wanted) : Fault :=
  match event.shown? with
  | some shown => .mismatch (.type shown wanted)
  | none => .absentValue

/-! ## Skipping a value -/

/-- Where a skipped value stands: among the elements of an array, or in the
place of a key or a value of a dictionary. -/
inductive Place where
  | element
  | key
  | value
  deriving DecidableEq, Repr

def Place.next : Place → Place
  | .element => .element
  | .key => .value
  | .value => .key

/-- Skip one value and all that encloses it. `places` are the enclosing places,
innermost first. -/
def skip (ending : Fault) (places : List Place) :
    (events : List Event) → Except Fault (Rest events)
  | [] => .error ending
  | event :: rest =>
      let behindValue := fun (places : List Place) =>
        match places with
        | [] => .ok (Rest.tail event rest)
        | place :: outer => (skip ending (place.next :: outer) rest).map Rest.widen
      match event with
      | .startArray => (skip ending (.element :: places) rest).map Rest.widen
      | .startDictionary => (skip ending (.key :: places) rest).map Rest.widen
      | .endCollection =>
          match places with
          | .element :: outer | .key :: outer => behindValue outer
          | .value :: _ | [] => .error .absentValue
      | _ => behindValue places

/-! ## Scalars -/

/-- A natural number below a limit. -/
def unsigned (wanted : Wanted) (limit : Nat) : Reader Nat := fun ending events =>
  match events with
  | [] => .error ending
  | .integer value :: rest =>
      if 0 ≤ value ∧ value < limit then .ok (value.toNat, Rest.tail _ rest)
      else .error (.mismatch (.value (.integer value) wanted))
  | event :: _ => .error (event.refuse wanted)

def unsigned32 : Reader UInt32 := fun ending events =>
  (unsigned .unsigned32 0x100000000 ending events).map fun (value, rest) =>
    (value.toUInt32, rest)

def unsigned64 : Reader UInt64 := fun ending events =>
  (unsigned .unsigned64 0x10000000000000000 ending events).map fun (value, rest) =>
    (value.toUInt64, rest)

/-- A text. A date is read as its timestamp, and data as UTF-8. -/
def text : Reader String := fun ending events =>
  match events with
  | [] => .error ending
  | .string value :: rest => .ok (value, Rest.tail _ rest)
  | .date moment :: rest => .ok (moment.text, Rest.tail _ rest)
  | .data bytes :: rest =>
      match Text.Utf8.decode? bytes with
      | some value => .ok (String.ofList value, Rest.tail _ rest)
      | none => .error (.mismatch (.value .bytes .string))
  | event :: _ => .error (event.refuse .string)

/-! ## Collections -/

def elements {α : Type} (item : Reader α) : Reader (List α) := fun ending events =>
  match events with
  | [] => .error ending
  | .endCollection :: rest => .ok ([], Rest.tail _ rest)
  | event :: rest => do
      let (value, behind) ← item ending (event :: rest)
      let (values, last) ← elements item ending behind.1
      .ok (value :: values, behind.within last)
termination_by _ events => events.length
decreasing_by exact behind.2

def sequence {α : Type} (item : Reader α) : Reader (List α) := fun ending events =>
  match events with
  | [] => .error ending
  | .startArray :: rest =>
      (elements item ending rest).map fun (values, last) => (values, last.widen)
  | event :: _ => .error (event.refuse .sequence)

/-- One field of a record under construction: whether it is there already, and
how it is read into the record. -/
structure RecordField (ρ : Type) where
  name : String
  isSet : ρ → Bool
  read : Reader (ρ → ρ)

/-- Which of the named fields a key means. A key is the name, as text or as its
bytes, or the position; whatever means no field is a position behind the last. -/
def fieldIndex (names : List String) (key : Event) : Except Fault Nat :=
  match key with
  | .string name => .ok (names.idxOf name)
  | .date moment => .ok (names.idxOf moment.text)
  | .data bytes => .ok ((names.map asciiBytes).idxOf bytes)
  | .integer position =>
      if position < 0 then .error (key.refuse .fieldIdentifier) else .ok position.toNat
  | _ => .error (key.refuse .fieldIdentifier)

def fields {ρ : Type} (known : List (RecordField ρ)) (record : ρ) : Reader ρ := fun ending events =>
  match events with
  | [] => .error ending
  | .endCollection :: rest => .ok (record, Rest.tail _ rest)
  | key :: rest => do
      let index ← fieldIndex (known.map RecordField.name) key
      match known[index]? with
      | none => do
          let behind ← skip ending [] rest
          let (record, last) ← fields known record ending behind.1
          .ok (record, (behind.within last).widen)
      | some field =>
          if field.isSet record then .error (.mismatch (.duplicateField field.name))
          else do
            let (set, behind) ← field.read ending rest
            let (record, last) ← fields known (set record) ending behind.1
            .ok (record, (behind.within last).widen)
termination_by _ events => events.length
decreasing_by
  all_goals exact Nat.lt_succ_of_lt behind.2

/-- A dictionary read as a record. `finish` sees the record when the dictionary
ends. -/
def dictionary {ρ α : Type} (known : List (RecordField ρ)) (start : ρ)
    (finish : ρ → Except Mismatch α) : Reader α := fun ending events =>
  match events with
  | [] => .error ending
  | .startDictionary :: rest => do
      let (record, last) ← fields known start ending rest
      match finish record with
      | .ok value => .ok (value, last.widen)
      | .error cause => .error (.mismatch cause)
  | event :: _ => .error (.unexpectedEvent .startDictionary event.sort)

/-- The value of a field that must be there. -/
def require {α : Type} (name : String) (value : Option α) : Except Mismatch α :=
  value.elim (.error (.missingField name)) .ok

/-- The one value that a series writes. -/
def Reader.whole {α : Type} (reader : Reader α) (series : Series) : Except Fault α := do
  let (value, rest) ← reader series.ending series.events
  match rest.1, series.fault with
  | [], none => .ok value
  | [], some fault => .error fault
  | event :: _, _ => .error (.eventBehindValue event.sort)

end Tethered.Plist
