import Tethered.Text.Pieces
import Tethered.Plist.Base64
import Tethered.Plist.Integer
import Tethered.Plist.Markup

/-!
# From lexemes to events

Lexemes are read one at a time against the elements that are open. Between
elements only blanks may stand; inside the element of a scalar text and
references are joined as they stand, ends of lines included, and everything but
its own closing tag is refused or dropped. Elements must nest by their full names,
but mean what the part of the name behind a colon says. Elements that are still
open at the end are no fault here: the events simply end early.
-/
namespace Tethered.Plist

/-- The scalars that are written as text. -/
inductive Scalar where
  | string
  | data
  | date
  | integer
  | real
  deriving DecidableEq, Repr

inductive Element where
  | root
  | array
  | dictionary
  | truth (value : Bool)
  | scalar (kind : Scalar)
  deriving DecidableEq, Repr

namespace Element

/-- The part of a name behind its first colon, or the whole name. -/
def localName (name : List Char) : List Char :=
  match name.dropWhile (· != ':') with
  | [] => name
  | _ :: rest => rest

/-- The elements by their names. A key is a string. -/
def byName : List (String × Element) :=
  [("plist", root), ("array", array), ("dict", dictionary), ("key", scalar .string),
    ("string", scalar .string), ("data", scalar .data), ("date", scalar .date),
    ("integer", scalar .integer), ("real", scalar .real), ("true", truth true),
    ("false", truth false)]

def ofName? (name : List Char) : Option Element := byName.lookup (String.ofList (localName name))

end Element

/-- The event of a scalar with its joined text. -/
def Scalar.event (text : List Char) : Scalar → Except Fault Event
  | .string => .ok (.string (String.ofList text))
  | .data => ((Base64.ofText? text).map Event.data).elim (.error .invalidData) .ok
  | .date => ((Number.Moment.ofText? text).map Event.date).elim (.error .invalidDate) .ok
  | .integer => ((Integer.ofText? text).map Event.integer).elim (.error .invalidInteger) .ok
  | .real => ((Number.Binary64.ofText? text).map Event.real).elim (.error .invalidReal) .ok

/-- The character of a reference by number, from what stands behind its number
sign. -/
def numberedCharacter? (digits : List Char) : Option Char :=
  let value :=
    match digits with
    | 'x' :: rest => Number.ofHex? rest
    | _ => Number.ofDecimal? digits
  value.bind fun n => if n ≠ 0 ∧ n.isValidChar then some (Char.ofNat n) else none

def namedCharacter? (name : List Char) : Option Char :=
  [("lt", '<'), ("gt", '>'), ("amp", '&'), ("apos", '\x27'), ("quot", '"')].lookup
    (String.ofList name)

/-- What a reference stands for. A name without a meaning stands for nothing. -/
inductive Referent where
  | numbered (c : Char)
  | named (c? : Option Char)

/-- The referent of what stands between an ampersand and its semicolon. -/
def Referent.ofText : List Char → Except Fault Referent
  | '#' :: digits =>
      ((numberedCharacter? digits).map Referent.numbered).elim (.error .illFormed) .ok
  | name => .ok (.named (namedCharacter? name))

/-- What is open while lexemes are read: the elements, innermost first, and
inside the element of a scalar its text so far, last character first. -/
structure Nesting where
  names : List (List Char)
  content : Option (Scalar × List Char)
  deriving DecidableEq, Repr

namespace Nesting

/-- Before the first lexeme nothing is open. -/
def empty : Nesting := ⟨[], none⟩

/-- Text joins the content of a scalar; elsewhere it must be blank. -/
def addText (nesting : Nesting) (text : List Char) : Except Fault Nesting :=
  match nesting.content with
  | some (kind, before) => .ok { nesting with content := some (kind, text.reverse ++ before) }
  | none => if text.all Text.isBlank then .ok nesting else .error .textBetweenElements

/-- A reference joins the content of a scalar; elsewhere only a numbered blank
may stand. -/
def addReference (nesting : Nesting) : Referent → Except Fault Nesting
  | .numbered c => nesting.addText [c]
  | .named c? =>
      if nesting.content.isSome then nesting.addText c?.toList
      else .error .textBetweenElements

/-- An opening tag. The events are those that it makes known at once. -/
def openElement (nesting : Nesting) (name : List Char) : Except Fault (Nesting × List Event) :=
  if nesting.content.isSome then .error .elementInContent
  else
    let names := name :: nesting.names
    match Element.ofName? name with
    | none => .error .unknownElement
    | some .root => .ok (⟨names, none⟩, [])
    | some .array => .ok (⟨names, none⟩, [.startArray])
    | some .dictionary => .ok (⟨names, none⟩, [.startDictionary])
    | some (.truth value) => .ok (⟨names, none⟩, [.boolean value])
    | some (.scalar kind) => .ok (⟨names, some (kind, [])⟩, [])

/-- A closing tag. It must bear the name of the innermost open element. -/
def closeElement (nesting : Nesting) (name : List Char) : Except Fault (Nesting × List Event) :=
  match nesting.names with
  | [] => .error .illFormed
  | innermost :: names =>
      if innermost ≠ name then .error .illFormed
      else
        match nesting.content with
        | some (kind, text) => (kind.event text.reverse).map fun event => (⟨names, none⟩, [event])
        | none =>
            match Element.ofName? name with
            | some .array | some .dictionary => .ok (⟨names, none⟩, [.endCollection])
            | _ => .ok (⟨names, none⟩, [])

/-- One lexeme: what is open behind it and the events that it completes. -/
def step (nesting : Nesting) : Lexeme → Except Fault (Nesting × List Event)
  | .text content => (nesting.addText content).map fun nesting => (nesting, [])
  | .reference name => do
      let referent ← Referent.ofText name
      (nesting.addReference referent).map fun nesting => (nesting, [])
  | .opening name => nesting.openElement name
  | .closing name => nesting.closeElement name
  | .declaration | .skipped => .ok (nesting, [])
  | .broken fault => .error fault

end Nesting

/-- The events of an XML text, the fault that ends them if there is one, and
whether a declaration was met outside the content of scalars. -/
structure Reading where
  events : List Event
  fault : Option Fault
  declared : Bool
  deriving DecidableEq, Repr

def Nesting.read (nesting : Nesting) : List Lexeme → Reading
  | [] => ⟨[], if nesting.content.isSome then some .unclosedElement else none, false⟩
  | lexeme :: rest =>
      let here := nesting.content.isNone
      match nesting.step lexeme with
      | .error fault => ⟨[], some fault, false⟩
      | .ok (nesting, events) =>
          let reading := nesting.read rest
          { events := events ++ reading.events
            fault := reading.fault
            declared := (lexeme = .declaration && here) || reading.declared }

end Tethered.Plist
