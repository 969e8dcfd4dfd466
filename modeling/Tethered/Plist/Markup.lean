import Tethered.Text.Utf8
import Tethered.Plist.Extent
import Tethered.Plist.Fault

/-!
# The lexemes of an XML text

The bytes of a text are cut into tags, references, stretches of text,
declarations, and markup without meaning for a property list: comments, sections
of literal text and processing instructions. Every piece must be UTF-8 as a
whole, attributes and comments included, before anything else is asked of it.
Nothing is joined and no nesting is checked here. The first piece that is not
well formed ends the lexemes with its fault.
-/
namespace Tethered.Plist

inductive Lexeme where
  | text (content : List Char)
  /-- What stands between an ampersand and its semicolon. -/
  | reference (name : List Char)
  | opening (name : List Char)
  | closing (name : List Char)
  /-- A declaration of the XML version or of the document type. -/
  | declaration
  /-- Markup without meaning for a property list. -/
  | skipped
  /-- A piece that is not well formed. Nothing follows it. -/
  | broken (fault : Fault)
  deriving DecidableEq, Repr

namespace Markup

/-- The blanks that separate parts of a tag. -/
def isTagBlank (c : Char) : Bool := c == ' ' || c == '\t' || c == '\n' || c == '\r'

/-- What markup is, told by how it begins. -/
inductive Form where
  | opening
  | closing
  | instruction
  | comment
  | literal
  | documentType
  deriving DecidableEq, Repr

/-- The form of markup that begins with `<!`, and the count of bytes through its
end. Comments, literal text and document types are known by their first byte. -/
def exclamation? : List UInt8 → Option (Form × Nat)
  | [] => none
  | byte :: rest =>
      if byte = '-'.toUInt8 then
        (Extent.through? (asciiBytes "-->") 2 (rest.drop 1)).map (Form.comment, ·)
      else if byte = '['.toUInt8 then
        (Extent.through? (asciiBytes "]]>") 1 rest).map (Form.literal, ·)
      else if byte = 'D'.toUInt8 ∨ byte = 'd'.toUInt8 then
        (Extent.documentType? 1 none rest).map (Form.documentType, ·)
      else none

/-- The form of markup, and the count of bytes behind its `<` through its end. -/
def form? : List UInt8 → Option (Form × Nat)
  | [] => none
  | byte :: rest =>
      if byte = '!'.toUInt8 then
        (exclamation? rest).map fun (form, count) => (form, count + 1)
      else if byte = '?'.toUInt8 then
        if rest.head? = some '>'.toUInt8 then none
        else (Extent.through? (asciiBytes "?>") 1 rest).map (Form.instruction, ·)
      else if byte = '/'.toUInt8 then (Extent.tag? 1 none rest).map (Form.closing, ·)
      else (Extent.tag? 0 none (byte :: rest)).map (Form.opening, ·)

def tagName (inside : List Char) : List Char := inside.takeWhile fun c => !isTagBlank c

/-- The lexemes of an opening tag. A slash at its end closes the element at
once. -/
def openingLexemes (inside : List Char) : List Lexeme :=
  if inside.getLast? = some '/' then
    let name := tagName inside.dropLast
    [.opening name, .closing name]
  else [.opening (tagName inside)]

/-- The lexeme of a closing tag: blanks at its end do not belong to the name. -/
def closingLexeme (inside : List Char) : Lexeme :=
  .closing (inside.reverse.dropWhile isTagBlank).reverse

def instructionLexeme (inside : List Char) : Lexeme :=
  let behindName := inside.drop 3
  if inside.take 3 = ['x', 'm', 'l'] ∧ (behindName = [] ∨ behindName.head?.any isTagBlank) then
    .declaration
  else .skipped

/-- The lexeme of a document type declaration. Its opening word may be in any
case, and it must name something. -/
def documentTypeLexeme (inside : List Char) : Except Fault Lexeme :=
  let opening := "!doctype".toList
  if (inside.take opening.length).map Char.toLower ≠ opening then .error .cutShort
  else if (inside.drop opening.length).all isTagBlank then .error .illFormed
  else .ok .declaration

/-- Markup that has to begin with a word, or else counts as never ended. -/
def skippedBehind (opening : String) (inside : List Char) : Except Fault Lexeme :=
  if opening.toList.isPrefixOf inside then .ok .skipped else .error .cutShort

/-- The lexemes of markup of a form, from what stands between its `<` and its
`>`. -/
def Form.lexemes (inside : List Char) : Form → Except Fault (List Lexeme)
  | .opening => .ok (openingLexemes inside)
  | .closing => .ok [closingLexeme (inside.drop 1)]
  | .instruction => .ok [instructionLexeme (inside.drop 1).dropLast]
  | .comment => (skippedBehind "!--" inside).map ([·])
  | .literal => (skippedBehind "![CDATA[" inside).map ([·])
  | .documentType => (documentTypeLexeme inside).map ([·])

def endsText (byte : UInt8) : Bool := byte == '<'.toUInt8 || byte == '&'.toUInt8

def decoded (bytes : List UInt8) : Except Fault (List Char) :=
  (Text.Utf8.decode? bytes).elim (.error .notUtf8) .ok

/-- The lexemes behind a `<`, and the count of their bytes. -/
def markup (bytes : List UInt8) : Except Fault (List Lexeme × Nat) :=
  match form? bytes with
  | none => .error .cutShort
  | some (form, count) => do
      let inside ← decoded (bytes.take (count - 1))
      let found ← form.lexemes inside
      .ok (found, count)

/-- The reference behind an ampersand, and the count of its bytes. It has to be
closed before the text ends. -/
def reference (bytes : List UInt8) : Except Fault (List Lexeme × Nat) := do
  let bytesOfName := bytes.takeWhile fun b => !(endsText b || b == ';'.toUInt8)
  let name ← decoded bytesOfName
  if bytes[bytesOfName.length]? = some ';'.toUInt8 then
    .ok ([.reference name], bytesOfName.length + 1)
  else .error .illFormed

/-- The stretch of text that a byte begins, and the count of the bytes behind
it. -/
def stretch (byte : UInt8) (rest : List UInt8) : Except Fault (List Lexeme × Nat) := do
  let behind := rest.takeWhile fun b => !endsText b
  let content ← decoded (byte :: behind)
  .ok ([.text content], behind.length)

/-- The lexemes that a byte begins, and the count of their bytes behind it. -/
def next (byte : UInt8) (rest : List UInt8) : Except Fault (List Lexeme × Nat) :=
  if byte = '<'.toUInt8 then markup rest
  else if byte = '&'.toUInt8 then reference rest
  else stretch byte rest

def lexemes : List UInt8 → List Lexeme
  | [] => []
  | byte :: rest =>
      match next byte rest with
      | .error fault => [.broken fault]
      | .ok (found, count) => found ++ lexemes (rest.drop count)
termination_by bytes => bytes.length
decreasing_by simp only [List.length_drop, List.length_cons]; omega

/-- The bytes behind a byte order mark, if they begin with one. -/
def dropMark : List UInt8 → List UInt8
  | 0xEF :: 0xBB :: 0xBF :: rest => rest
  | bytes => bytes

end Markup

end Tethered.Plist
