import Tethered.Number.Numeral
import Tethered.Text.Utf8
import Tethered.Plist.Value

/-!
# Property lists as XML text

A value is written one element a line, indented by tabs, behind the declaration
of the XML version and the document type. Characters that markup uses are
written as references, and so is the carriage return, which a reader would
otherwise take for the end of a line.
-/
namespace Tethered.Plist

namespace Writer

/-- A character of a text as it is written. -/
def escapeChar (c : Char) : List Char :=
  if c = '&' then "&amp;".toList
  else if c = '<' then "&lt;".toList
  else if c = '>' then "&gt;".toList
  else if c = '"' then "&quot;".toList
  else if c = '\x27' then "&apos;".toList
  else if c = '\r' then "&#13;".toList
  else [c]

def escape (text : List Char) : List Char := text.flatMap escapeChar

def decimalText : Int → List Char
  | .ofNat n => Number.decimal n
  | .negSucc n => '-' :: Number.decimal (n + 1)

def line (depth : Nat) (content : List Char) : List Char :=
  List.replicate depth '\t' ++ content ++ ['\n']

def leaf (name : String) (content : List Char) : List Char :=
  ['<'] ++ name.toList ++ ['>'] ++ content ++ ['<', '/'] ++ name.toList ++ ['>']

def emptyElement (name : String) : List Char := ['<'] ++ name.toList ++ ['/', '>']

/-- An element around lines that are already written. -/
def block (depth : Nat) (name : String) (inside : List Char) : List Char :=
  line depth (['<'] ++ name.toList ++ ['>']) ++ inside ++
    line depth (['<', '/'] ++ name.toList ++ ['>'])

mutual

/-- The lines of a value at a depth. -/
def value (depth : Nat) : Value → List Char
  | .string text => line depth (leaf "string" (escape text.toList))
  | .integer n => line depth (leaf "integer" (decimalText n))
  | .boolean truth => line depth (emptyElement (if truth then "true" else "false"))
  | .array [] => line depth (emptyElement "array")
  | .array (item :: rest) => block depth "array" (items (depth + 1) (item :: rest))
  | .dictionary [] => line depth (emptyElement "dict")
  | .dictionary (entry :: rest) => block depth "dict" (entries (depth + 1) (entry :: rest))

def items (depth : Nat) : List Value → List Char
  | [] => []
  | item :: rest => value depth item ++ items depth rest

def entries (depth : Nat) : List (String × Value) → List Char
  | [] => []
  | (key, content) :: rest =>
      line depth (leaf "key" (escape key.toList)) ++ value depth content ++ entries depth rest

end

/-- The public identifier of the document type. -/
def publicIdentifier : String := "-//Apple//DTD PLIST 1.0//EN"

/-- The system identifier of the document type: a host and a path on it. -/
def systemIdentifier : String := "http:" ++ "//www.apple.com" ++ "/DTDs/PropertyList-1.0.dtd"

/-- What stands before the root element. -/
def prologue : List Char :=
  ("<?xml version=\"1.0\" encoding=\"UTF-8\"?>\n" ++
    "<!DOCTYPE plist PUBLIC \"" ++ publicIdentifier ++ "\" \"" ++ systemIdentifier ++
    "\">\n").toList

def document (root : Value) : List Char :=
  prologue ++ "<plist version=\"1.0\">\n".toList ++ value 0 root ++ "</plist>".toList

end Writer

def Value.toBytes (root : Value) : List UInt8 := Text.Utf8.encode (Writer.document root)

end Tethered.Plist
