import Tethered.Text.Invisible

/-!
# Quoted text in messages

A message that shows a text sets it between double quotes. The quote and the
backslash are written with a backslash before them, four control characters by a
letter, and every other character without a visible form by its number. The
apostrophe stays as it is.
-/
namespace Tethered.Text

/-- The hexadecimal number of a character, without leading zeros. -/
def hexNumber (c : Char) : List Char := Nat.toDigits 16 c.toNat

/-- A character as it stands inside a quotation. -/
def quoteChar (c : Char) : List Char :=
  if c = '"' then ['\\', '"']
  else if c = '\\' then ['\\', '\\']
  else if c = '\t' then ['\\', 't']
  else if c = '\n' then ['\\', 'n']
  else if c = '\r' then ['\\', 'r']
  else if c = '\x00' then ['\\', '0']
  else if isInvisible c then ['\\', 'u', '\x7b'] ++ hexNumber c ++ ['\x7d']
  else [c]

/-- A text between double quotes. -/
def quote (text : String) : String :=
  String.ofList (['"'] ++ text.toList.flatMap quoteChar ++ ['"'])

end Tethered.Text
