import Tethered.Number.Numeral

/-!
# Integers as property lists write them

An integer is decimal with an optional sign, or hexadecimal behind `0x`, which
may be repeated. The admitted values are those of the signed and the unsigned
64-bit integers together; a hexadecimal numeral is never negative. Blanks are
not admitted.
-/
namespace Tethered.Plist.Integer

open Number

/-- The text behind every leading `0x`. -/
def dropMarks : List Char → List Char
  | '0' :: 'x' :: rest => dropMarks rest
  | text => text

/-- Whether a value is a signed or an unsigned 64-bit integer. -/
def inRange (value : Int) : Bool :=
  -0x8000000000000000 ≤ value && value < 0x10000000000000000

/-- The integer that a text writes, if it writes one. -/
def ofText? (text : List Char) : Option Int :=
  let value : Option Int :=
    match text with
    | '0' :: 'x' :: rest => (ofUnsigned? ofHex? (dropMarks rest)).map Int.ofNat
    | text => ofSigned? ofDecimal? text
  value.filter inRange

end Tethered.Plist.Integer
