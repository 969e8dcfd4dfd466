/-!
# Bytes written in base 64

Three bytes are four digits of the standard alphabet; one or two bytes at the
end are padded to a full group. Reading admits ASCII blanks anywhere, wants the
padding, and refuses digits whose unused bits are not zero, so apart from blanks
every sequence of bytes has one written form.
-/
namespace Tethered.Plist.Base64

def digit? (c : Char) : Option Nat :=
  if 'A' ≤ c ∧ c ≤ 'Z' then some (c.toNat - 0x41)
  else if 'a' ≤ c ∧ c ≤ 'z' then some (c.toNat - 0x61 + 26)
  else if c.isDigit then some (c.toNat - 0x30 + 52)
  else if c = '+' then some 62
  else if c = '/' then some 63
  else none

/-- Blanks that the written form may contain. -/
def isAsciiBlank (c : Char) : Bool :=
  c = ' ' || c = '\t' || c = '\n' || c = '\x0c' || c = '\r'

def lowByte (n : Nat) : UInt8 := UInt8.ofNat (n % 256)

def ofDigits? : List Char → Option (List UInt8)
  | [] => some []
  | [a, b, '=', '='] => do
      let a ← digit? a
      let b ← digit? b
      if b % 16 = 0 then some [lowByte (a * 4 + b / 16)] else none
  | [a, b, c, '='] => do
      let a ← digit? a
      let b ← digit? b
      let c ← digit? c
      if c % 4 = 0 then some [lowByte (a * 4 + b / 16), lowByte (b * 16 + c / 4)] else none
  | a :: b :: c :: d :: rest => do
      let a ← digit? a
      let b ← digit? b
      let c ← digit? c
      let d ← digit? d
      let bytes ← ofDigits? rest
      some (lowByte (a * 4 + b / 16) :: lowByte (b * 16 + c / 4) :: lowByte (c * 64 + d) :: bytes)
  | _ => none

/-- The bytes of a text, if it is one written in base 64. -/
def ofText? (text : List Char) : Option (List UInt8) :=
  ofDigits? (text.filter fun c => !isAsciiBlank c)

end Tethered.Plist.Base64
