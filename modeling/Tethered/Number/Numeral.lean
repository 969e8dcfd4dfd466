/-!
# Numerals

Digits written and read without a locale. Writing gives no leading zeros; reading
accepts any number of them, needs at least one digit and admits nothing else.
Signs and prefixes belong to the formats that use these numerals.
-/
namespace Tethered.Number

def decimal (n : Nat) : List Char := Nat.toDigits 10 n

/-- The number written by a nonempty run of ASCII digits. -/
def ofDecimal? (digits : List Char) : Option Nat :=
  if digits.isEmpty || !digits.all Char.isDigit then none
  else some (Nat.ofDigitChars 10 digits 0)

theorem ofDecimal?_decimal (n : Nat) : ofDecimal? (decimal n) = some n := by
  have hne : (Nat.toDigits 10 n).isEmpty = false := by
    simp [Nat.toDigits_ne_nil]
  have hall : (Nat.toDigits 10 n).all Char.isDigit = true :=
    List.all_eq_true.2 fun c hc => Nat.isDigit_of_mem_toDigits (by decide) (by decide) hc
  simp [ofDecimal?, decimal, hne, hall, Nat.ofDigitChars_toDigits]

/-- The value of a hexadecimal digit of either case. -/
def hexValue? (c : Char) : Option Nat :=
  if c.isDigit then some (c.toNat - 0x30)
  else if 'a' ≤ c ∧ c ≤ 'f' then some (c.toNat - 0x57)
  else if 'A' ≤ c ∧ c ≤ 'F' then some (c.toNat - 0x37)
  else none

/-- The number written by a nonempty run of hexadecimal digits. -/
def ofHex? (digits : List Char) : Option Nat :=
  if digits.isEmpty then none
  else digits.foldlM (fun value c => (hexValue? c).map (value * 16 + ·)) 0

/-- The number after one optional plus sign. -/
def ofUnsigned? (read : List Char → Option Nat) : List Char → Option Nat
  | '+' :: digits => read digits
  | digits => read digits

/-- The integer after one optional sign. -/
def ofSigned? (read : List Char → Option Nat) : List Char → Option Int
  | '-' :: digits => (read digits).map fun n => -(n : Int)
  | digits => (ofUnsigned? read digits).map fun n => (n : Int)

/-- A number with zeros in front up to a width. -/
def padded (width n : Nat) : List Char :=
  let digits := decimal n
  List.replicate (width - digits.length) '0' ++ digits

end Tethered.Number
