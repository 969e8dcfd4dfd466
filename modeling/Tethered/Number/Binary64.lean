import Tethered.Text.Pieces
import Tethered.Number.Numeral

/-!
# Binary64 values read from and written as decimal text

A finite value is a sign, a significand below 2 ^ 53 and a power of two. Reading
takes the decimal text as an exact fraction and rounds it once, half to even.
Writing gives the fewest digits that read back as the same value, and of those
the nearest; the text is positional whatever the magnitude. All arithmetic is on
naturals, so nothing here depends on the host's own floating-point operations.
-/
namespace Tethered.Number

inductive Binary64 where
  | nan
  | infinite (negative : Bool)
  | finite (negative : Bool) (significand : Nat) (exponent : Int)
  deriving DecidableEq, Repr

namespace Binary64

/-- The least exponent of a significand. -/
def leastExponent : Int := -1074

/-- The greatest exponent of a significand of 53 bits. -/
def greatestExponent : Int := 971

/-- The least number of 54 bits, which no significand reaches. -/
def significandLimit : Nat := 0x20000000000000

/-- The least significand of 53 bits. -/
def leastFull : Nat := 0x10000000000000

/-- `num / den` to the nearest natural, a half to the even neighbour. -/
def roundHalfEven (num den : Nat) : Nat :=
  let quotient := num / den
  let twice := 2 * (num % den)
  if twice > den ∨ (twice = den ∧ quotient % 2 = 1) then quotient + 1 else quotient

/-- Numerator and denominator of `num / den` in units of `2 ^ exponent`. -/
def inUnits (num den : Nat) (exponent : Int) : Nat × Nat :=
  if exponent ≥ 0 then (num, den * Nat.pow 2 exponent.toNat)
  else (num * Nat.pow 2 (-exponent).toNat, den)

/-- The nonnegative fraction `num / den` rounded to a value of the format. -/
def ofRatio (negative : Bool) (num den : Nat) : Binary64 :=
  let guess : Int := max (Int.ofNat num.log2 - Int.ofNat den.log2 - 53) leastExponent
  let units := inUnits num den guess
  let exponent := if units.1 / units.2 ≥ significandLimit then guess + 1 else guess
  let units := inUnits num den exponent
  let significand := roundHalfEven units.1 units.2
  let carried := significand = significandLimit
  let significand := if carried then leastFull else significand
  let exponent := if carried then exponent + 1 else exponent
  if exponent > greatestExponent then .infinite negative
  else .finite negative significand exponent

/-- `digits * 10 ^ scale` rounded. Magnitudes far outside the format are settled
by counting digits, before any power is formed. -/
def ofDecimal (negative : Bool) (digits : List Char) (scale : Int) : Binary64 :=
  let value := Nat.ofDigitChars 10 digits 0
  let magnitude := Int.ofNat (decimal value).length + scale
  if value = 0 then .finite negative 0 leastExponent
  else if magnitude > 400 then .infinite negative
  else if magnitude < -400 then .finite negative 0 leastExponent
  else if scale ≥ 0 then ofRatio negative (value * Nat.pow 10 scale.toNat) 1
  else ofRatio negative value (Nat.pow 10 (-scale).toNat)

/-- The value from which further digits of a power of ten are dropped. -/
def powerLimit : Nat := 0x10000

/-- The size of a power of ten, from its digits. Once the limit is reached the
digits behind are read but do not count. -/
def ofPower? (digits : List Char) : Option Nat :=
  if digits.isEmpty || !digits.all Char.isDigit then none
  else some (digits.foldl (fun power c =>
    if power < powerLimit then power * 10 + (c.toNat - '0'.toNat) else power) 0)

/-- The part of a decimal text behind its digits: nothing, or a power of ten. -/
def exponent? : List Char → Option Int
  | [] => some 0
  | c :: rest => if c = 'e' ∨ c = 'E' then ofSigned? ofPower? rest else none

/-- Digits with an optional point among them, then an optional power of ten. -/
def ofUnsignedText? (negative : Bool) (text : List Char) : Option Binary64 :=
  let whole := text.takeWhile Char.isDigit
  let behind := text.dropWhile Char.isDigit
  let split : List Char × List Char :=
    match behind with
    | '.' :: rest => (rest.takeWhile Char.isDigit, rest.dropWhile Char.isDigit)
    | _ => ([], behind)
  if whole.isEmpty && split.1.isEmpty then none
  else (exponent? split.2).map fun power =>
    ofDecimal negative (whole ++ split.1) (power - Int.ofNat split.1.length)

/-- Text of a value without its sign: a number, or one of three words in any
case. -/
def ofMagnitude? (negative : Bool) (text : List Char) : Option Binary64 :=
  let lower := String.ofList (text.map Char.toLower)
  if lower = "nan" then some .nan
  else if lower = "inf" ∨ lower = "infinity" then some (.infinite negative)
  else ofUnsignedText? negative text

/-- The value of a decimal text, if it is one. Blanks are not admitted. -/
def ofText? : List Char → Option Binary64
  | '-' :: rest => ofMagnitude? true rest
  | '+' :: rest => ofMagnitude? false rest
  | text => ofMagnitude? false text

/-- What rounds to `significand * 2 ^ exponent`: the value and the two ends of
its interval in quarters of a unit, and whether the ends belong to it. The lower
half is narrower where the exponent changes. -/
structure Interval where
  value : Nat
  low : Nat
  high : Nat
  closed : Bool

/-- The interval of a positive significand. -/
def interval (significand : Nat) (exponent : Int) : Interval :=
  let narrow := significand = leastFull ∧ exponent > leastExponent
  { value := 4 * significand
    low := if narrow then 4 * significand - 1 else 4 * significand - 2
    high := 4 * significand + 2
    closed := significand % 2 = 0 }

/-- The decimal number of `count` digits nearest to the value among the two next
to it that lie in its interval; a tie goes up. The fraction `num / den` is the
size of a quarter unit, and the value is below `10 ^ point`. -/
def onGrid? (i : Interval) (num den : Nat) (point : Int) (count : Nat) : Option (Nat × Int) :=
  let scale := point - Int.ofNat count
  let up := if scale < 0 then Nat.pow 10 (-scale).toNat else 1
  let down := if scale < 0 then 1 else Nat.pow 10 scale.toNat
  let value := i.value * num * up
  let unit := den * down
  let lower := value / unit
  let fits := fun n : Nat =>
    let place := n * unit
    let low := i.low * num * up
    let high := i.high * num * up
    if i.closed then low ≤ place && place ≤ high else low < place && place < high
  let nearerBelow := 2 * (value % unit) < unit
  if fits lower && (nearerBelow || !fits (lower + 1)) then some (lower, scale)
  else if fits (lower + 1) then some (lower + 1, scale)
  else none

/-- The first grid from `count` digits on with a number in the interval. -/
def firstGrid (i : Interval) (num den : Nat) (point : Int) (count : Nat) :
    (more : Nat) → Nat × Int
  | 0 => (onGrid? i num den point count).getD (0, 0)
  | more + 1 =>
      match onGrid? i num den point count with
      | some found => found
      | none => firstGrid i num den point (count + 1) more

/-- The fewest digits that read back as the value, with their power of ten.
Seventeen digits always do. -/
def shortest (significand : Nat) (exponent : Int) : Nat × Int :=
  let quarter := exponent - 2
  let num := if quarter ≥ 0 then Nat.pow 2 quarter.toNat else 1
  let den := if quarter ≥ 0 then 1 else Nat.pow 2 (-quarter).toNat
  let i := interval significand exponent
  let point := Int.ofNat (decimal (i.value * num * Nat.pow 10 330 / den)).length - 330
  firstGrid i num den point 1 16

/-- `digits * 10 ^ scale` in positional notation, with at least one place behind
the point. -/
def positional (digits : Nat) (scale : Int) : List Char :=
  if scale ≥ 0 then decimal digits ++ List.replicate scale.toNat '0' ++ ['.', '0']
  else
    let places := (-scale).toNat
    let text := padded (places + 1) digits
    let whole := text.take (text.length - places)
    let fraction := Text.dropEndWhile (· == '0') (text.drop (text.length - places))
    whole ++ ['.'] ++ (if fraction.isEmpty then ['0'] else fraction)

def text : Binary64 → String
  | .nan => "NaN"
  | .infinite negative => if negative then "-inf" else "inf"
  | .finite negative significand exponent =>
      let sign := if negative then ['-'] else []
      let magnitude :=
        if significand = 0 then ['0', '.', '0']
        else
          let found := shortest significand exponent
          positional found.1 found.2
      String.ofList (sign ++ magnitude)

end Binary64

end Tethered.Number
