import Tethered.Text.Pieces
import Tethered.Number.Numeral

/-!
# Dates and times as written in Internet timestamps

A timestamp is a full date, any one ASCII character, a full time with an
optional fraction, and an offset from universal time. The moment it names is
kept in universal time and is written back with a capital letter at both places.
A written year has four digits, but an offset can move the moment into the year
before 0; one that would move it beyond the year 9999 is refused.
-/
namespace Tethered.Number

/-- A moment in universal time. -/
structure Moment where
  year : Int
  month : Nat
  day : Nat
  hour : Nat
  minute : Nat
  second : Nat
  nanosecond : Nat
  deriving DecidableEq, Repr

namespace Moment

/-- Whether February of the year has a 29th day. -/
def isLeap (year : Int) : Bool :=
  (year % 4 = 0 && year % 100 ≠ 0) || year % 400 = 0

def daysIn (year : Int) (month : Nat) : Nat :=
  if month = 2 then (if isLeap year then 29 else 28)
  else if month = 4 ∨ month = 6 ∨ month = 9 ∨ month = 11 then 30
  else 31

def nextDay (m : Moment) : Moment :=
  if m.day < daysIn m.year m.month then { m with day := m.day + 1 }
  else if m.month < 12 then { m with month := m.month + 1, day := 1 }
  else { m with year := m.year + 1, month := 1, day := 1 }

def previousDay (m : Moment) : Moment :=
  if m.day > 1 then { m with day := m.day - 1 }
  else if m.month > 1 then { m with month := m.month - 1, day := daysIn m.year (m.month - 1) }
  else { m with year := m.year - 1, month := 12, day := 31 }

/-- A moment in universal time, from the time shown where clocks are ahead by
less than a day, given in minutes. -/
def shift (m : Moment) (minutes : Int) : Moment :=
  let total := Int.ofNat (m.hour * 60 + m.minute) - minutes
  let onDay := fun (m : Moment) (total : Int) =>
    { m with hour := total.toNat / 60, minute := total.toNat % 60 }
  if total < 0 then onDay (previousDay m) (total + 1440)
  else if total ≥ 1440 then onDay (nextDay m) (total - 1440)
  else onDay m total

/-- The number written by exactly `count` digits, and the text behind them. -/
def digits? (count : Nat) (text : List Char) : Option (Nat × List Char) :=
  let written := text.take count
  if written.length = count then
    (ofDecimal? written).map fun n => (n, text.drop count)
  else none

/-- The text behind one ASCII character, whichever it is. -/
def behindAscii? : List Char → Option (List Char)
  | c :: rest => if c.toNat < 0x80 then some rest else none
  | [] => none

/-- The text behind one given character. -/
def behind? (c : Char) : List Char → Option (List Char)
  | d :: rest => if d = c then some rest else none
  | [] => none

/-- The fraction of a second in nanoseconds; places beyond the ninth are
dropped. -/
def fraction? : List Char → Option (Nat × List Char)
  | '.' :: rest =>
      let places := rest.takeWhile Char.isDigit
      if places.isEmpty then none
      else
        let kept := (places ++ List.replicate 9 '0').take 9
        some (Nat.ofDigitChars 10 kept 0, rest.dropWhile Char.isDigit)
  | text => some (0, text)

/-- The offset in minutes that ends a timestamp. -/
def offset? : List Char → Option Int
  | ['Z'] | ['z'] => some 0
  | sign :: rest => do
      let (hours, rest) ← digits? 2 rest
      let (minutes, rest) ← digits? 2 (← behind? ':' rest)
      if hours > 23 ∨ minutes > 59 ∨ rest ≠ [] then none
      else if sign = '+' then some (hours * 60 + minutes)
      else if sign = '-' then some (-(hours * 60 + minutes : Int))
      else none
  | [] => none

/-- A second numbered 60 stands for the end of the 59th, and only at the end of
a month. -/
def settleLeapSecond? (m : Moment) (isLeapSecond : Bool) : Option Moment :=
  if isLeapSecond then
    if m.hour = 23 ∧ m.minute = 59 ∧ m.day = daysIn m.year m.month then some m else none
  else some m

/-- The moment that a timestamp names. -/
def ofText? (text : List Char) : Option Moment := do
  let (year, rest) ← digits? 4 text
  let (month, rest) ← digits? 2 (← behind? '-' rest)
  let (day, rest) ← digits? 2 (← behind? '-' rest)
  let (hour, rest) ← digits? 2 (← behindAscii? rest)
  let (minute, rest) ← digits? 2 (← behind? ':' rest)
  let (second, rest) ← digits? 2 (← behind? ':' rest)
  let (nanosecond, rest) ← fraction? rest
  let minutes ← offset? rest
  let isLeapSecond := second = 60
  if month = 0 ∨ month > 12 ∨ day = 0 ∨ day > daysIn year month then none
  else if hour > 23 ∨ minute > 59 ∨ second > 60 then none
  else
    let here : Moment :=
      { year, month, day, hour, minute
        second := if isLeapSecond then 59 else second
        nanosecond := if isLeapSecond then 999999999 else nanosecond }
    let m ← settleLeapSecond? (shift here minutes) isLeapSecond
    if m.year > 9999 then none else some m

/-- The timestamp of a moment. A year before 0 has a minus sign. -/
def text (m : Moment) : String :=
  let sign := if m.year < 0 then ['-'] else []
  let fraction := Text.dropEndWhile (· == '0') (padded 9 m.nanosecond)
  String.ofList
    (sign ++ padded 4 m.year.natAbs ++ ['-'] ++ padded 2 m.month ++ ['-'] ++ padded 2 m.day ++
      ['T'] ++ padded 2 m.hour ++ [':'] ++ padded 2 m.minute ++ [':'] ++ padded 2 m.second ++
      (if m.nanosecond = 0 then [] else '.' :: fraction) ++ ['Z'])

end Moment

end Tethered.Number
