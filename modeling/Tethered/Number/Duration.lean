import Tethered.Text.Pieces
import Tethered.Number.Numeral

/-!
# Spans of time and their text

A span is a whole number of nanoseconds. Its text uses the largest unit that the
span fills, up to the second, and as many places as are needed to be exact.
-/
namespace Tethered.Number

structure Duration where
  nanoseconds : Nat
  deriving DecidableEq, Repr

namespace Duration

/-- A span keeps a limit, if there is one, or exceeds it. -/
theorem keeps_or_exceeds (span : Duration) (limit : Option Duration) :
    (∀ allowed, limit = some allowed → span.nanoseconds ≤ allowed.nanoseconds) ∨
      ∃ allowed, limit = some allowed ∧ allowed.nanoseconds < span.nanoseconds := by
  cases limit with
  | none => exact .inl fun _ h => nomatch h
  | some allowed =>
    rcases Nat.lt_or_ge allowed.nanoseconds span.nanoseconds with hlate | hle
    · exact .inr ⟨allowed, rfl, hlate⟩
    · exact .inl fun _ h => Option.some.inj h ▸ hle

def milliseconds (n : Nat) : Duration := ⟨n * 1000000⟩

/-- A span of seconds and nanoseconds. -/
def ofParts (seconds nanoseconds : Nat) : Duration := ⟨seconds * 1000000000 + nanoseconds⟩

/-- An amount in units of `10 ^ places` nanoseconds, without zeros at its end. -/
def inUnit (places : Nat) (nanoseconds : Nat) : List Char :=
  let fraction := nanoseconds % Nat.pow 10 places
  let digits := Text.dropEndWhile (· == '0') (padded places fraction)
  decimal (nanoseconds / Nat.pow 10 places) ++ (if fraction = 0 then [] else '.' :: digits)

/-- The exact text of a span. -/
def text (span : Duration) : String :=
  let n := span.nanoseconds
  if n ≥ 1000000000 then String.ofList (inUnit 9 n) ++ "s"
  else if n ≥ 1000000 then String.ofList (inUnit 6 n) ++ "ms"
  else if n ≥ 1000 then String.ofList (inUnit 3 n) ++ "µs"
  else String.ofList (inUnit 0 n) ++ "ns"

end Duration

end Tethered.Number
