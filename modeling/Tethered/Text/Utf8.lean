/-!
# Reading bytes as UTF-8

Bytes are read by an automaton with one state per position inside a character.
A byte that cannot continue the character under way closes a broken stretch and
is then read afresh, so a broken stretch never swallows the byte behind it. The
lossy reading puts U+FFFD in the place of each broken stretch; the strict
reading refuses the whole input. Overlong forms, surrogates and values above
U+10FFFF are excluded by the bounds on the second byte.
-/
namespace Tethered.Text.Utf8

/-- Where the reader stands: between characters, or inside one with `left`
bytes to come, the next of them within `low` and `high`. -/
inductive State where
  | between
  | inside (left low high value : Nat)
  deriving DecidableEq, Repr

/-- What a byte between two characters begins. -/
def start (byte : Nat) : State × List (Option Char) :=
  if byte < 0x80 then (.between, [some (Char.ofNat byte)])
  else if byte < 0xC2 then (.between, [none])
  else if byte < 0xE0 then (.inside 1 0x80 0xBF (byte - 0xC0), [])
  else if byte = 0xE0 then (.inside 2 0xA0 0xBF 0, [])
  else if byte = 0xED then (.inside 2 0x80 0x9F 0xD, [])
  else if byte < 0xF0 then (.inside 2 0x80 0xBF (byte - 0xE0), [])
  else if byte = 0xF0 then (.inside 3 0x90 0xBF 0, [])
  else if byte < 0xF4 then (.inside 3 0x80 0xBF (byte - 0xF0), [])
  else if byte = 0xF4 then (.inside 3 0x80 0x8F 4, [])
  else (.between, [none])

/-- One byte: the next state and what became complete, `none` for a broken
stretch. -/
def step (state : State) (byte : Nat) : State × List (Option Char) :=
  match state with
  | .between => start byte
  | .inside left low high value =>
      if low ≤ byte ∧ byte ≤ high then
        let value := value * 64 + byte % 64
        if left ≤ 1 then (.between, [some (Char.ofNat value)])
        else (.inside (left - 1) 0x80 0xBF value, [])
      else
        let next := start byte
        (next.1, none :: next.2)

/-- What the end of the input completes: a character under way is broken. -/
def finish : State → List (Option Char)
  | .between => []
  | .inside .. => [none]

/-- Read on from a state, with what is already read in reverse order. -/
def scanFrom (state : State) (read : List (Option Char)) : List UInt8 → List (Option Char)
  | [] => (finish state ++ read).reverse
  | byte :: rest =>
      let next := step state byte.toNat
      scanFrom next.1 (next.2.reverse ++ read) rest

/-- The characters of the input in order, `none` for each broken stretch. -/
def scan (bytes : List UInt8) : List (Option Char) := scanFrom .between [] bytes

/-- The text of the input with U+FFFD for each broken stretch. -/
def decodeLossy (bytes : List UInt8) : List Char :=
  (scan bytes).map (·.getD '\uFFFD')

/-- The text of the input, if no stretch of it is broken. -/
def decode? (bytes : List UInt8) : Option (List Char) :=
  (scan bytes).mapM id

def encode (text : List Char) : List UInt8 := text.flatMap String.utf8EncodeChar

end Tethered.Text.Utf8
