import Tethered.Failure

/-!
# Frames of the daemon's protocol

A frame is a header of four little-endian words and a body. The words are the
length of the whole frame, the version, the type of message and a tag that a
reply shares with its request. A writer is bound only by the width of the length
word; a reader accepts bodies up to a smaller limit and takes nothing beyond the
frame from the stream.
-/
namespace Tethered.Mux

/-- The `count` lowest bytes of a number, the lowest first. -/
def littleEndian : (count : Nat) → Nat → List UInt8
  | 0, _ => []
  | count + 1, n => UInt8.ofNat (n % 256) :: littleEndian count (n / 256)

/-- The number of bytes given lowest first. -/
def ofLittleEndian (bytes : List UInt8) : Nat :=
  bytes.foldr (fun byte n => byte.toNat + 256 * n) 0

@[simp] theorem length_littleEndian (count n : Nat) : (littleEndian count n).length = count := by
  induction count generalizing n with
  | zero => rfl
  | succ count ih => simp [littleEndian, ih]

theorem ofLittleEndian_littleEndian {n : Nat} (h : n < 0x100000000) :
    ofLittleEndian (littleEndian 4 n) = n := by
  simp only [littleEndian, ofLittleEndian, List.foldr_cons, List.foldr_nil, UInt8.toNat_ofNat']
  omega

/-- One message with the tag that pairs request and reply. -/
structure Frame where
  tag : UInt32
  body : List UInt8
  deriving DecidableEq, Repr

namespace Frame

def headerLength : Nat := 16

def version : Nat := 1

/-- The type of messages whose body is a property list. -/
def messageType : Nat := 8

/-- The longest body that a reader accepts. -/
def bodyLimit : Nat := 0x100000

/-- The least length that does not fit the header. -/
def lengthLimit : Nat := 0x100000000

def header (length version messageType tag : Nat) : List UInt8 :=
  littleEndian 4 length ++ littleEndian 4 version ++ littleEndian 4 messageType ++
    littleEndian 4 tag

def encode (frame : Frame) : List UInt8 :=
  header (headerLength + frame.body.length) version messageType frame.tag.toNat ++ frame.body

/-- The bytes of a frame, if its length fits the header. -/
def write (frame : Frame) : Except Failure (List UInt8) :=
  if headerLength + frame.body.length < lengthLimit then .ok frame.encode
  else .error (.protocol "message too large")

/-- The word of a header at a byte position. -/
def wordAt (position : Nat) (bytes : List UInt8) : Nat :=
  ofLittleEndian ((bytes.drop position).take 4)

/-- Take one frame from a stream that ends behind the given bytes. The second
part is what has not been taken. -/
def read (stream : List UInt8) : Except Failure Frame × List UInt8 :=
  let head := stream.take headerLength
  let rest := stream.drop headerLength
  let length := wordAt 0 head
  let foundVersion := wordAt 4 head
  let foundType := wordAt 8 head
  if head.length < headerLength then (.error (.io .earlyEof), [])
  else if length < headerLength ∨ length - headerLength > bodyLimit then
    (.error (.protocol ("bad message length " ++ toString length)), rest)
  else if foundVersion ≠ version ∨ foundType ≠ messageType then
    (.error (.protocol ("unsupported message version=" ++ toString foundVersion ++
      " type=" ++ toString foundType)), rest)
  else
    let body := rest.take (length - headerLength)
    if body.length < length - headerLength then (.error (.io .earlyEof), [])
    else (.ok ⟨(wordAt 12 head).toUInt32, body⟩, rest.drop (length - headerLength))

end Frame

end Tethered.Mux
