import Tethered.Proofs.Adb.DeviceLines

/-!
# Lists are read line by line

Each line of an output is read by itself, as bytes and as an entry: what breaks the
bytes of one line leaves the other lines as they are, and no device of a complete line
depends on what follows. A line that cannot be read ends the list; nothing else that
comes first has a part in what comes later, but for the room that the limit leaves.
-/
namespace Tethered.Adb

open Text

section
variable {before : List Char}

/-- Where all lines of an output can be read, its devices come before those of what is
behind it, and take their room. -/
theorem listing_append_of_readable (h : ∀ line ∈ lines before, ¬ Unreadable line)
    (after : List Char) (limit : Nat) :
    listing (before ++ '\n' :: after) limit =
      listing before limit ++ listing after (limit - (listing before limit).length) := by
  have hroom : limit - ((shownBy (lines before)).take limit).length =
      limit - (shownBy (lines before)).length := by
    rw [List.length_take]
    omega
  simp only [listing_eq_shownBy]
  rw [lines_append_cons, shownBy_append h, List.take_append, hroom]

theorem listing_append_of_unreadable (h : ∃ line ∈ lines before, Unreadable line)
    (after : List Char) (limit : Nat) :
    listing (before ++ '\n' :: after) limit = listing before limit := by
  obtain ⟨line, hmem, hunreadable⟩ := h
  simp only [listing_eq_shownBy]
  rw [lines_append_cons, shownBy_append_of_unreadable hmem hunreadable]

end

/-- The devices that the bytes of an output list. -/
def listedIn (bytes : List UInt8) (limit : Nat) : List Listed :=
  listing (Utf8.decodeLossy bytes) limit

theorem listedIn_joined (before after : List UInt8) (limit : Nat) :
    listedIn (before ++ [0x0A] ++ after) limit =
      listing (Utf8.decodeLossy before ++ '\n' :: Utf8.decodeLossy after) limit := by
  rw [listedIn, List.append_assoc, List.singleton_append, decodeLossy_append_newline]

/-- The lines of an output are read each from its own bytes. Of two outputs with a newline
between them the devices of the first are listed, and then those of the second as far as
the limit leaves room, unless a line of the first cannot be read: then the second is not
read at all. Neither output need be text. -/
theorem listedIn_of_joined :
    (∀ bytes : List UInt8, lines (Utf8.decodeLossy bytes) =
      (bytes.splitOn 0x0A).map Utf8.decodeLossy) ∧
    ∀ (before after : List UInt8) (limit : Nat),
      ((∃ line ∈ lines (Utf8.decodeLossy before), Unreadable line) →
        listedIn (before ++ [0x0A] ++ after) limit = listedIn before limit) ∧
      ((∀ line ∈ lines (Utf8.decodeLossy before), ¬ Unreadable line) →
        listedIn (before ++ [0x0A] ++ after) limit =
          listedIn before limit ++ listedIn after (limit - (listedIn before limit).length)) ∧
      listedIn before limit <+: listedIn (before ++ [0x0A] ++ after) limit := by
  refine ⟨lines_decodeLossy, fun before after limit => ?_⟩
  rw [listedIn_joined]
  refine ⟨fun h => listing_append_of_unreadable h _ limit,
    fun h => listing_append_of_readable h _ limit, ?_⟩
  by_cases h : ∃ line ∈ lines (Utf8.decodeLossy before), Unreadable line
  · rw [listing_append_of_unreadable h]
    exact List.prefix_refl _
  · rw [listing_append_of_readable fun line hmem hunreadable => h ⟨line, hmem, hunreadable⟩]
    exact List.prefix_append _ _

/-- A device with a byte in its serial number that begins no character, and with a character
that its newline cuts short. -/
def brokenRow : List UInt8 := [0xFF, 0x41, 0x09, 0x64, 0xE2, 0x82]

def plainRow : List UInt8 := Utf8.encode "B\tdevice".toList

def bareRow : List UInt8 := Utf8.encode "garbage".toList

/-- The newline behind the broken character parts the two devices. Behind a bare word the
same device is not listed. -/
theorem listedIn_brokenRow :
    listedIn (brokenRow ++ [0x0A] ++ plainRow) 8 =
        [⟨"\uFFFDA".toList, "d\uFFFD".toList⟩, ⟨"B".toList, "device".toList⟩] ∧
      listedIn (bareRow ++ [0x0A] ++ plainRow) 8 = [] := by
  obtain ⟨-, hjoined⟩ := listedIn_of_joined
  constructor
  · have hreadable : ∀ line ∈ lines (Utf8.decodeLossy brokenRow), ¬ Unreadable line := by
      simp only [unreadable_iff]
      decide
    rw [(hjoined brokenRow plainRow 8).2.1 hreadable]
    decide
  · have hbare : ∃ line ∈ lines (Utf8.decodeLossy bareRow), Unreadable line := by
      simp only [unreadable_iff]
      decide
    rw [(hjoined bareRow plainRow 8).1 hbare]
    decide

end Tethered.Adb
