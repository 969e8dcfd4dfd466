/-!
# The longest prefix that fits a byte budget

A text that has to fit a fixed number of bytes is cut between characters, never
inside one. The place of the cut is looked for backwards, from the last byte that
fits. `clip` says the same from the front: every whole character that still fits is
kept, up to the first that does not, and no wide character is skipped to admit a
later narrow one.
-/
namespace Tethered.Text

/-- Bytes of a text in UTF-8. -/
def utf8Length : List Char → Nat
  | [] => 0
  | c :: rest => c.utf8Size + utf8Length rest

@[simp] theorem utf8Length_nil : utf8Length [] = 0 := rfl

@[simp] theorem utf8Length_cons (c : Char) (text : List Char) :
    utf8Length (c :: text) = c.utf8Size + utf8Length text := rfl

@[simp] theorem utf8Length_append (s t : List Char) :
    utf8Length (s ++ t) = utf8Length s + utf8Length t := by
  induction s with
  | nil => simp
  | cons c rest ih => simp [ih, Nat.add_assoc]

/-- Leading whole characters that together take at most `budget` bytes. -/
def clip (budget : Nat) : List Char → List Char
  | [] => []
  | c :: rest => if c.utf8Size ≤ budget then c :: clip (budget - c.utf8Size) rest else []

theorem clip_isPrefix (budget : Nat) (text : List Char) : clip budget text <+: text := by
  induction text generalizing budget with
  | nil => exact List.nil_prefix
  | cons c rest ih =>
      simp only [clip]
      split
      · exact (List.cons_prefix_cons).2 ⟨rfl, ih _⟩
      · exact List.nil_prefix

theorem utf8Length_clip_le (budget : Nat) (text : List Char) :
    utf8Length (clip budget text) ≤ budget := by
  induction text generalizing budget with
  | nil => simp [clip]
  | cons c rest ih =>
      simp only [clip]
      split
      next fits =>
        have := ih (budget - c.utf8Size)
        simp only [utf8Length_cons]
        omega
      next => simp

/-- A prefix within the budget is a prefix of what `clip` keeps. -/
theorem isPrefix_clip {budget : Nat} {kept text : List Char} (hkept : kept <+: text)
    (hb : utf8Length kept ≤ budget) : kept <+: clip budget text := by
  induction text generalizing budget kept with
  | nil => simpa [clip] using hkept
  | cons c rest ih =>
      cases kept with
      | nil => exact List.nil_prefix
      | cons d kept =>
          obtain ⟨rfl, htail⟩ := (List.cons_prefix_cons).1 hkept
          rw [utf8Length_cons] at hb
          have fits : d.utf8Size ≤ budget := by omega
          rw [clip, if_pos fits]
          exact (List.cons_prefix_cons).2 ⟨rfl, ih htail (by omega)⟩

/-- `clip` on strings. -/
def clipString (budget : Nat) (text : String) : String :=
  String.ofList (clip budget text.toList)

/-! ## Looking for the place of a cut -/

section
variable {text : String}

/-- Looks for a place between two characters from an offset in bytes backwards. `none`
is a search that has passed the beginning of the text. -/
def boundaryUpTo? (text : String) : Nat → Option text.Pos
  | 0 => text.pos? 0
  | offset + 1 =>
      match text.pos? ⟨offset + 1⟩ with
      | some place => some place
      | none => boundaryUpTo? text offset

theorem pos?_of_boundary (place : text.Pos) : text.pos? place.offset = some place := by
  have hvalid := String.Pos.Raw.isValidForSlice_eq_true_iff.mpr place.toSlice.isValidForSlice
  exact congrArg (Option.map String.Pos.ofToSlice) (dif_pos hvalid)

theorem pos?_of_not_boundary {offset : String.Pos.Raw} (h : ¬ offset.IsValid text) :
    text.pos? offset = none := by
  have hinvalid : ¬ offset.isValidForSlice text.toSlice = true := fun hvalid =>
    h (String.Pos.Raw.isValidForSlice_toSlice_iff.mp
      (String.Pos.Raw.isValidForSlice_eq_true_iff.mp hvalid))
  exact congrArg (Option.map String.Pos.ofToSlice) (dif_neg hinvalid)

/-- The search ends at the first boundary that it comes to, and it does come to one: the
beginning of a text is a boundary. -/
theorem exists_boundaryUpTo? (text : String) (offset : Nat) :
    ∃ place, boundaryUpTo? text offset = some place ∧ place.offset.byteIdx ≤ offset ∧
      ∀ passed, place.offset.byteIdx < passed → passed ≤ offset →
        ¬ String.Pos.Raw.IsValid text ⟨passed⟩ := by
  induction offset with
  | zero =>
    exact ⟨text.startPos, pos?_of_boundary text.startPos, Nat.le_refl 0,
      fun passed hpassed hle => absurd hle (Nat.not_le.mpr hpassed)⟩
  | succ offset ih =>
    by_cases hvalid : String.Pos.Raw.IsValid text ⟨offset + 1⟩
    · refine ⟨text.pos ⟨offset + 1⟩ hvalid, ?_, Nat.le_refl _,
        fun passed hpassed hle => absurd hle (Nat.not_le.mpr hpassed)⟩
      have hfound := pos?_of_boundary (text.pos ⟨offset + 1⟩ hvalid)
      rw [String.offset_pos] at hfound
      rw [boundaryUpTo?, hfound]
    · obtain ⟨place, hplace, hle, hpassed⟩ := ih
      refine ⟨place, ?_, Nat.le_succ_of_le hle, fun passed hlt hpassedLe => ?_⟩
      · rw [boundaryUpTo?, pos?_of_not_boundary hvalid]
        exact hplace
      · rcases Nat.le_succ_iff.mp hpassedLe with hearlier | rfl
        · exact hpassed passed hlt hearlier
        · exact hvalid

theorem isSome_boundaryUpTo? (text : String) (offset : Nat) :
    (boundaryUpTo? text offset).isSome = true := by
  obtain ⟨place, hplace, -⟩ := exists_boundaryUpTo? text offset
  exact Option.isSome_iff_exists.mpr ⟨place, hplace⟩

end

/-- The last place between two characters up to an offset in bytes. -/
def boundaryUpTo (text : String) (offset : Nat) : text.Pos :=
  (boundaryUpTo? text offset).get (isSome_boundaryUpTo? text offset)

/-- What stands before the last place between two characters up to an offset. -/
def cutAt (offset : Nat) (text : String) : String :=
  (text.sliceTo (boundaryUpTo text offset)).copy

/-- What a field of `capacity` bytes holds when its last byte is kept for a
terminator. -/
def fitField (capacity : Nat) (text : String) : String :=
  if text.utf8ByteSize ≤ capacity - 1 then text else cutAt (capacity - 1) text

end Tethered.Text
