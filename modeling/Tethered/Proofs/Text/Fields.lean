import Tethered.Text.Clip

/-!
# What a field of bounded size keeps of a text

A field keeps a beginning of its text: the longest one of whole characters that fits. There
is one such beginning only, so the search from behind and the count from the front keep
the same. It leaves at most three bytes of the field unused, and a cut within a cut is the
narrower of the two. Something is kept once there is room for the widest character, and a
beginning that fits the field is a beginning of the text exactly where it is one of what
is kept.
-/
namespace Tethered.Text

variable {budget : Nat} {text : List Char}

theorem utf8ByteSize_ofList (text : List Char) :
    (String.ofList text).utf8ByteSize = utf8Length text := by
  induction text with
  | nil => rfl
  | cons c text ih =>
    rw [String.ofList_cons, String.utf8ByteSize_append, String.utf8ByteSize_singleton, ih,
      utf8Length_cons]

theorem utf8Length_toList (text : String) : utf8Length text.toList = text.utf8ByteSize := by
  rw [← utf8ByteSize_ofList, String.ofList_toList]

theorem utf8Length_of_ascii (h : ∀ c ∈ text, c.toNat < 0x80) : utf8Length text = text.length := by
  induction text with
  | nil => rfl
  | cons c text ih =>
    obtain ⟨hc, htext⟩ := List.forall_mem_cons.mp h
    have hone : c.utf8Size = 1 := Char.utf8Size_eq_one_iff.mpr (Nat.le_of_lt_succ hc)
    rw [utf8Length_cons, ih htext, hone, List.length_cons, Nat.add_comm]

/-- Where the widest character fits, something is kept of every text. -/
theorem clip_ne_nil (hroom : 4 ≤ budget) (h : text ≠ []) : clip budget text ≠ [] := by
  obtain ⟨c, rest, rfl⟩ := List.exists_cons_of_ne_nil h
  have hfits : c.utf8Size ≤ budget := Nat.le_trans c.utf8Size_le_four hroom
  rw [clip, if_pos hfits]
  exact List.cons_ne_nil _ _

theorem head?_clip (h : clip budget text ≠ []) : (clip budget text).head? = text.head? := by
  obtain ⟨more, hmore⟩ := clip_isPrefix budget text
  obtain ⟨c, rest, hclip⟩ := List.exists_cons_of_ne_nil h
  rw [hclip] at hmore ⊢
  rw [← hmore]
  rfl

theorem isPrefix_clip_iff {kept : List Char} (h : utf8Length kept ≤ budget) :
    kept <+: clip budget text ↔ kept <+: text := by
  constructor
  · intro hkept
    exact hkept.trans (clip_isPrefix budget text)
  · intro hkept
    exact isPrefix_clip hkept h

theorem eq_of_isPrefix {kept : List Char} (h : kept <+: text)
    (hsize : utf8Length text ≤ utf8Length kept) : kept = text := by
  obtain ⟨rest, rfl⟩ := h
  cases rest with
  | nil => exact (List.append_nil kept).symm
  | cons c rest =>
    have hpos := c.utf8Size_pos
    rw [utf8Length_append, utf8Length_cons] at hsize
    omega

/-! ## Cuts -/

/-- A text cut between characters to a number of bytes, and not further. -/
structure IsCut (budget : Nat) (text kept : String) : Prop where
  isPrefix : kept.toList <+: text.toList
  fits : utf8Length kept.toList ≤ budget
  longest : ∀ other, other <+: text.toList → utf8Length other ≤ budget →
    other <+: kept.toList

theorem isCut_clipString (budget : Nat) (text : String) :
    IsCut budget text (clipString budget text) := by
  have hkept : (clipString budget text).toList = clip budget text.toList := String.toList_ofList
  constructor
  · rw [hkept]
    exact clip_isPrefix _ _
  · rw [hkept]
    exact utf8Length_clip_le _ _
  · intro other hother hfits
    rw [hkept]
    exact isPrefix_clip hother hfits

namespace IsCut

variable {text kept : String}

theorem size_le (h : IsCut budget text kept) : kept.utf8ByteSize ≤ budget := by
  rw [← utf8Length_toList]
  exact h.fits

/-- A wider cut keeps what a narrower one keeps. -/
theorem isPrefix_of_le {more : Nat} {longer : String} (h : IsCut budget text kept)
    (hlonger : IsCut more text longer) (hle : budget ≤ more) : kept.toList <+: longer.toList :=
  hlonger.longest _ h.isPrefix (Nat.le_trans h.fits hle)

theorem unique {other : String} (h : IsCut budget text kept) (hother : IsCut budget text other) :
    kept = other := by
  have hkept := h.isPrefix_of_le hother (Nat.le_refl _)
  have hback := hother.isPrefix_of_le h (Nat.le_refl _)
  exact String.toList_inj.mp (hkept.eq_of_length_le hback.length_le)

theorem eq_self_iff (h : IsCut budget text kept) :
    kept = text ↔ text.utf8ByteSize ≤ budget := by
  constructor
  · rintro rfl
    exact h.size_le
  · intro hfits
    rw [← utf8Length_toList] at hfits
    have hwhole := h.longest _ List.prefix_rfl hfits
    exact String.toList_inj.mp (h.isPrefix.eq_of_length_le hwhole.length_le)

/-- A text that fits is kept whole. -/
theorem of_fits (h : text.utf8ByteSize ≤ budget) : IsCut budget text text :=
  ⟨List.prefix_rfl, Nat.le_trans (Nat.le_of_eq (utf8Length_toList text)) h,
    fun _ hother _ => hother⟩

/-- A text that reaches the limit is cut as it is with more behind it. -/
theorem of_isPrefix {more : String} (h : IsCut budget text kept)
    (hmore : text.toList <+: more.toList) (hfull : budget ≤ text.utf8ByteSize) :
    IsCut budget more kept := by
  refine ⟨h.isPrefix.trans hmore, h.fits, fun other hother hfits => ?_⟩
  rcases List.prefix_or_prefix_of_prefix hother hmore with hshorter | hlonger
  · exact h.longest other hshorter hfits
  · rw [← utf8Length_toList] at hfull
    obtain rfl := eq_of_isPrefix hlonger (Nat.le_trans hfits hfull)
    exact h.longest _ List.prefix_rfl hfits

/-- The character behind a cut does not fit, and it is no wider than four bytes. -/
theorem budget_le (h : IsCut budget text kept) (hlong : budget < text.utf8ByteSize) :
    budget ≤ kept.utf8ByteSize + 3 := by
  obtain ⟨rest, hrest⟩ := h.isPrefix
  rw [← utf8Length_toList] at hlong ⊢
  cases rest with
  | nil =>
    have hfits := h.fits
    rw [← hrest, List.append_nil] at hlong
    omega
  | cons c rest =>
    have hnext : kept.toList ++ [c] <+: text.toList := by
      refine ⟨rest, ?_⟩
      rw [← hrest, List.append_assoc]
      rfl
    have hwide : budget < utf8Length (kept.toList ++ [c]) := by
      refine Nat.lt_of_not_le fun hfits => ?_
      have hlength := (h.longest _ hnext hfits).length_le
      rw [List.length_append, List.length_singleton] at hlength
      omega
    have hfour := c.utf8Size_le_four
    rw [utf8Length_append, utf8Length_cons, utf8Length_nil] at hwide
    omega

/-- A cut within a cut is one to the smaller number of bytes. -/
theorem trans {less : Nat} {shorter : String} (h : IsCut budget text kept)
    (hshorter : IsCut less kept shorter) : IsCut (min budget less) text shorter := by
  have hkept := hshorter.isPrefix
  constructor
  · exact hkept.trans h.isPrefix
  · obtain ⟨rest, hrest⟩ := hkept
    have hsize := congrArg utf8Length hrest
    rw [utf8Length_append] at hsize
    have hfits := h.fits
    have hless := hshorter.fits
    omega
  · intro other hother hfits
    exact hshorter.longest other
      (h.longest other hother (Nat.le_trans hfits (Nat.min_le_left _ _)))
      (Nat.le_trans hfits (Nat.min_le_right _ _))

end IsCut

/-! ## The place of a cut -/

theorem boundaryUpTo?_eq (text : String) (offset : Nat) :
    boundaryUpTo? text offset = some (boundaryUpTo text offset) :=
  (Option.some_get _).symm

/-- A beginning of a text ends at a boundary. -/
theorem isValid_of_isPrefix {text : String} {kept : List Char} (h : kept <+: text.toList) :
    String.Pos.Raw.IsValid text ⟨utf8Length kept⟩ := by
  obtain ⟨rest, hrest⟩ := h
  refine String.Pos.Raw.isValid_iff_exists_append.mpr
    ⟨String.ofList kept, String.ofList rest, ?_, ?_⟩
  · rw [← String.ofList_append, hrest, String.ofList_toList]
  · rw [← utf8ByteSize_ofList]
    rfl

/-- The search from behind finds the cut. -/
theorem isCut_cutAt (budget : Nat) (text : String) : IsCut budget text (cutAt budget text) := by
  obtain ⟨place, hplace, hle, hpassed⟩ := exists_boundaryUpTo? text budget
  obtain rfl : place = boundaryUpTo text budget :=
    Option.some.inj (hplace.symm.trans (boundaryUpTo?_eq text budget))
  obtain ⟨happend, hoffset⟩ := (boundaryUpTo text budget).splits
  have hkept : (cutAt budget text).toList <+: text.toList :=
    ⟨_, String.toList_append.symm.trans (congrArg String.toList happend.symm)⟩
  have hsize : utf8Length (cutAt budget text).toList =
      (boundaryUpTo text budget).offset.byteIdx := by
    rw [utf8Length_toList, hoffset, String.byteIdx_rawEndPos, cutAt]
  rw [← hsize] at hle hpassed
  refine ⟨hkept, hle, fun other hother hfits => ?_⟩
  rcases List.prefix_or_prefix_of_prefix hother hkept with hshorter | hlonger
  · exact hshorter
  · -- the end of a longer beginning is a boundary that the search has not passed
    have hnear : utf8Length other ≤ utf8Length (cutAt budget text).toList :=
      Nat.le_of_not_lt fun hbehind => hpassed _ hbehind hfits (isValid_of_isPrefix hother)
    exact eq_of_isPrefix hlonger hnear ▸ List.prefix_rfl

/-! ## Fields -/

theorem isCut_fitField (capacity : Nat) (text : String) :
    IsCut (capacity - 1) text (fitField capacity text) := by
  rw [fitField]
  split
  · next hfits => exact IsCut.of_fits hfits
  · exact isCut_cutAt _ _

theorem fitField_eq_clipString (capacity : Nat) (text : String) :
    fitField capacity text = clipString (capacity - 1) text :=
  (isCut_fitField capacity text).unique (isCut_clipString _ _)

section
variable (capacity : Nat) (text : List Char)

theorem toList_fitField :
    (fitField capacity (String.ofList text)).toList = clip (capacity - 1) text := by
  rw [fitField_eq_clipString, clipString, String.toList_ofList, String.toList_ofList]

theorem utf8ByteSize_fitField_le :
    (fitField capacity (String.ofList text)).utf8ByteSize ≤ capacity - 1 :=
  (isCut_fitField capacity _).size_le

end

/-- A field keeps the longest beginning of whole characters that fits beside its terminator:
a text that fits is kept whole, and at most three bytes stay unused where one does not. What
is kept fits the field, and a second field keeps of it what the smaller of the two keeps of
the text. The search for the place of a cut comes to a boundary before it passes the
beginning of the text, and there is none behind it up to the offset. -/
theorem fitField_of_text (capacity : Nat) (text : String) :
    IsCut (capacity - 1) text (fitField capacity text) ∧
      (fitField capacity text = text ↔ text.utf8ByteSize ≤ capacity - 1) ∧
      (capacity - 1 < text.utf8ByteSize →
        capacity - 1 ≤ (fitField capacity text).utf8ByteSize + 3) ∧
      fitField capacity (fitField capacity text) = fitField capacity text ∧
      (∀ other, fitField other (fitField capacity text) = fitField (min capacity other) text) ∧
      ∀ offset, ∃ place, boundaryUpTo? text offset = some place ∧
        place.offset.byteIdx ≤ offset ∧
        ∀ passed, place.offset.byteIdx < passed → passed ≤ offset →
          ¬ String.Pos.Raw.IsValid text ⟨passed⟩ := by
  have hcut := isCut_fitField capacity text
  refine ⟨hcut, hcut.eq_self_iff, hcut.budget_le, ?_, fun other => ?_,
    exists_boundaryUpTo? text⟩
  · exact (isCut_fitField capacity _).eq_self_iff.mpr hcut.size_le
  · have htwice := hcut.trans (isCut_fitField other (fitField capacity text))
    have hroom : min (capacity - 1) (other - 1) = min capacity other - 1 := by omega
    rw [hroom] at htwice
    exact htwice.unique (isCut_fitField _ text)

/-- A character of each width, ten bytes in all. -/
def eachWidth : String := "aé€😀"

/-- Three bytes of a field of ten stay unused, and a field of five keeps the first two
characters of what it holds. -/
theorem fitField_of_eachWidth :
    10 - 1 < eachWidth.utf8ByteSize ∧ fitField 10 eachWidth = "aé€" ∧
      fitField 10 eachWidth ≠ eachWidth ∧
      10 - 1 ≤ (fitField 10 eachWidth).utf8ByteSize + 3 ∧
      fitField 5 (fitField 10 eachWidth) = "aé" ∧ fitField (min 10 5) eachWidth = "aé" ∧
      ∃ place, boundaryUpTo? eachWidth 9 = some place ∧ place.offset.byteIdx = 6 ∧
        ¬ String.Pos.Raw.IsValid eachWidth ⟨9⟩ := by
  obtain ⟨-, hwhole, hlost, -, hwithin, hsearch⟩ := fitField_of_text 10 eachWidth
  have hlong : 10 - 1 < eachWidth.utf8ByteSize := by decide
  have hsmaller : fitField (min 10 5) eachWidth = "aé" := by decide
  obtain ⟨place, hplace, -, hpassed⟩ := hsearch 9
  have hfound : (boundaryUpTo? eachWidth 9).map (·.offset.byteIdx) = some 6 := by decide
  rw [hplace, Option.map_some, Option.some.injEq] at hfound
  exact ⟨hlong, by decide, fun heq => absurd (hwhole.mp heq) (by decide), hlost hlong,
    (hwithin 5).trans hsmaller, hsmaller, place, hplace, hfound,
    hpassed 9 (by omega) (Nat.le_refl 9)⟩

end Tethered.Text
