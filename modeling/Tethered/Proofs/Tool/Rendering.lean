import Tethered.Tool.CommandLine
import Tethered.Proofs.Text.Fields

/-!
# What a rendering shows of a command line

A rendering is written part by part and ends with the part that reaches the limit. It
shows what would be kept of the whole command line, written without a limit and then cut:
what is written already and the parts to come, joined, are the whole at every step, and
once the limit is reached the parts to come no longer matter.
-/
namespace Tethered.Tool.CommandLine

open Text

/-- Parts with single spaces between them, from the first that is not empty. -/
def joined (parts : List (List Char)) : List Char :=
  [' '].intercalate (parts.dropWhile List.isEmpty)

/-- A command line without a limit: the program, with a replacement character where its bytes
are not UTF-8, and behind it the arguments. -/
def whole (command : CommandLine) : List Char :=
  joined (Utf8.decodeLossy command.program :: command.arguments.map String.toList)

variable {limit : Nat} {written : String} {part : List Char} {rest : List (List Char)}

theorem joined_nil_cons (parts : List (List Char)) : joined ([] :: parts) = joined parts := rfl

theorem joined_cons_of_ne_nil (h : part ≠ []) :
    joined (part :: rest) = [' '].intercalate (part :: rest) := by
  rw [joined, List.dropWhile_cons_of_neg (by simpa using h)]

theorem joined_singleton (part : List Char) : joined [part] = part := by
  by_cases h : part = []
  · rw [h]
    rfl
  · rw [joined_cons_of_ne_nil h, List.intercalate_singleton]

/-- Joined parts begin with the first of them. -/
theorem isPrefix_joined (part : List Char) (rest : List (List Char)) :
    part <+: joined (part :: rest) := by
  by_cases h : part = []
  · rw [h]
    exact List.nil_prefix
  cases rest with
  | nil => exact (joined_singleton part).symm ▸ List.prefix_rfl
  | cons next rest =>
    rw [joined_cons_of_ne_nil h, List.intercalate_cons_cons, List.append_assoc]
    exact List.prefix_append _ _

theorem writeOn_empty (part : List Char) : writeOn "" part = String.ofList part := rfl

theorem toList_writeOn (h : written ≠ "") :
    (writeOn written part).toList = written.toList ++ ' ' :: part := by
  have hwritten : written.isEmpty = false := by simpa using h
  simp [writeOn, hwritten]

/-- Writing the next part leaves the whole as it is. -/
theorem joined_writeOn (written : String) (part : List Char) (rest : List (List Char)) :
    joined ((writeOn written part).toList :: rest) = joined (written.toList :: part :: rest) := by
  by_cases h : written = ""
  · rw [h, writeOn_empty, String.toList_ofList]
    rfl
  · have hwritten : written.toList ≠ [] := by simpa using h
    have hlonger : written.toList ++ ' ' :: part ≠ [] :=
      List.append_ne_nil_of_left_ne_nil hwritten _
    rw [toList_writeOn h, joined_cons_of_ne_nil hlonger, joined_cons_of_ne_nil hwritten]
    cases rest <;> simp [List.intercalate_cons_cons]

/-- Rendered from what is written already, parts are cut as they are joined behind it. -/
theorem isCut_renderFrom (parts : List (List Char)) (h : written.utf8ByteSize ≤ limit) :
    IsCut limit (String.ofList (joined (written.toList :: parts)))
      (renderFrom limit written parts) := by
  induction parts generalizing written with
  | nil =>
    rw [joined_singleton, String.ofList_toList]
    exact .of_fits h
  | cons part rest ih =>
    rw [← joined_writeOn, renderFrom]
    split
    · next hfull =>
      -- the parts to come stand behind the limit
      refine (isCut_cutAt limit (writeOn written part)).of_isPrefix ?_ hfull
      rw [String.toList_ofList]
      exact isPrefix_joined _ _
    · next hroom => exact ih (Nat.le_of_not_le hroom)

theorem isCut_render (command : CommandLine) (limit : Nat) :
    IsCut limit (String.ofList command.whole) (command.render limit) := by
  have hcut := @isCut_renderFrom limit "" command.parts (Nat.zero_le limit)
  rwa [String.toList_empty, joined_nil_cons] at hcut

/-- A rendering is the longest beginning of the whole command line, in whole characters, that
the limit admits. It is the whole where that fits, it leaves at most three bytes unused where
it does not, and a wider limit only adds to it. -/
theorem render_of_parts (command : CommandLine) (limit : Nat) :
    IsCut limit (String.ofList command.whole) (command.render limit) ∧
      (command.render limit).utf8ByteSize ≤ limit ∧
      (command.render limit = String.ofList command.whole ↔ utf8Length command.whole ≤ limit) ∧
      (limit < utf8Length command.whole → limit ≤ (command.render limit).utf8ByteSize + 3) ∧
      ∀ wider, limit ≤ wider →
        (command.render limit).toList <+: (command.render wider).toList := by
  have hcut := isCut_render command limit
  have hwhole := hcut.eq_self_iff
  have hlost := hcut.budget_le
  rw [utf8ByteSize_ofList] at hwhole hlost
  exact ⟨hcut, hcut.size_le, hwhole, hlost,
    fun wider hle => hcut.isPrefix_of_le (isCut_render command wider) hle⟩

/-- A program that is not UTF-8, with an empty argument in front of another. -/
def foreignLine : CommandLine := ⟨[0x61, 0xFF], ["", "é"]⟩

/-- An unnamed program, an empty argument in front of another, and one between two. -/
def sparseLine : CommandLine := ⟨[], ["", "ab", "", "€x"]⟩

/-- A limit of three bytes falls inside the replacement character of the one program, and a
limit of six bytes inside the first character of the other's last argument. -/
theorem render_of_shortLines :
    (foreignLine.whole = "a\uFFFD  é".toList ∧ 3 < utf8Length foreignLine.whole ∧
      foreignLine.render 3 = "a" ∧ 3 ≤ (foreignLine.render 3).utf8ByteSize + 3 ∧
      foreignLine.render 8 = String.ofList foreignLine.whole ∧
      (foreignLine.render 3).toList <+: (foreignLine.render 8).toList) ∧
    sparseLine.whole = "ab  €x".toList ∧ 6 < utf8Length sparseLine.whole ∧
      sparseLine.render 6 = "ab  " ∧ sparseLine.render 6 ≠ String.ofList sparseLine.whole ∧
      6 ≤ (sparseLine.render 6).utf8ByteSize + 3 ∧ sparseLine.render 7 = "ab  €" ∧
      (sparseLine.render 6).toList <+: (sparseLine.render 7).toList := by
  constructor
  · obtain ⟨-, -, -, hlost, hwider⟩ := render_of_parts foreignLine 3
    obtain ⟨-, -, hwhole, -, -⟩ := render_of_parts foreignLine 8
    have hlong : 3 < utf8Length foreignLine.whole := by decide
    exact ⟨by decide, hlong, by decide, hlost hlong, hwhole.mpr (by decide), hwider 8 (by decide)⟩
  · obtain ⟨-, -, hwhole, hlost, hwider⟩ := render_of_parts sparseLine 6
    have hlong : 6 < utf8Length sparseLine.whole := by decide
    exact ⟨by decide, hlong, by decide, fun heq => absurd (hwhole.mp heq) (Nat.not_le.mpr hlong),
      hlost hlong, by decide, hwider 7 (by decide)⟩

end Tethered.Tool.CommandLine
