import Tethered.Adb.Forward
import Tethered.Proofs.Text.Lines

/-!
# What lines of forwards are read as

A line lists a forward when it has exactly three words, whatever blanks stand around
and between them; a line of any other number of words lists nothing and leaves the
other lines alone. Every text is lines with what they list, so the list is read as
those forwards, in order and each as often as a line lists it. The blanks are those of
Unicode: a carriage return before the newline is one of them.
-/
namespace Tethered.Adb.Forward

open Text

variable {forward : Forward} {line : List Char} {entry : Option Forward}

/-- What a line lists: a forward if it has its three words and no others, and nothing if
it has fewer words or more. -/
def Lists (line : List Char) : Option Forward → Prop
  | some forward => HasWords line [forward.serial, forward.hostEnd, forward.deviceEnd]
  | none => ∃ found, HasWords line found ∧ found.length ≠ 3

theorem ofLine?_eq_some_iff : ofLine? line = some forward ↔
    words line = [forward.serial, forward.hostEnd, forward.deviceEnd] := by
  unfold ofLine?
  split
  · next serial hostEnd deviceEnd hwords =>
    obtain ⟨serial', hostEnd', deviceEnd'⟩ := forward
    simp [hwords]
  · next hother =>
    refine iff_of_false (fun h => nomatch h) fun hwords => ?_
    exact hother _ _ _ hwords

theorem ofLine?_eq_none_iff : ofLine? line = none ↔ (words line).length ≠ 3 := by
  unfold ofLine?
  split
  · next hwords => simp [hwords]
  · next hother =>
    refine iff_of_true rfl fun hlength => ?_
    obtain ⟨serial, hostEnd, deviceEnd, hwords⟩ := List.length_eq_three.mp hlength
    exact hother _ _ _ hwords

theorem ofLine?_eq_iff : ofLine? line = entry ↔ Lists line entry := by
  cases entry with
  | some forward => rw [ofLine?_eq_some_iff, words_eq_iff, Lists]
  | none =>
    rw [ofLine?_eq_none_iff, Lists]
    constructor
    · exact fun hlength => ⟨words line, words_eq_iff.mp rfl, hlength⟩
    · rintro ⟨found, hfound, hlength⟩
      rwa [hfound.words_eq]

theorem lists_ofLine? (line : List Char) : Lists line (ofLine? line) := ofLine?_eq_iff.mp rfl

/-! ## Forwards in print -/

/-- The blanks around three words on one line, and those that part them. -/
structure Spacing where
  before : List Char
  first : List Char
  second : List Char
  after : List Char
  blank : ∀ c ∈ before ++ first ++ second ++ after, isBlank c = true
  one_line : '\n' ∉ before ++ first ++ second ++ after
  first_ne_nil : first ≠ []
  second_ne_nil : second ≠ []

/-- The three parts of a forward are words. -/
structure IsPrintable (forward : Forward) : Prop where
  serial : IsWord forward.serial
  hostEnd : IsWord forward.hostEnd
  deviceEnd : IsWord forward.deviceEnd

/-- The words of a forward in print, with some blanks around and between them. -/
def spaced (forward : Forward) (spacing : Spacing) : List Char :=
  spacing.before ++ forward.serial ++ (spacing.first ++ forward.hostEnd ++
    (spacing.second ++ forward.deviceEnd ++ spacing.after))

/-- A line in print: the words of a forward, or some other number of words. -/
inductive Prints : List Char → Option Forward → Prop
  | forward {forward : Forward} (h : forward.IsPrintable) (spacing : Spacing) :
      Prints (forward.spaced spacing) (some forward)
  | other {line : List Char} {found : List (List Char)} (hline : '\n' ∉ line)
      (hfound : HasWords line found) (hcount : found.length ≠ 3) : Prints line none

theorem hasWords_spaced (h : forward.IsPrintable) (spacing : Spacing) :
    HasWords (forward.spaced spacing) [forward.serial, forward.hostEnd, forward.deviceEnd] := by
  obtain ⟨before, first, second, after, hblank, -, hfirst, hsecond⟩ := spacing
  simp only [List.mem_append, or_imp, forall_and] at hblank
  obtain ⟨⟨⟨hbeforeBlank, hfirstBlank⟩, hsecondBlank⟩, hafterBlank⟩ := hblank
  -- a gap that is not empty ends the word before it
  have hends {gap behind : List Char} (hne : gap ≠ []) (hgap : ∀ c ∈ gap, isBlank c = true)
      (c : Char) (hhead : (gap ++ behind).head? = some c) : isBlank c = true := by
    rw [List.head?_append_of_ne_nil _ hne] at hhead
    exact hgap c (List.mem_of_head? hhead)
  refine .cons hbeforeBlank h.serial ?_ (.cons hfirstBlank h.hostEnd ?_
    (.cons hsecondBlank h.deviceEnd ?_ (.nil hafterBlank)))
  · rw [List.append_assoc]
    exact hends hfirst hfirstBlank
  · rw [List.append_assoc]
    exact hends hsecond hsecondBlank
  · exact fun c hhead => hafterBlank c (List.mem_of_head? hhead)

theorem newline_not_mem_spaced (h : forward.IsPrintable) (spacing : Spacing) :
    '\n' ∉ forward.spaced spacing := by
  have hblank := spacing.one_line
  simp only [List.mem_append, not_or] at hblank
  simp [spaced, hblank, h.serial.newline_not_mem, h.hostEnd.newline_not_mem,
    h.deviceEnd.newline_not_mem]

theorem Prints.lists (h : Prints line entry) : '\n' ∉ line ∧ Lists line entry := by
  cases h with
  | forward h spacing => exact ⟨newline_not_mem_spaced h spacing, hasWords_spaced h spacing⟩
  | other hline hfound hcount => exact ⟨hline, _, hfound, hcount⟩

/-! ## Lists of forwards -/

/-- Lines are read for what each of them lists. -/
theorem listing_intercalate {rows : List (List Char × Option Forward)}
    (hrows : ∀ row ∈ rows, '\n' ∉ row.1 ∧ Lists row.1 row.2) :
    listing (['\n'].intercalate (rows.map Prod.fst)) = rows.filterMap Prod.snd := by
  by_cases hne : rows = []
  · -- no rows join to the empty text, which is one line without a word
    subst hne
    rfl
  · have hlines := @lines_intercalate (rows.map Prod.fst) (by simpa using hne)
      (List.forall_mem_map.mpr fun row hmem => (hrows row hmem).1)
    rw [listing, hlines, List.filterMap_map]
    exact List.filterMap_congr fun row hmem => ofLine?_eq_iff.mpr (hrows row hmem).2

/-- Every text is lines with what each of them lists. -/
theorem exists_rows (text : List Char) : ∃ rows : List (List Char × Option Forward),
    ['\n'].intercalate (rows.map Prod.fst) = text ∧
      ∀ row ∈ rows, '\n' ∉ row.1 ∧ Lists row.1 row.2 := by
  refine ⟨(lines text).map fun line => (line, ofLine? line), ?_, ?_⟩
  · rw [List.map_map]
    exact (congrArg _ (List.map_id _)).trans (intercalate_lines text)
  · exact List.forall_mem_map.mpr fun line hmem =>
      ⟨newline_not_mem_of_mem_lines hmem, lists_ofLine? line⟩

/-- The list of forwards is read exactly. Whatever the text, what is read are the forwards
that its lines list. And forwards in print are read back, however they are spaced and
whatever lines of fewer words or more stand among them. -/
theorem listing_of_lines :
    (∀ text, ∃ rows : List (List Char × Option Forward),
      ['\n'].intercalate (rows.map Prod.fst) = text ∧
      (∀ row ∈ rows, '\n' ∉ row.1 ∧ Lists row.1 row.2) ∧
      listing text = rows.filterMap Prod.snd) ∧
    ∀ rows : List (List Char × Option Forward), (∀ row ∈ rows, Prints row.1 row.2) →
      listing (['\n'].intercalate (rows.map Prod.fst)) = rows.filterMap Prod.snd := by
  constructor
  · intro text
    obtain ⟨rows, rfl, hrows⟩ := exists_rows text
    exact ⟨rows, rfl, hrows, listing_intercalate hrows⟩
  · exact fun rows hrows => listing_intercalate fun row hmem => (hrows row hmem).lists

/-- Words behind a blank, parted by a tab with a space and by a no-break space, before a
carriage return. -/
def wideSpacing : Spacing where
  before := [' ']
  first := ['\t', ' ']
  second := ['\u00A0']
  after := ['\r']
  blank := List.all_eq_true.mp (by decide)
  one_line := by decide
  first_ne_nil := by decide
  second_ne_nil := by decide

/-- Words parted by single spaces. -/
def plainSpacing : Spacing where
  before := []
  first := [' ']
  second := [' ']
  after := []
  blank := List.all_eq_true.mp (by decide)
  one_line := by decide
  first_ne_nil := by decide
  second_ne_nil := by decide

def twiceListed : Forward := ⟨"R58M".toList, "tcp:7".toList, "tcp:80".toList⟩

/-- A forward in print twice, with lines of two, four and no words around it. -/
def mixedLines : List (List Char × Option Forward) :=
  [("ZY22 tcp:7".toList, none), (twiceListed.spaced wideSpacing, some twiceListed),
    ("R58M tcp:7 tcp:80 tcp:81".toList, none), ("\r".toList, none),
    (twiceListed.spaced plainSpacing, some twiceListed), ([], none)]

theorem listing_of_mixedLines :
    (∀ row ∈ mixedLines, Prints row.1 row.2) ∧
      ['\n'].intercalate (mixedLines.map Prod.fst) =
        ("ZY22 tcp:7\n R58M\t tcp:7\u00A0tcp:80\r\nR58M tcp:7 tcp:80 tcp:81\n\r\n" ++
          "R58M tcp:7 tcp:80\n").toList ∧
      listing (['\n'].intercalate (mixedLines.map Prod.fst)) = [twiceListed, twiceListed] := by
  have hother {line : List Char} (hline : '\n' ∉ line) (hcount : (words line).length ≠ 3) :
      Prints line none := .other hline (words_eq_iff.mp rfl) hcount
  have hprintable : twiceListed.IsPrintable := ⟨by decide, by decide, by decide⟩
  have hrows : ∀ row ∈ mixedLines, Prints row.1 row.2 := by
    simp only [mixedLines, List.forall_mem_cons]
    exact ⟨hother (by decide) (by decide), .forward hprintable wideSpacing,
      hother (by decide) (by decide), hother (by decide) (by decide),
      .forward hprintable plainSpacing, hother (by decide) (by decide), fun _ hmem => nomatch hmem⟩
  exact ⟨hrows, by decide, listing_of_lines.2 mixedLines hrows⟩

end Tethered.Adb.Forward
