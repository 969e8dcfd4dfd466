import Mathlib.Data.List.Forall2
import Tethered.Adb.Listing
import Tethered.Proofs.Text.Lines

/-!
# Which lines list a device

A line shows nothing, shows one device or cannot be read, and never two of these.
The list of devices is what its lines show, up to the first that cannot be read.
White space around a state is any white space; between a serial number and a
state only spaces and tabs count.
-/
namespace Tethered.Adb

open Text

/-- A line that shows nothing. -/
inductive Noise (line : List Char) : Prop
  | blank (h : ∀ c ∈ line, isBlank c = true)
  | heading (h : "List of".toList <:+: line)
  | banner (h : line.head? = some '*')
  | indented {c : Char} (h : line.head? = some c) (hc : isSeparator c = true)
  | stateless {before after : List Char} {c : Char} (h : line = before ++ c :: after)
      (hbefore : ∀ c ∈ before, isSeparator c = false) (hc : isSeparator c = true)
      (hafter : ∀ c ∈ after, isBlank c = true)

/-- A serial number and a state that a line can show. -/
structure Listed.Readable (listed : Listed) : Prop where
  serial_ne_nil : listed.serial ≠ []
  serial_clean : ∀ c ∈ listed.serial, isSeparator c = false
  serial_start : listed.serial.head? ≠ some '*'
  state_ne_nil : listed.state ≠ []
  state_start : ∀ c, listed.state.head? = some c → isSeparator c = false
  state_end : ∀ c, listed.state.getLast? = some c → isBlank c = false

/-- A line that shows a device: a serial number, spaces or tabs, a state, and
perhaps white space behind it. -/
def ShowsDevice (line : List Char) (listed : Listed) : Prop :=
  listed.Readable ∧ ¬ "List of".toList <:+: line ∧
    ∃ separation tail, line = listed.serial ++ separation ++ listed.state ++ tail ∧
      separation ≠ [] ∧ (∀ c ∈ separation, isSeparator c = true) ∧ ∀ c ∈ tail, isBlank c = true

/-- What a line shows. -/
def Shows (line : List Char) : Option Listed → Prop
  | none => Noise line
  | some listed => ShowsDevice line listed

/-- A line behind which nothing is read: no white space could separate a state. -/
structure Unreadable (line : List Char) : Prop where
  not_blank : ¬ ∀ c ∈ line, isBlank c = true
  not_heading : ¬ "List of".toList <:+: line
  not_banner : line.head? ≠ some '*'
  no_separator : ∀ c ∈ line, isSeparator c = false

variable {line before after : List Char} {c : Char} {listed : Listed}

theorem isBlank_of_isSeparator (h : isSeparator c = true) : isBlank c = true := by
  simp only [isSeparator, Bool.or_eq_true, decide_eq_true_eq] at h
  rcases h with rfl | rfl <;> decide

theorem isHeading_iff :
    isHeading line = true ↔
      (∀ c ∈ line, isBlank c = true) ∨ "List of".toList <:+: line ∨ line.head? = some '*' := by
  simp only [isHeading, Bool.or_eq_true, List.all_eq_true, occursIn_iff_isInfix,
    decide_eq_true_eq, or_assoc]

theorem isHeading_eq_false_iff :
    isHeading line = false ↔
      (¬ ∀ c ∈ line, isBlank c = true) ∧ ¬ "List of".toList <:+: line ∧ line.head? ≠ some '*' := by
  rw [← Bool.not_eq_true, isHeading_iff, not_or, not_or]

theorem noise_of_isHeading (h : isHeading line = true) : Noise line := by
  rcases isHeading_iff.mp h with hblank | hheading | hbanner
  · exact .blank hblank
  · exact .heading hheading
  · exact .banner hbanner

/-! ## The reading of one line -/

/-- The state that is read behind the first separator of a line. -/
def stateBehind (after : List Char) : List Char :=
  dropEndWhile isBlank (after.dropWhile isSeparator)

theorem ofText_of_isHeading (h : isHeading line = true) : Line.ofText line = .noise := if_pos h

theorem ofText_of_no_separator (hheading : isHeading line = false)
    (h : ∀ c ∈ line, isSeparator c = false) : Line.ofText line = .malformed := by
  have hbehind : line.dropWhile (fun c => !isSeparator c) = [] := by
    simpa [List.dropWhile_eq_nil_iff] using h
  simp only [Line.ofText, hheading, hbehind, List.isEmpty_nil, if_true, if_false,
    Bool.false_eq_true]

theorem ofText_of_separator (hheading : isHeading (before ++ c :: after) = false)
    (hbefore : ∀ c ∈ before, isSeparator c = false) (hc : isSeparator c = true) :
    Line.ofText (before ++ c :: after) =
      if before = [] ∨ stateBehind after = [] then .noise
      else .device ⟨before, stateBehind after⟩ := by
  have hclean : ∀ c ∈ before, (!isSeparator c) = true := fun c hmem => by simp [hbefore c hmem]
  have hserial : (before ++ c :: after).takeWhile (fun c => !isSeparator c) = before := by
    simp [List.takeWhile_append_of_pos hclean, hc]
  have hbehind : (before ++ c :: after).dropWhile (fun c => !isSeparator c) = c :: after := by
    simp [List.dropWhile_append_of_pos hclean, hc]
  have hstate : dropEndWhile isBlank ((c :: after).dropWhile isSeparator) = stateBehind after := by
    rw [List.dropWhile_cons_of_pos hc]
    rfl
  simp only [Line.ofText, hheading, hserial, hbehind, hstate, List.isEmpty_cons, if_false,
    Bool.false_eq_true, Bool.or_eq_true, List.isEmpty_iff]

theorem exists_first_separator (line : List Char) :
    (∀ c ∈ line, isSeparator c = false) ∨
      ∃ before c after, line = before ++ c :: after ∧ (∀ c ∈ before, isSeparator c = false) ∧
        isSeparator c = true := by
  cases hfind : line.find? isSeparator with
  | none =>
    left
    simpa using hfind
  | some c =>
    obtain ⟨hc, before, after, heq, hbefore⟩ := List.find?_eq_some_iff_append.mp hfind
    exact .inr ⟨before, c, after, heq, by simpa using hbefore, hc⟩

theorem stateBehind_eq_nil_iff : stateBehind after = [] ↔ ∀ c ∈ after, isBlank c = true := by
  rw [stateBehind, dropEndWhile_eq_nil_iff]
  constructor
  · intro h c hmem
    rw [← List.takeWhile_append_dropWhile (p := isSeparator) (l := after)] at hmem
    rcases List.mem_append.mp hmem with htaken | hdropped
    · exact isBlank_of_isSeparator (List.mem_takeWhile_imp htaken)
    · exact h c hdropped
  · exact fun h c hmem => h c ((List.dropWhile_sublist _).subset hmem)

theorem ofText_of_noise (h : Noise line) : Line.ofText line = .noise := by
  cases hheading : isHeading line with
  | true => exact ofText_of_isHeading hheading
  | false =>
    obtain ⟨hnotBlank, hnotInfix, hnotBanner⟩ := isHeading_eq_false_iff.mp hheading
    cases h with
    | blank h => exact absurd h hnotBlank
    | heading h => exact absurd h hnotInfix
    | banner h => exact absurd h hnotBanner
    | indented h hc =>
      obtain ⟨after, rfl⟩ := List.head?_eq_some_iff.mp h
      have hline := @ofText_of_separator [] after _ hheading (by simp) hc
      exact hline.trans (if_pos (.inl rfl))
    | stateless h hbefore hc hafter =>
      subst h
      rw [ofText_of_separator hheading hbefore hc,
        if_pos (.inr (stateBehind_eq_nil_iff.mpr hafter))]

theorem stateBehind_append {separation state tail : List Char}
    (hseparation : ∀ c ∈ separation, isSeparator c = true)
    (hstart : ∀ c, state.head? = some c → isSeparator c = false) (hne : state ≠ [])
    (hend : ∀ c, state.getLast? = some c → isBlank c = false)
    (htail : ∀ c ∈ tail, isBlank c = true) :
    stateBehind (separation ++ (state ++ tail)) = state := by
  have hdrop : (separation ++ (state ++ tail)).dropWhile isSeparator = state ++ tail := by
    rw [List.dropWhile_append_of_pos hseparation]
    cases state with
    | nil => exact absurd rfl hne
    | cons c state =>
      have hc := hstart c rfl
      exact List.dropWhile_cons_of_neg (by simp [hc])
  rw [stateBehind, hdrop, dropEndWhile_append htail hend]

theorem ShowsDevice.not_isHeading (h : ShowsDevice line listed) : isHeading line = false := by
  obtain ⟨hreadable, hheading, separation, tail, hline, -, -, -⟩ := h
  refine isHeading_eq_false_iff.mpr ⟨?_, hheading, ?_⟩
  · -- the last character of the state is not blank
    intro hblank
    obtain ⟨state, c, hstate⟩ := List.eq_nil_or_concat listed.state |>.resolve_left
      hreadable.state_ne_nil
    have hlast := hreadable.state_end c (by rw [hstate]; simp)
    have hmem : c ∈ line := by rw [hline, hstate]; simp
    rw [hblank c hmem] at hlast
    cases hlast
  · intro hbanner
    apply hreadable.serial_start
    rw [hline, List.append_assoc, List.append_assoc,
      List.head?_append_of_ne_nil _ hreadable.serial_ne_nil] at hbanner
    exact hbanner

theorem ofText_of_showsDevice (h : ShowsDevice line listed) :
    Line.ofText line = .device listed := by
  have hheading := h.not_isHeading
  obtain ⟨hreadable, -, separation, tail, hline, hne, hseparation, htail⟩ := h
  obtain ⟨c, rest, rfl⟩ := List.exists_cons_of_ne_nil hne
  have hsplit : line = listed.serial ++ c :: (rest ++ (listed.state ++ tail)) := by
    simpa using hline
  have hstate : stateBehind (rest ++ (listed.state ++ tail)) = listed.state :=
    stateBehind_append (fun d hmem => hseparation d (List.mem_cons_of_mem c hmem))
      hreadable.state_start hreadable.state_ne_nil hreadable.state_end htail
  rw [hsplit] at hheading ⊢
  rw [ofText_of_separator hheading hreadable.serial_clean (hseparation c (List.mem_cons_self ..)),
    hstate, if_neg (not_or.mpr ⟨hreadable.serial_ne_nil, hreadable.state_ne_nil⟩)]

theorem showsDevice_of_separator (hheading : isHeading (before ++ c :: after) = false)
    (hbefore : ∀ c ∈ before, isSeparator c = false) (hc : isSeparator c = true)
    (hne : before ≠ []) (hstate : stateBehind after ≠ []) :
    ShowsDevice (before ++ c :: after) ⟨before, stateBehind after⟩ := by
  obtain ⟨-, hnotInfix, hnotBanner⟩ := isHeading_eq_false_iff.mp hheading
  obtain ⟨tail, htail, hblank⟩ := exists_append_dropEndWhile isBlank (after.dropWhile isSeparator)
  have hafter : after = after.takeWhile isSeparator ++ (stateBehind after ++ tail) := by
    conv_lhs => rw [← List.takeWhile_append_dropWhile (p := isSeparator) (l := after), htail]
    rfl
  refine ⟨⟨hne, hbefore, ?_, hstate, ?_, ?_⟩, hnotInfix,
    c :: after.takeWhile isSeparator, tail, ?_, List.cons_ne_nil _ _, ?_, hblank⟩
  · intro hstar
    apply hnotBanner
    rw [List.head?_append_of_ne_nil _ hne]
    exact hstar
  · -- a state starts where the separators end
    intro d hd
    have hhead : (after.dropWhile isSeparator).head? = some d := by
      rw [htail]
      exact (List.head?_append_of_ne_nil _ hstate).trans hd
    have hnone := List.head?_dropWhile_not isSeparator after
    rwa [hhead] at hnone
  · exact fun d hd => not_of_getLast?_dropEndWhile hd
  · conv_lhs => rw [hafter]
    simp
  · intro d hd
    rcases List.mem_cons.mp hd with rfl | hmem
    · exact hc
    · exact List.mem_takeWhile_imp hmem

/-- Every line shows something or nothing, or cannot be read. -/
theorem shows_or_unreadable (line : List Char) :
    (∃ entry, Shows line entry) ∨ Unreadable line := by
  cases hheading : isHeading line with
  | true => exact .inl ⟨none, noise_of_isHeading hheading⟩
  | false =>
    rcases exists_first_separator line with hnone | ⟨before, c, after, rfl, hbefore, hc⟩
    · obtain ⟨hnotBlank, hnotInfix, hnotBanner⟩ := isHeading_eq_false_iff.mp hheading
      exact .inr ⟨hnotBlank, hnotInfix, hnotBanner, hnone⟩
    · left
      by_cases hne : before = []
      · subst hne
        exact ⟨none, .indented rfl hc⟩
      · by_cases hstate : stateBehind after = []
        · exact ⟨none, .stateless rfl hbefore hc (stateBehind_eq_nil_iff.mp hstate)⟩
        · exact ⟨some _, showsDevice_of_separator hheading hbefore hc hne hstate⟩

theorem ofText_of_unreadable (h : Unreadable line) : Line.ofText line = .malformed := by
  have hheading := isHeading_eq_false_iff.mpr ⟨h.not_blank, h.not_heading, h.not_banner⟩
  exact ofText_of_no_separator hheading h.no_separator

theorem Shows.ofText {entry : Option Listed} (h : Shows line entry) :
    Line.ofText line ≠ .malformed ∧ (Line.ofText line).device? = entry := by
  cases entry with
  | none =>
    rw [ofText_of_noise h]
    exact ⟨by decide, rfl⟩
  | some listed =>
    rw [ofText_of_showsDevice h]
    exact ⟨by simp, rfl⟩

theorem shows_iff {entry : Option Listed} :
    Shows line entry ↔ Line.ofText line ≠ .malformed ∧ (Line.ofText line).device? = entry := by
  constructor
  · exact Shows.ofText
  · rintro ⟨hread, rfl⟩
    rcases shows_or_unreadable line with ⟨entry, hentry⟩ | hunreadable
    · rwa [hentry.ofText.2]
    · exact absurd (ofText_of_unreadable hunreadable) hread

theorem Shows.not_unreadable {entry : Option Listed} (h : Shows line entry) :
    ¬ Unreadable line := fun hunreadable => h.ofText.1 (ofText_of_unreadable hunreadable)

theorem unreadable_iff : Unreadable line ↔ Line.ofText line = .malformed := by
  constructor
  · exact ofText_of_unreadable
  · intro h
    rcases shows_or_unreadable line with ⟨entry, hentry⟩ | hunreadable
    · exact absurd h hentry.ofText.1
    · exact hunreadable

/-! ## The reading of all lines -/

/-- The devices that lines show, up to one that cannot be read. -/
def shownBy (rows : List (List Char)) : List Listed :=
  ((rows.map Line.ofText).takeWhile (· != .malformed)).filterMap Line.device?

theorem listing_eq_shownBy (output : List Char) (limit : Nat) :
    listing output limit = (shownBy (lines output)).take limit := rfl

section
variable {rows : List (List Char)}

theorem shownBy_append_of_readable (h : ∀ line ∈ rows, ¬ Unreadable line)
    (later : List (List Char)) :
    shownBy (rows ++ later) =
      rows.filterMap (fun line => (Line.ofText line).device?) ++ shownBy later := by
  have hread : ∀ read ∈ rows.map Line.ofText, (read != .malformed) = true := by
    refine List.forall_mem_map.mpr fun line hmem => ?_
    simpa using fun hmalformed => h line hmem (unreadable_iff.mpr hmalformed)
  unfold shownBy
  rw [List.map_append, List.takeWhile_append_of_pos hread, List.filterMap_append,
    List.filterMap_map]
  rfl

theorem shownBy_of_readable (h : ∀ line ∈ rows, ¬ Unreadable line) :
    shownBy rows = rows.filterMap fun line => (Line.ofText line).device? := by
  have happend := shownBy_append_of_readable h []
  rw [List.append_nil] at happend
  exact happend.trans (List.append_nil _)

/-- Lines that can all be read leave those behind them to be read. -/
theorem shownBy_append (h : ∀ line ∈ rows, ¬ Unreadable line) (later : List (List Char)) :
    shownBy (rows ++ later) = shownBy rows ++ shownBy later := by
  rw [shownBy_append_of_readable h, shownBy_of_readable h]

/-- Nothing is read behind a line that cannot be read. -/
theorem shownBy_append_of_unreadable (hmem : line ∈ rows) (h : Unreadable line)
    (later : List (List Char)) : shownBy (rows ++ later) = shownBy rows := by
  have hstop : ((rows.map Line.ofText).takeWhile (· != .malformed)).length ≠
      (rows.map Line.ofText).length := by
    intro hlength
    have hall := List.takeWhile_eq_self_iff.mp ((List.takeWhile_prefix _).eq_of_length hlength)
    simpa [ofText_of_unreadable h] using hall _ (List.mem_map_of_mem hmem)
  unfold shownBy
  rw [List.map_append, List.takeWhile_append, if_neg hstop]

theorem shownBy_singleton (line : List Char) :
    shownBy [line] = (Line.ofText line).device?.toList := by
  unfold shownBy
  cases hread : Line.ofText line <;> simp [hread, Line.device?]

end

theorem exists_shown (rows : List (List Char)) :
    ∃ (shown : List (List Char × Option Listed)) (rest : List (List Char)),
      rows = shown.map Prod.fst ++ rest ∧ (∀ row ∈ shown, Shows row.1 row.2) ∧
        ∀ line, rest.head? = some line → Unreadable line := by
  induction rows with
  | nil => exact ⟨[], [], rfl, by simp, by simp⟩
  | cons line rows ih =>
    rcases shows_or_unreadable line with ⟨entry, hentry⟩ | hunreadable
    · obtain ⟨shown, rest, rfl, hshown, hrest⟩ := ih
      exact ⟨(line, entry) :: shown, rest, rfl, List.forall_mem_cons.mpr ⟨hentry, hshown⟩, hrest⟩
    · refine ⟨[], line :: rows, rfl, by simp, ?_⟩
      rintro _ ⟨⟩
      exact hunreadable

/-- A list has the devices that its lines show before one that cannot be read. -/
theorem listing_eq_take {output : List Char} {shown : List (List Char × Option Listed)}
    {rest : List (List Char)} (limit : Nat) (hlines : lines output = shown.map Prod.fst ++ rest)
    (hshown : ∀ row ∈ shown, Shows row.1 row.2)
    (hrest : ∀ line, rest.head? = some line → Unreadable line) :
    listing output limit = (shown.filterMap Prod.snd).take limit := by
  have hread : ∀ line ∈ shown.map Prod.fst, ¬ Unreadable line :=
    List.forall_mem_map.mpr fun row hmem => (hshown row hmem).not_unreadable
  have hstop : shownBy rest = [] := by
    cases rest with
    | nil => rfl
    | cons line rest => simp [shownBy, ofText_of_unreadable (hrest line rfl)]
  have hdevices : (shown.map Prod.fst).filterMap (fun line => (Line.ofText line).device?) =
      shown.filterMap Prod.snd := by
    rw [List.filterMap_map]
    exact List.filterMap_congr fun row hmem => (hshown row hmem).ofText.2
  rw [listing_eq_shownBy, hlines, shownBy_append_of_readable hread, hstop, List.append_nil,
    hdevices]

/-- The lines that show the devices of a prefix, in order. -/
theorem exists_sublist_of_shown {shown : List (List Char × Option Listed)}
    (hshown : ∀ row ∈ shown, Shows row.1 row.2) (limit : Nat) :
    ∃ chosen : List (List Char), chosen.Sublist (shown.map Prod.fst) ∧
      List.Forall₂ ShowsDevice chosen ((shown.filterMap Prod.snd).take limit) := by
  induction shown generalizing limit with
  | nil => exact ⟨[], .slnil, by simp⟩
  | cons row shown ih =>
    obtain ⟨hrow, hrest⟩ := List.forall_mem_cons.mp hshown
    obtain ⟨line, entry⟩ := row
    cases entry with
    | none =>
      obtain ⟨chosen, hsublist, hdevices⟩ := ih hrest limit
      exact ⟨chosen, hsublist.cons line, hdevices⟩
    | some listed =>
      cases limit with
      | zero => exact ⟨[], List.nil_sublist _, .nil⟩
      | succ limit =>
        obtain ⟨chosen, hsublist, hdevices⟩ := ih hrest limit
        exact ⟨line :: chosen, hsublist.cons_cons line, .cons hrow hdevices⟩

/-- Lines that show something or nothing are read for what they show. And whatever
the text, what is read of it is shown by different lines in order, none of them at
or behind one that cannot be read. -/
theorem listing_exact :
    (∀ (rows : List (List Char × Option Listed)) (limit : Nat),
      (∀ row ∈ rows, '\n' ∉ row.1 ∧ Shows row.1 row.2) →
      listing (['\n'].intercalate (rows.map Prod.fst)) limit =
        (rows.filterMap Prod.snd).take limit) ∧
    ∀ (output : List Char) (limit : Nat), ∃ before after chosen : List (List Char),
      ['\n'].intercalate (before ++ after) = output ∧
      (∀ line ∈ before ++ after, '\n' ∉ line) ∧
      (∀ line ∈ before, ¬ Unreadable line) ∧
      (∀ line, after.head? = some line → Unreadable line) ∧
      chosen.Sublist before ∧ List.Forall₂ ShowsDevice chosen (listing output limit) ∧
      (listing output limit).length ≤ limit := by
  constructor
  · intro rows limit hrows
    by_cases hne : rows = []
    · -- no rows join to the empty text, which is one blank line
      subst hne
      have hblank : Shows [] none := .blank (by simp)
      exact @listing_eq_take [] [([], none)] [] limit rfl (by simpa using hblank) (by simp)
    · have hlines := @lines_intercalate (rows.map Prod.fst) (by simpa using hne)
        (List.forall_mem_map.mpr fun row hmem => (hrows row hmem).1)
      exact listing_eq_take limit (hlines.trans (List.append_nil _).symm)
        (fun row hmem => (hrows row hmem).2) (by simp)
  · intro output limit
    obtain ⟨shown, rest, hlines, hshown, hrest⟩ := exists_shown (lines output)
    have hlisting := listing_eq_take limit hlines hshown hrest
    obtain ⟨chosen, hsublist, hdevices⟩ := exists_sublist_of_shown hshown limit
    refine ⟨shown.map Prod.fst, rest, chosen, ?_, ?_, ?_, hrest, hsublist, ?_, ?_⟩
    · rw [← hlines, intercalate_lines]
    · rw [← hlines]
      exact fun line hmem => newline_not_mem_of_mem_lines hmem
    · exact List.forall_mem_map.mpr fun row hmem => (hshown row hmem).not_unreadable
    · rw [hlisting]
      exact hdevices
    · exact List.length_take_le ..

/-- A heading, a device behind a tab and before a carriage return, a banner, a line
without a serial number, one without a state, and a device with more behind its state. -/
def mixedRows : List (List Char × Option Listed) :=
  [("List of devices attached".toList, none),
    ("R58M\tunauthorized\r".toList, some ⟨"R58M".toList, "unauthorized".toList⟩),
    ("* daemon started".toList, none), ("\tdevice".toList, none), ("lonely \t ".toList, none),
    ("ZY22 \tdevice usb:1".toList, some ⟨"ZY22".toList, "device usb:1".toList⟩), ([], none)]

theorem listing_mixedRows :
    (∀ row ∈ mixedRows, '\n' ∉ row.1 ∧ Shows row.1 row.2) ∧
      listing (['\n'].intercalate (mixedRows.map Prod.fst)) 1 =
        [⟨"R58M".toList, "unauthorized".toList⟩] ∧
      listing (['\n'].intercalate (mixedRows.map Prod.fst)) 8 =
        [⟨"R58M".toList, "unauthorized".toList⟩, ⟨"ZY22".toList, "device usb:1".toList⟩] := by
  have hrows : ∀ row ∈ mixedRows, '\n' ∉ row.1 ∧ Shows row.1 row.2 := by
    simp only [shows_iff]
    decide
  exact ⟨hrows, listing_exact.1 mixedRows 1 hrows, listing_exact.1 mixedRows 8 hrows⟩

end Tethered.Adb
