import Mathlib.Data.List.DropRight
import Tethered.Proofs.Text.Encoding
import Tethered.Text.Pieces

/-!
# Laws of lines, words and stretches

Cutting a text into pieces is the splitting of a list, so lines joined by newlines
are the text again, and rows without a newline are the lines of what they join to.
The lines of bytes are read each by itself, and bytes that are cut have the same
lines up to the last one. Words are parted by any blank, so the words of a text are
those before a blank and those behind it.
Nothing is said here about carriage returns: they belong to the lines.
-/
namespace Tethered.Text

variable {p : Char → Bool} {text : List Char}

theorem pieces_eq_splitOnP (p : Char → Bool) (text : List Char) :
    pieces p text = text.splitOnP p := by
  induction text with
  | nil => rfl
  | cons c text ih =>
    rw [pieces_cons, ih, List.splitOnP_cons_eq_if_modifyHead]
    cases hsplit : text.splitOnP p with
    | nil => exact absurd hsplit (List.splitOnP_ne_nil p text)
    | cons piece pieces => rfl

theorem not_separator_of_mem_pieces {piece : List Char} (h : piece ∈ pieces p text) :
    ∀ c ∈ piece, p c = false := by
  induction text generalizing piece with
  | nil =>
    rw [pieces_nil, List.mem_singleton] at h
    simp [h]
  | cons c text ih =>
    rw [pieces_cons] at h
    cases hpieces : pieces p text with
    | nil =>
      rw [pieces_eq_splitOnP] at hpieces
      exact absurd hpieces (List.splitOnP_ne_nil p text)
    | cons first rest =>
      rw [hpieces] at h ih
      by_cases hc : p c = true
      · simp only [joinPiece, hc, if_true] at h
        rcases List.mem_cons.mp h with rfl | hmem
        · simp
        · exact ih hmem
      · simp only [joinPiece, hc, if_false, Bool.false_eq_true] at h
        rcases List.mem_cons.mp h with rfl | hmem
        · have hfirst := ih (List.mem_cons_self ..)
          simpa [hc] using hfirst
        · exact ih (List.mem_cons_of_mem _ hmem)

theorem lines_eq_splitOn (text : List Char) : lines text = text.splitOn '\n' :=
  pieces_eq_splitOnP _ text

theorem newline_not_mem_of_mem_lines {line : List Char} (h : line ∈ lines text) :
    '\n' ∉ line := by
  intro hmem
  have hfalse := not_separator_of_mem_pieces h '\n' hmem
  simp at hfalse

theorem intercalate_lines (text : List Char) : ['\n'].intercalate (lines text) = text := by
  rw [lines_eq_splitOn]
  exact List.intercalate_splitOn '\n'

theorem lines_intercalate {rows : List (List Char)} (hne : rows ≠ [])
    (h : ∀ row ∈ rows, '\n' ∉ row) : lines (['\n'].intercalate rows) = rows := by
  rw [lines_eq_splitOn]
  exact List.splitOn_intercalate '\n' h hne

theorem lines_of_not_mem (h : '\n' ∉ text) : lines text = [text] := by
  have hrows : ∀ row ∈ [text], '\n' ∉ row := by simpa using h
  have hlines := lines_intercalate (List.cons_ne_nil text []) hrows
  rwa [List.intercalate_singleton] at hlines

theorem lines_ne_nil (text : List Char) : lines text ≠ [] := by
  rw [lines, pieces_eq_splitOnP]
  exact List.splitOnP_ne_nil _ text

theorem exists_lines_eq_cons (text : List Char) : ∃ row rows, lines text = row :: rows :=
  List.exists_cons_of_ne_nil (lines_ne_nil text)

theorem lines_cons_newline (text : List Char) : lines ('\n' :: text) = [] :: lines text := by
  obtain ⟨row, rows, hlines⟩ := exists_lines_eq_cons text
  rw [hlines, lines, pieces_cons, ← lines, hlines]
  rfl

theorem lines_cons_of_ne {c : Char} {row : List Char} {rows : List (List Char)} (hc : c ≠ '\n')
    (hlines : lines text = row :: rows) : lines (c :: text) = (c :: row) :: rows := by
  rw [lines, pieces_cons, ← lines, hlines]
  exact if_neg (by simpa using hc)

/-- A text without a newline goes in front of the first line behind it. -/
theorem lines_append_of_not_mem {first row : List Char} {rows : List (List Char)}
    (h : '\n' ∉ first) (hlines : lines text = row :: rows) :
    lines (first ++ text) = (first ++ row) :: rows := by
  induction first with
  | nil => exact hlines
  | cons c first ih =>
    obtain ⟨hc, hfirst⟩ : '\n' ≠ c ∧ '\n' ∉ first := by rwa [List.mem_cons, not_or] at h
    exact lines_cons_of_ne (Ne.symm hc) (ih hfirst)

/-- Whatever is put behind a text goes on with its last line. -/
theorem exists_lines_append (text : List Char) :
    ∃ before last, lines text = before ++ [last] ∧
      ∀ later, lines (text ++ later) = before ++ lines (last ++ later) := by
  induction text with
  | nil => exact ⟨[], [], rfl, fun _ => rfl⟩
  | cons c text ih =>
    obtain ⟨before, last, hlines, hlater⟩ := ih
    by_cases hc : c = '\n'
    · subst hc
      refine ⟨[] :: before, last, ?_, fun later => ?_⟩
      · rw [lines_cons_newline, hlines, List.cons_append]
      · rw [List.cons_append, lines_cons_newline, hlater, List.cons_append]
    · cases before with
      | nil =>
        refine ⟨[], c :: last, lines_cons_of_ne hc hlines, fun later => ?_⟩
        obtain ⟨row, rows, hrows⟩ := exists_lines_eq_cons (last ++ later)
        rw [List.nil_append, List.cons_append, List.cons_append, lines_cons_of_ne hc hrows]
        exact lines_cons_of_ne hc ((hlater later).trans hrows)
      | cons row before =>
        exact ⟨(c :: row) :: before, last, lines_cons_of_ne hc hlines,
          fun later => lines_cons_of_ne hc (hlater later)⟩

/-- A newline parts the lines before it from those behind it. -/
theorem lines_append_cons (before after : List Char) :
    lines (before ++ '\n' :: after) = lines before ++ lines after := by
  rw [lines_eq_splitOn, lines_eq_splitOn, lines_eq_splitOn, List.splitOn_append_cons_self]

/-- A line that has its newline is the first line, whatever comes behind it. -/
theorem lines_append_newline {row : List Char} (h : '\n' ∉ row) (text : List Char) :
    lines (row ++ '\n' :: text) = row :: lines text := by
  rw [lines_append_cons, lines_of_not_mem h]
  rfl

/-! ## Words -/

/-- A stretch of text that is one word. -/
structure IsWord (text : List Char) : Prop where
  ne_nil : text ≠ []
  not_blank : ∀ c ∈ text, isBlank c = false

instance (text : List Char) : Decidable (IsWord text) :=
  decidable_of_iff (text ≠ [] ∧ text.all (fun c => !isBlank c) = true) <| by
    rw [List.all_eq_true]
    simp only [Bool.not_eq_true']
    exact ⟨fun h => ⟨h.1, h.2⟩, fun h => ⟨h.1, h.2⟩⟩

@[simp] theorem words_nil : words [] = [] := rfl

theorem words_append_blank {c : Char} (hc : isBlank c = true) (before after : List Char) :
    words (before ++ c :: after) = words before ++ words after := by
  simp only [words, pieces_eq_splitOnP]
  rw [List.splitOnP_append_cons before after hc, List.filter_append]

theorem isWord_singleton {c : Char} (h : isBlank c = false) : IsWord [c] :=
  ⟨List.cons_ne_nil c [], fun _ hmem => List.mem_singleton.mp hmem ▸ h⟩

theorem IsWord.newline_not_mem (h : IsWord text) : '\n' ∉ text := fun hmem =>
  absurd (h.not_blank _ hmem) (by decide)

theorem IsWord.words_eq (h : IsWord text) : words text = [text] := by
  rw [words, pieces_eq_splitOnP, List.splitOnP_eq_singleton h.not_blank]
  simp [h.ne_nil]

/-- A stretch without a blank is a word, or there is nothing of it. -/
theorem length_words_le_one (h : ∀ c ∈ text, isBlank c = false) : (words text).length ≤ 1 := by
  by_cases hnil : text = []
  · rw [hnil, words_nil]
    exact Nat.zero_le 1
  · rw [IsWord.words_eq ⟨hnil, h⟩]
    exact Nat.le_refl 1

/-- A text with the words that stand in it: the maximal stretches without a blank, in order. -/
inductive HasWords : List Char → List (List Char) → Prop
  | nil {text : List Char} (h : ∀ c ∈ text, isBlank c = true) : HasWords text []
  | cons {before word behind : List Char} {others : List (List Char)}
      (hbefore : ∀ c ∈ before, isBlank c = true) (hword : IsWord word)
      (hend : ∀ c, behind.head? = some c → isBlank c = true) (h : HasWords behind others) :
      HasWords (before ++ word ++ behind) (word :: others)

theorem words_cons_blank {c : Char} (hc : isBlank c = true) (text : List Char) :
    words (c :: text) = words text := words_append_blank hc [] text

theorem words_append_of_blank {before : List Char} (h : ∀ c ∈ before, isBlank c = true)
    (text : List Char) : words (before ++ text) = words text := by
  induction before with
  | nil => rfl
  | cons c before ih =>
    obtain ⟨hc, hbefore⟩ := List.forall_mem_cons.mp h
    rw [List.cons_append, words_cons_blank hc, ih hbefore]

theorem words_of_blank (h : ∀ c ∈ text, isBlank c = true) : words text = [] := by
  have hwords := words_append_of_blank h []
  rwa [List.append_nil] at hwords

/-- A word ends at a blank or with the text. -/
theorem IsWord.words_append {behind : List Char} (h : IsWord text)
    (hend : ∀ c, behind.head? = some c → isBlank c = true) :
    words (text ++ behind) = text :: words behind := by
  cases behind with
  | nil => rw [List.append_nil, h.words_eq, words_nil]
  | cons c behind =>
    have hc := hend c rfl
    rw [words_append_blank hc, h.words_eq, words_cons_blank hc, List.singleton_append]

theorem HasWords.words_eq {found : List (List Char)} (h : HasWords text found) :
    words text = found := by
  induction h with
  | nil hblank => exact words_of_blank hblank
  | cons hbefore hword hend _ ih =>
    rw [List.append_assoc, words_append_of_blank hbefore, hword.words_append hend, ih]

theorem HasWords.blank_cons {c : Char} {found : List (List Char)} (hc : isBlank c = true)
    (h : HasWords text found) : HasWords (c :: text) found := by
  cases h with
  | nil hblank => exact .nil (List.forall_mem_cons.mpr ⟨hc, hblank⟩)
  | cons hbefore hword hend hothers =>
    exact .cons (List.forall_mem_cons.mpr ⟨hc, hbefore⟩) hword hend hothers

/-- A character that is no blank begins a word of its own or joins the word behind it. -/
theorem HasWords.exists_cons {c : Char} {found : List (List Char)} (hc : isBlank c = false)
    (h : HasWords text found) : ∃ joined, HasWords (c :: text) joined := by
  have hnone : ∀ c ∈ ([] : List Char), isBlank c = true := fun _ hmem => nomatch hmem
  have halone (hend : ∀ c, text.head? = some c → isBlank c = true) :
      HasWords (c :: text) ([c] :: found) := .cons hnone (isWord_singleton hc) hend h
  cases h with
  | nil hblank => exact ⟨_, halone fun _ hhead => hblank _ (List.mem_of_mem_head? hhead)⟩
  | @cons before word behind others hbefore hword hend hothers =>
    cases before with
    | nil =>
      have hjoined : IsWord (c :: word) :=
        ⟨List.cons_ne_nil c word, List.forall_mem_cons.mpr ⟨hc, hword.not_blank⟩⟩
      exact ⟨_, .cons hnone hjoined hend hothers⟩
    | cons first before =>
      refine ⟨_, halone fun _ hhead => ?_⟩
      obtain rfl := Option.some.inj hhead
      exact hbefore _ List.mem_cons_self

/-- The words of a text are its maximal stretches without a blank. -/
theorem words_eq_iff {found : List (List Char)} : words text = found ↔ HasWords text found := by
  refine ⟨fun hwords => ?_, HasWords.words_eq⟩
  have hexists : ∃ found, HasWords text found := by
    clear hwords
    induction text with
    | nil => exact ⟨[], .nil fun _ hmem => nomatch hmem⟩
    | cons c text ih =>
      obtain ⟨found, hfound⟩ := ih
      by_cases hc : isBlank c = true
      · exact ⟨found, hfound.blank_cons hc⟩
      · exact hfound.exists_cons (Bool.eq_false_iff.mpr hc)
  obtain ⟨other, hother⟩ := hexists
  obtain rfl := hwords.symm.trans hother.words_eq
  exact hother

/-! ## The lines of bytes -/

theorem newline_not_mem_decodeLossy {row : List UInt8} (h : 0x0A ∉ row) :
    '\n' ∉ Utf8.decodeLossy row := by
  intro hmem
  obtain ⟨byte, hbyte, heq⟩ := Utf8.exists_byte_of_mem_decodeLossy hmem (by decide) (by decide)
  have hnewline : byte = 0x0A := UInt8.toNat_inj.mp heq
  exact h (hnewline ▸ hbyte)

theorem decodeLossy_append_newline (before after : List UInt8) :
    Utf8.decodeLossy (before ++ 0x0A :: after) =
      Utf8.decodeLossy before ++ '\n' :: Utf8.decodeLossy after :=
  Utf8.decodeLossy_append_ascii (by decide) before after

/-- The lines of the text are the lines of the bytes, each read by itself. -/
theorem lines_decodeLossy (bytes : List UInt8) :
    lines (Utf8.decodeLossy bytes) = (bytes.splitOn 0x0A).map Utf8.decodeLossy := by
  by_cases hmem : 0x0A ∈ bytes
  · obtain ⟨before, after, hbytes⟩ := List.append_of_mem hmem
    have hlength : bytes.length = before.length + (after.length + 1) := by
      rw [hbytes, List.length_append, List.length_cons]
    rw [hbytes, decodeLossy_append_newline, lines_append_cons, List.splitOn_append_cons_self,
      List.map_append, lines_decodeLossy before, lines_decodeLossy after]
  · rw [lines_of_not_mem (newline_not_mem_decodeLossy hmem), List.splitOn_eq_singleton hmem]
    rfl
termination_by bytes.length
decreasing_by all_goals omega

/-- The lines of a cut output are those of the whole but for the last, which is the
beginning of a line, with a mark behind it where a character is cut. -/
theorem exists_lines_take (bytes : List UInt8) (limit : Nat) :
    ∃ before kept ending row after,
      lines (Utf8.decodeLossy (bytes.take limit)) = before ++ [kept ++ ending] ∧
      lines (Utf8.decodeLossy bytes) = before ++ row :: after ∧
      kept <+: row ∧ (ending = [] ∨ ending = ['\uFFFD']) := by
  obtain ⟨common, ending, hcut, ⟨later, hwhole⟩, hending⟩ :=
    Utf8.exists_decodeLossy_take bytes limit
  obtain ⟨before, kept, hlines, hlater⟩ := exists_lines_append common
  have hmem : kept ∈ lines common := by
    rw [hlines]
    exact List.mem_concat_self
  have hkept : '\n' ∉ kept := newline_not_mem_of_mem_lines hmem
  have hclean : '\n' ∉ kept ++ ending := by
    rcases hending with rfl | rfl
    · simpa using hkept
    · simpa using hkept
  obtain ⟨row, after, hrows⟩ := exists_lines_eq_cons later
  have hrow : lines (kept ++ later) = (kept ++ row) :: after :=
    lines_append_of_not_mem hkept hrows
  refine ⟨before, kept, ending, kept ++ row, after, ?_, ?_, List.prefix_append _ _, hending⟩
  · rw [hcut, hlater, lines_of_not_mem hclean]
  · rw [← hwhole, hlater, hrow]

/-! ## The end of a text -/

theorem exists_append_dropEndWhile (p : Char → Bool) (text : List Char) :
    ∃ ending, text = dropEndWhile p text ++ ending ∧ ∀ c ∈ ending, p c = true :=
  ⟨text.rtakeWhile p, List.rdropWhile_append_rtakeWhile.symm, fun _ => List.mem_rtakeWhile_imp⟩

theorem not_of_getLast?_dropEndWhile {c : Char} (h : (dropEndWhile p text).getLast? = some c) :
    p c = false := by
  change (text.rdropWhile p).getLast? = some c at h
  have hne : text.rdropWhile p ≠ [] := by
    intro hnil
    rw [hnil] at h
    cases h
  have hlast := List.rdropWhile_last_not p text hne
  have heq : (text.rdropWhile p).getLast hne = c :=
    Option.some.inj ((List.getLast?_eq_some_getLast hne).symm.trans h)
  rw [heq] at hlast
  exact Bool.eq_false_iff.mpr hlast

theorem dropEndWhile_eq_nil_iff : dropEndWhile p text = [] ↔ ∀ c ∈ text, p c = true :=
  List.rdropWhile_eq_nil_iff

theorem dropEndWhile_append {ending : List Char} (hending : ∀ c ∈ ending, p c = true)
    (hlast : ∀ c, text.getLast? = some c → p c = false) :
    dropEndWhile p (text ++ ending) = text := by
  have hreverse : ∀ c ∈ ending.reverse, p c = true :=
    fun c hmem => hending c (List.mem_reverse.mp hmem)
  have hself : text.rdropWhile p = text := by
    rw [List.rdropWhile_eq_self_iff]
    intro hne
    simp [hlast _ (List.getLast?_eq_some_getLast hne)]
  unfold dropEndWhile
  rw [List.reverse_append, List.dropWhile_append_of_pos hreverse]
  exact hself

theorem occursIn_iff_isInfix {pattern : List Char} :
    occursIn pattern text = true ↔ pattern <:+: text := by
  induction text with
  | nil => simp [occursIn]
  | cons c text ih =>
    rw [occursIn, Bool.or_eq_true, List.isPrefixOf_iff_prefix, ih, List.infix_cons_iff]

end Tethered.Text
