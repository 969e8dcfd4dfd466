import Tethered.Plist.Series
import Tethered.Proofs.Plist.WrittenLexemes

/-!
# Written values are read as their events

The lines of a value give the events of that value, at any depth and before any
lines that follow, so the bytes of a value are a series without a fault. Values may
nest to any depth and hold any text; integers have to be of those that a property
list admits.
-/
namespace Tethered.Plist

open Text

/-- A reading with events before it. -/
def Reading.behind (events : List Event) (reading : Reading) : Reading :=
  { reading with events := events ++ reading.events }

@[simp] theorem Reading.behind_nil (reading : Reading) : reading.behind [] = reading := rfl

@[simp] theorem Reading.behind_behind (first second : List Event) (reading : Reading) :
    (reading.behind second).behind first = reading.behind (first ++ second) := by
  simp [behind]

theorem Nesting.read_cons {nesting after : Nesting} {lexeme : Lexeme} {events : List Event}
    {rest : List Lexeme} (h : nesting.step lexeme = .ok (after, events))
    (hlexeme : lexeme ≠ .declaration) :
    nesting.read (lexeme :: rest) = (after.read rest).behind events := by
  rw [read]
  simp [h, hlexeme, Reading.behind]

/-! ## Escaped text -/

namespace Writer

/-- A character stands for itself or is written as a reference that stands for it. -/
theorem escapeChar_cases (c : Char) :
    (escapeChar c = [c] ∧ c ≠ '<' ∧ c ≠ '&') ∨
      ∃ name, escapeChar c = '&' :: name ++ [';'] ∧
        (∀ d ∈ name, (d ≠ '<' ∧ d ≠ '&') ∧ d ≠ ';') ∧
        ∀ (names : List (List Char)) (kind : Scalar) (before : List Char),
          Nesting.step ⟨names, some (kind, before)⟩ (.reference name) =
            .ok (⟨names, some (kind, c :: before)⟩, []) := by
  unfold escapeChar
  by_cases hamp : c = '&'
  · subst hamp
    exact .inr ⟨"amp".toList, rfl, by simp, fun _ _ _ => rfl⟩
  by_cases hlt : c = '<'
  · subst hlt
    exact .inr ⟨"lt".toList, rfl, by simp, fun _ _ _ => rfl⟩
  by_cases hgt : c = '>'
  · subst hgt
    exact .inr ⟨"gt".toList, rfl, by simp, fun _ _ _ => rfl⟩
  by_cases hquot : c = '"'
  · subst hquot
    exact .inr ⟨"quot".toList, rfl, by simp, fun _ _ _ => rfl⟩
  by_cases hapos : c = '\x27'
  · subst hapos
    exact .inr ⟨"apos".toList, rfl, by simp, fun _ _ _ => rfl⟩
  by_cases hreturn : c = '\r'
  · subst hreturn
    exact .inr ⟨"#13".toList, rfl, by simp, fun _ _ _ => rfl⟩
  exact .inl ⟨by simp [hamp, hlt, hgt, hquot, hapos, hreturn], hlt, hamp⟩

def isUnescaped (c : Char) : Bool := escapeChar c == [c]

theorem isUnescaped_iff {c : Char} :
    isUnescaped c = true ↔ escapeChar c = [c] ∧ c ≠ '<' ∧ c ≠ '&' := by
  constructor
  · intro h
    rcases escapeChar_cases c with hplain | ⟨name, hname, -⟩
    · exact hplain
    · have hlength := congrArg List.length ((eq_of_beq h).symm.trans hname)
      simp at hlength
  · rintro ⟨h, -, -⟩
    exact beq_iff_eq.mpr h

theorem escape_append (s t : List Char) : escape (s ++ t) = escape s ++ escape t :=
  List.flatMap_append

theorem escape_of_unescaped {text : List Char} (h : ∀ c ∈ text, isUnescaped c = true) :
    escape text = text := by
  induction text with
  | nil => rfl
  | cons c text ih =>
    obtain ⟨hc, htext⟩ := List.forall_mem_cons.mp h
    rw [escape, List.flatMap_cons, ← escape, ih htext, eq_of_beq hc]
    rfl

/-- A stretch of text ends where an escaped character begins. -/
theorem head?_escape {text : List Char} {rest : List UInt8}
    (htext : text.head?.all (fun c => !isUnescaped c) = true)
    (hrest : rest.head?.all Markup.endsText = true) :
    (Utf8.encode (escape text) ++ rest).head?.all Markup.endsText = true := by
  cases text with
  | nil => exact hrest
  | cons c text =>
    rcases escapeChar_cases c with hplain | ⟨name, hescape, -, -⟩
    · have hc : (!isUnescaped c) = true := htext
      rw [isUnescaped_iff.mpr hplain] at hc
      exact absurd hc (by decide)
    · rw [escape, List.flatMap_cons, hescape]
      rfl

theorem isUnescaped_of_isDigit {c : Char} (h : c.isDigit = true) : isUnescaped c = true := by
  have hne {mark : Char} (hmark : mark.isDigit = false) : c ≠ mark := by
    rintro rfl
    exact absurd (h.symm.trans hmark) (by decide)
  simp [isUnescaped, escapeChar, hne]

theorem isDigit_of_mem_decimal {n : Nat} {c : Char} (h : c ∈ Number.decimal n) :
    c.isDigit = true :=
  Nat.isDigit_of_mem_toDigits (by decide) (by decide) h

theorem escape_decimalText (n : Int) : escape (decimalText n) = decimalText n := by
  refine escape_of_unescaped fun c hmem => ?_
  cases n with
  | ofNat n => exact isUnescaped_of_isDigit (isDigit_of_mem_decimal hmem)
  | negSucc n =>
    rcases List.mem_cons.mp hmem with rfl | hmem
    · decide
    · exact isUnescaped_of_isDigit (isDigit_of_mem_decimal hmem)

end Writer

/-! ## The content of scalars -/

namespace Nesting
variable {names : List (List Char)} {kind : Scalar} {rest : List UInt8}

/-- What is read of an escaped text joins the content. The induction is on the length:
a run of characters that stand for themselves is one lexeme, and so is each reference. -/
theorem read_escape (hrest : rest.head?.all Markup.endsText = true) (text before : List Char) :
    (⟨names, some (kind, before)⟩ : Nesting).read
        (Markup.lexemes (Utf8.encode (Writer.escape text) ++ rest)) =
      (⟨names, some (kind, text.reverse ++ before)⟩ : Nesting).read (Markup.lexemes rest) := by
  induction hlength : text.length using Nat.strong_induction_on generalizing text before with
  | _ length ih =>
    cases text with
    | nil => rfl
    | cons c tail =>
      rcases Writer.escapeChar_cases c with hplain | ⟨name, hescape, hname, hstep⟩
      · have hc := Writer.isUnescaped_iff.mpr hplain
        obtain ⟨run, hrun⟩ : ∃ run, run = tail.takeWhile Writer.isUnescaped := ⟨_, rfl⟩
        obtain ⟨later, hlater⟩ : ∃ later, later = tail.dropWhile Writer.isUnescaped := ⟨_, rfl⟩
        have hsplit : c :: tail = (c :: run) ++ later := by
          rw [hrun, hlater, List.cons_append, List.takeWhile_append_dropWhile]
        have hclean : ∀ d ∈ c :: run, Writer.isUnescaped d = true :=
          List.forall_mem_cons.mpr ⟨hc, fun d hd => List.mem_takeWhile_imp (hrun ▸ hd)⟩
        have hhead : later.head?.all (fun d => !Writer.isUnescaped d) = true := by
          have hstop := List.head?_dropWhile_not Writer.isUnescaped tail
          rw [← hlater] at hstop
          cases later with
          | nil => rfl
          | cons d later => simpa using hstop
        have hshort : later.length < length := by
          rw [← hlength, hsplit, List.length_append, List.length_cons]
          omega
        have hstep : (⟨names, some (kind, before)⟩ : Nesting).step (.text (c :: run)) =
            .ok (⟨names, some (kind, (c :: run).reverse ++ before)⟩, []) := rfl
        rw [hsplit, Writer.escape_append, Writer.escape_of_unescaped hclean, Utf8.encode_append,
          List.append_assoc,
          Markup.lexemes_text (by simp) (fun d hd => (Writer.isUnescaped_iff.mp (hclean d hd)).2)
            (Writer.head?_escape hhead hrest),
          read_cons hstep (by simp), Reading.behind_nil, ih later.length hshort later _ rfl]
        simp
      · have hbytes : Utf8.encode (Writer.escape (c :: tail)) ++ rest =
            Utf8.encode ('&' :: name ++ [';']) ++ (Utf8.encode (Writer.escape tail) ++ rest) := by
          rw [Writer.escape, List.flatMap_cons, hescape, Utf8.encode_append, List.append_assoc]
          rfl
        rw [hbytes, Markup.lexemes_reference hname, read_cons (hstep names kind before) (by simp),
          Reading.behind_nil, ih tail.length (by simp [← hlength]) tail (c :: before) rfl]
        simp

/-- An element around an escaped text gives the event of that text. -/
theorem read_leaf {name : String} {text : List Char} {event : Event}
    (hname : Markup.IsTagName name.toList)
    (hkind : Element.ofName? name.toList = some (.scalar kind))
    (hevent : kind.event text = .ok event) (rest : List UInt8) :
    (⟨names, none⟩ : Nesting).read
        (Markup.lexemes (Utf8.encode (Writer.leaf name (Writer.escape text)) ++ rest)) =
      ((⟨names, none⟩ : Nesting).read (Markup.lexemes rest)).behind [event] := by
  have hopen : (⟨names, none⟩ : Nesting).step (.opening name.toList) =
      .ok (⟨name.toList :: names, some (kind, [])⟩, []) := by
    simp [step, openElement, hkind]
  have hclose : (⟨name.toList :: names, some (kind, text.reverse ++ [])⟩ : Nesting).step
      (.closing name.toList) = .ok (⟨names, none⟩, [event]) := by
    simp only [step, closeElement, List.append_nil, List.reverse_reverse, hevent, ne_eq,
      not_true_eq_false, if_false]
    rfl
  have hbytes : Utf8.encode (Writer.leaf name (Writer.escape text)) ++ rest =
      Utf8.encode ('<' :: name.toList ++ ['>']) ++ (Utf8.encode (Writer.escape text) ++
        (Utf8.encode ('<' :: '/' :: name.toList ++ ['>']) ++ rest)) := by
    simp [Writer.leaf, Utf8.encode_append, Utf8.encode_cons]
  rw [hbytes, hname.lexemes_opening, read_cons hopen (by simp), Reading.behind_nil,
    read_escape (by rfl), hname.lexemes_closing, read_cons hclose (by simp)]

end Nesting

theorem Integer.ofText?_decimalText {n : Int} (h : Integer.inRange n = true) :
    Integer.ofText? (Writer.decimalText n) = some n := by
  have hsigned : Number.ofSigned? Number.ofDecimal? (Writer.decimalText n) = some n := by
    cases n with
    | ofNat n =>
      have hdigit : ∀ c ∈ Number.decimal n, c.isDigit = true :=
        fun c hmem => Writer.isDigit_of_mem_decimal hmem
      have hread := Number.ofDecimal?_decimal n
      rw [Writer.decimalText]
      cases htext : Number.decimal n with
      | nil => simp [htext, Number.ofDecimal?] at hread
      | cons c text =>
        rw [htext] at hdigit hread
        have hc := hdigit c (List.mem_cons_self)
        have hminus : c ≠ '-' := by
          rintro rfl
          exact absurd hc (by decide)
        have hplus : c ≠ '+' := by
          rintro rfl
          exact absurd hc (by decide)
        simp [Number.ofSigned?, Number.ofUnsigned?, hminus, hplus, hread]
    | negSucc n =>
      rw [Writer.decimalText, Number.ofSigned?, Number.ofDecimal?_decimal]
      rfl
  have hmark : ∀ rest, Writer.decimalText n ≠ '0' :: 'x' :: rest := by
    intro rest htext
    cases n with
    | ofNat n =>
      have hx : 'x' ∈ Number.decimal n := by
        rw [show Number.decimal n = '0' :: 'x' :: rest from htext]
        simp
      exact absurd (Writer.isDigit_of_mem_decimal hx) (by decide)
    | negSucc n => simp [Writer.decimalText] at htext
  unfold Integer.ofText?
  split
  · next rest htext => exact absurd htext (hmark rest)
  · rw [hsigned, Option.filter_some, if_pos h]

end Tethered.Plist
