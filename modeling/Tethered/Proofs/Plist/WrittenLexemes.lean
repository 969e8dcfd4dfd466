import Mathlib.Data.List.TakeWhile
import Tethered.Plist.Elements
import Tethered.Plist.Writer
import Tethered.Proofs.Text.Encoding

/-!
# The lexemes of written markup

A written tag, reference or stretch of text is one piece each, whatever follows it,
so the lexemes of a document can be followed piece by piece. The names in tags and
references are those that a writer uses: they hold no mark, quotation or blank.
-/
namespace Tethered.Plist

open Text

namespace Markup

theorem lexemes_of_next {byte : UInt8} {rest : List UInt8} {found : List Lexeme} {count : Nat}
    (h : next byte rest = .ok (found, count)) :
    lexemes (byte :: rest) = found ++ lexemes (rest.drop count) := by
  rw [lexemes, h]

theorem decoded_encode (text : List Char) : decoded (Utf8.encode text) = .ok text := by
  rw [decoded, Utf8.decode?_encode]
  rfl

/-! ## Markup -/

/-- Markup in angle brackets, by its form and what stands between the brackets. -/
theorem lexemes_markup {inside : List Char} {form : Form} {found : List Lexeme}
    {rest : List UInt8}
    (hform : form? (Utf8.encode inside ++ '>'.toUInt8 :: rest) =
      some (form, (Utf8.encode inside).length + 1))
    (hfound : form.lexemes inside = .ok found) :
    lexemes (Utf8.encode ('<' :: inside ++ ['>']) ++ rest) = found ++ lexemes rest := by
  have hbytes : Utf8.encode ('<' :: inside ++ ['>']) ++ rest =
      '<'.toUInt8 :: (Utf8.encode inside ++ '>'.toUInt8 :: rest) := by
    rw [Utf8.encode_append, Utf8.encode_cons, List.append_assoc, List.append_assoc]
    rfl
  have hnext : next '<'.toUInt8 (Utf8.encode inside ++ '>'.toUInt8 :: rest) =
      .ok (found, (Utf8.encode inside).length + 1) := by
    have hmarkup : markup (Utf8.encode inside ++ '>'.toUInt8 :: rest) =
        .ok (found, (Utf8.encode inside).length + 1) := by
      rw [markup, hform]
      simp only [Nat.add_sub_cancel, List.take_left, decoded_encode]
      exact congrArg (Except.map (·, (Utf8.encode inside).length + 1)) hfound
    exact hmarkup
  rw [hbytes, lexemes_of_next hnext, List.drop_append, Nat.add_sub_cancel_left,
    List.drop_of_length_le (Nat.le_succ _)]
  rfl

/-- A byte that neither ends a tag nor begins a quotation in one. -/
def isPlain (byte : UInt8) : Bool :=
  byte != '>'.toUInt8 && byte != '"'.toUInt8 && byte != '\x27'.toUInt8

theorem tag?_plain {inside : List UInt8} (h : inside.all isPlain = true) (seen : Nat)
    (rest : List UInt8) :
    Extent.tag? seen none (inside ++ '>'.toUInt8 :: rest) = some (seen + inside.length + 1) := by
  induction inside generalizing seen with
  | nil => exact if_pos ⟨rfl, rfl⟩
  | cons byte inside ih =>
    obtain ⟨hbyte, hinside⟩ := Bool.and_eq_true_iff.mp (List.all_cons.symm.trans h)
    simp only [isPlain, Bool.and_eq_true, bne_iff_ne, ne_eq] at hbyte
    obtain ⟨⟨hclose, hdouble⟩, hsingle⟩ := hbyte
    have hquotation : Extent.quotationAfter byte none = none :=
      if_neg (not_or.mpr ⟨hdouble, hsingle⟩)
    rw [List.cons_append, Extent.tag?, if_neg (fun hand => hclose hand.2), hquotation,
      ih hinside, List.length_cons]
    congr 1
    omega

/-- A byte that can begin the name of an element. -/
def beginsName (byte : UInt8) : Bool :=
  byte != '!'.toUInt8 && byte != '?'.toUInt8 && byte != '/'.toUInt8

/-- A name that can stand in a tag as it is. -/
structure IsTagName (name : List Char) : Prop where
  plain : (Utf8.encode name).all isPlain = true
  solid : ∀ c ∈ name, isTagBlank c = false
  begins : (Utf8.encode name).head?.any beginsName = true
  ends : name.getLast? ≠ some '/'

-- the characters of the name are gone through, not all characters
instance (name : List Char) : Decidable (IsTagName name) :=
  decidable_of_iff ((Utf8.encode name).all isPlain = true ∧
      name.all (fun c => !isTagBlank c) = true ∧
      (Utf8.encode name).head?.any beginsName = true ∧ name.getLast? ≠ some '/')
    ⟨fun h => ⟨h.1, by simpa using h.2.1, h.2.2.1, h.2.2.2⟩,
      fun h => ⟨h.plain, by simpa using h.solid, h.begins, h.ends⟩⟩

namespace IsTagName

variable {name : List Char}

theorem tagName_eq (h : IsTagName name) : tagName name = name :=
  List.takeWhile_eq_self_iff.mpr fun c hmem => by simp [h.solid c hmem]

/-- What begins with a name is the inside of an opening tag. -/
theorem form?_opening (h : IsTagName name) {ending : List Char}
    (hending : (Utf8.encode ending).all isPlain = true) (rest : List UInt8) :
    form? (Utf8.encode (name ++ ending) ++ '>'.toUInt8 :: rest) =
      some (.opening, (Utf8.encode (name ++ ending)).length + 1) := by
  obtain ⟨byte, hhead, hbegins⟩ := (Option.any_eq_true _ _).mp h.begins
  obtain ⟨tail, hbytes⟩ := List.head?_eq_some_iff.mp hhead
  simp only [beginsName, Bool.and_eq_true, bne_iff_ne, ne_eq] at hbegins
  obtain ⟨⟨hmark, hquestion⟩, hslash⟩ := hbegins
  have hplain : (Utf8.encode (name ++ ending)).all isPlain = true := by
    rw [Utf8.encode_append, List.all_append, h.plain, hending]
    rfl
  have htag := tag?_plain hplain 0 rest
  rw [Utf8.encode_append, hbytes, List.cons_append] at htag ⊢
  rw [List.cons_append, form?, if_neg hmark, if_neg hquestion, if_neg hslash,
    ← List.cons_append, htag, Nat.zero_add]
  rfl

theorem lexemes_opening (h : IsTagName name) (rest : List UInt8) :
    lexemes (Utf8.encode ('<' :: name ++ ['>']) ++ rest) = .opening name :: lexemes rest := by
  have hfound : Form.opening.lexemes name = .ok [.opening name] := by
    rw [Form.lexemes, openingLexemes, if_neg h.ends, h.tagName_eq]
  have hending : (Utf8.encode []).all isPlain = true := rfl
  have hform := h.form?_opening hending rest
  rw [List.append_nil] at hform
  exact lexemes_markup hform hfound

theorem lexemes_closing (h : IsTagName name) (rest : List UInt8) :
    lexemes (Utf8.encode ('<' :: '/' :: name ++ ['>']) ++ rest) =
      .closing name :: lexemes rest := by
  have hform : form? (Utf8.encode ('/' :: name) ++ '>'.toUInt8 :: rest) =
      some (.closing, (Utf8.encode ('/' :: name)).length + 1) := by
    have htag := tag?_plain h.plain 1 rest
    have hbytes : Utf8.encode ('/' :: name) = '/'.toUInt8 :: Utf8.encode name := rfl
    rw [hbytes, List.cons_append, form?, if_neg (by decide), if_neg (by decide), if_pos rfl, htag,
      List.length_cons, Nat.add_comm 1]
    rfl
  have hsolid : name.reverse.dropWhile isTagBlank = name.reverse := by
    refine List.dropWhile_eq_self_iff.mpr fun hpos => ?_
    rw [h.solid _ (List.mem_reverse.mp (List.getElem_mem hpos))]
    decide
  have hfound : Form.closing.lexemes ('/' :: name) = .ok [.closing name] := by
    rw [Form.lexemes, closingLexeme, List.drop_one, List.tail_cons, hsolid, List.reverse_reverse]
  exact lexemes_markup hform hfound

theorem lexemes_empty (h : IsTagName name) (rest : List UInt8) :
    lexemes (Utf8.encode ('<' :: name ++ ['/', '>']) ++ rest) =
      .opening name :: .closing name :: lexemes rest := by
  have hfound : Form.opening.lexemes (name ++ ['/']) = .ok [.opening name, .closing name] := by
    rw [Form.lexemes, openingLexemes, if_pos (by simp), List.dropLast_concat, h.tagName_eq]
  have hending : (Utf8.encode ['/']).all isPlain = true := by decide
  have hsplit : '<' :: name ++ ['/', '>'] = '<' :: (name ++ ['/']) ++ ['>'] := by simp
  rw [hsplit]
  exact lexemes_markup (h.form?_opening hending rest) hfound

end IsTagName

theorem isTagName_of_mem : ∀ entry ∈ Element.byName, IsTagName entry.1.toList := by
  decide +kernel

/-! ## Text -/

theorem not_endsText_of_mem {text : List Char} (h : ∀ c ∈ text, c ≠ '<' ∧ c ≠ '&') {byte : UInt8}
    (hmem : byte ∈ Utf8.encode text) : endsText byte = false := by
  rw [Bool.eq_false_iff]
  intro hends
  simp only [endsText, Bool.or_eq_true, beq_iff_eq] at hends
  rcases hends with rfl | rfl
  · exact (h '<' (Utf8.mem_of_mem_encode hmem (by decide))).1 rfl
  · exact (h '&' (Utf8.mem_of_mem_encode hmem (by decide))).2 rfl

/-- A stretch of text reaches to the next byte that begins markup or a reference. -/
theorem lexemes_text {text : List Char} {rest : List UInt8} (hne : text ≠ [])
    (htext : ∀ c ∈ text, c ≠ '<' ∧ c ≠ '&') (hrest : rest.head?.all endsText = true) :
    lexemes (Utf8.encode text ++ rest) = .text text :: lexemes rest := by
  obtain ⟨byte, tail, hbytes⟩ := List.exists_cons_of_ne_nil (Utf8.encode_ne_nil hne)
  have hclean : ∀ byte ∈ Utf8.encode text, endsText byte = false :=
    fun byte hmem => not_endsText_of_mem htext hmem
  rw [hbytes] at hclean
  obtain ⟨hbyte, htail⟩ := List.forall_mem_cons.mp hclean
  have hbehind : (tail ++ rest).takeWhile (fun b => !endsText b) = tail := by
    have hstop : rest.takeWhile (fun b => !endsText b) = [] := by
      cases rest with
      | nil => rfl
      | cons first rest =>
        have hfirst : endsText first = true := hrest
        simp [hfirst]
    rw [List.takeWhile_append_of_pos (fun b hmem => by simp [htail b hmem]), hstop, List.append_nil]
  have hstretch : stretch byte (tail ++ rest) = .ok ([.text text], tail.length) := by
    rw [stretch, hbehind, ← hbytes, decoded_encode]
    rfl
  have hnext : next byte (tail ++ rest) = .ok ([.text text], tail.length) := by
    simp only [endsText, Bool.or_eq_false_iff, beq_eq_false_iff_ne] at hbyte
    rw [next, if_neg hbyte.1, if_neg hbyte.2, hstretch]
  rw [hbytes, List.cons_append, lexemes_of_next hnext, List.drop_left]
  rfl

/-- A reference with a name that holds no mark. -/
theorem lexemes_reference {name : List Char}
    (hname : ∀ c ∈ name, (c ≠ '<' ∧ c ≠ '&') ∧ c ≠ ';') (rest : List UInt8) :
    lexemes (Utf8.encode ('&' :: name ++ [';']) ++ rest) = .reference name :: lexemes rest := by
  have hbytes : Utf8.encode ('&' :: name ++ [';']) ++ rest =
      '&'.toUInt8 :: (Utf8.encode name ++ ';'.toUInt8 :: rest) := by
    rw [Utf8.encode_append, Utf8.encode_cons, List.append_assoc, List.append_assoc]
    rfl
  have hinside : (Utf8.encode name ++ ';'.toUInt8 :: rest).takeWhile
      (fun b => !(endsText b || b == ';'.toUInt8)) = Utf8.encode name := by
    have hclean : ∀ byte ∈ Utf8.encode name, (!(endsText byte || byte == ';'.toUInt8)) = true := by
      intro byte hmem
      have hends := not_endsText_of_mem (fun c hc => (hname c hc).1) hmem
      have hclose : byte ≠ ';'.toUInt8 := by
        rintro rfl
        exact (hname ';' (Utf8.mem_of_mem_encode hmem (by decide))).2 rfl
      simp [hends, hclose]
    rw [List.takeWhile_append_of_pos hclean, List.takeWhile_cons_of_neg (by simp), List.append_nil]
  have hreference : reference (Utf8.encode name ++ ';'.toUInt8 :: rest) =
      .ok ([.reference name], (Utf8.encode name).length + 1) := by
    unfold reference
    simp only [hinside, decoded_encode]
    refine if_pos ?_
    rw [List.getElem?_append_right (Nat.le_refl _), Nat.sub_self]
    rfl
  have hnext : next '&'.toUInt8 (Utf8.encode name ++ ';'.toUInt8 :: rest) =
      .ok ([.reference name], (Utf8.encode name).length + 1) := hreference
  rw [hbytes, lexemes_of_next hnext, List.drop_append, Nat.add_sub_cancel_left,
    List.drop_of_length_le (Nat.le_succ _)]
  rfl

end Markup

end Tethered.Plist
