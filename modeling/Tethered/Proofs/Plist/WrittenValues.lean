import Tethered.Proofs.Plist.WrittenEvents

/-!
# Written values are the series of their events

The lines of a value are read as the events of the value whatever is open around it
and whatever lines follow. Reading steps over the blanks that begin and end lines, so
what is said of a piece of a document is said in front of anything that may follow a
line. A document is then a series without a fault.
-/
namespace Tethered.Plist

open Text

/-! ## Elements -/

namespace Element

theorem ofName?_of_mem : ∀ entry ∈ byName, ofName? entry.1.toList = some entry.2 := by
  decide +kernel

theorem array_mem : ("array", array) ∈ byName := by decide

theorem dictionary_mem : ("dict", dictionary) ∈ byName := by decide

/-- The event that begins a collection. -/
def start? : Element → Option Event
  | array => some .startArray
  | dictionary => some .startDictionary
  | _ => none

end Element

namespace Nesting
variable {name : String} {element : Element} {start : Event} {names : List (List Char)}

theorem step_opening_collection (hmem : (name, element) ∈ Element.byName)
    (hstart : element.start? = some start) :
    (⟨names, none⟩ : Nesting).step (.opening name.toList) =
      .ok (⟨name.toList :: names, none⟩, [start]) := by
  have helement := Element.ofName?_of_mem _ hmem
  cases element <;> cases hstart <;> simp [step, openElement, helement]

theorem step_closing_collection (hmem : (name, element) ∈ Element.byName)
    (hstart : element.start? = some start) :
    (⟨name.toList :: names, none⟩ : Nesting).step (.closing name.toList) =
      .ok (⟨names, none⟩, [.endCollection]) := by
  have helement := Element.ofName?_of_mem _ hmem
  cases element <;> cases hstart <;> simp [step, closeElement, helement]

end Nesting

/-! ## Lines -/

/-- What may follow a line: blanks up to markup or the end. -/
def Opens (rest : List UInt8) : Prop :=
  ∃ blanks behind, rest = Utf8.encode blanks ++ behind ∧
    (∀ c ∈ blanks, c = '\t' ∨ c = '\n') ∧ behind.head?.all Markup.endsText = true

theorem opens_of_head? {rest : List UInt8} (h : rest.head?.all Markup.endsText = true) :
    Opens rest :=
  ⟨[], rest, rfl, by simp, h⟩

theorem Opens.blanks {blanks : List Char} {rest : List UInt8} (h : Opens rest)
    (hblanks : ∀ c ∈ blanks, c = '\t' ∨ c = '\n') : Opens (Utf8.encode blanks ++ rest) := by
  obtain ⟨more, behind, rfl, hmore, hbehind⟩ := h
  refine ⟨blanks ++ more, behind, by simp, fun c hmem => ?_, hbehind⟩
  rcases List.mem_append.mp hmem with hmem | hmem
  · exact hblanks c hmem
  · exact hmore c hmem

namespace Nesting
variable {names : List (List Char)}

theorem read_blanks_endsText {blanks : List Char} {rest : List UInt8}
    (hblanks : ∀ c ∈ blanks, c = '\t' ∨ c = '\n')
    (hrest : rest.head?.all Markup.endsText = true) :
    (⟨names, none⟩ : Nesting).read (Markup.lexemes (Utf8.encode blanks ++ rest)) =
      (⟨names, none⟩ : Nesting).read (Markup.lexemes rest) := by
  by_cases hne : blanks = []
  · rw [hne]
    rfl
  have hplain : ∀ c ∈ blanks, c ≠ '<' ∧ c ≠ '&' := by
    intro c hmem
    rcases hblanks c hmem with rfl | rfl <;> decide
  have hblank : blanks.all Text.isBlank = true := by
    refine List.all_eq_true.mpr fun c hmem => ?_
    rcases hblanks c hmem with rfl | rfl <;> decide
  have hstep : (⟨names, none⟩ : Nesting).step (.text blanks) = .ok (⟨names, none⟩, []) := by
    simp only [step, addText, if_pos hblank]
    rfl
  rw [Markup.lexemes_text hne hplain hrest, read_cons hstep (by simp), Reading.behind_nil]

/-- Blanks between lines are stepped over. -/
theorem read_blanks {blanks : List Char} {rest : List UInt8}
    (hblanks : ∀ c ∈ blanks, c = '\t' ∨ c = '\n') (hrest : Opens rest) :
    (⟨names, none⟩ : Nesting).read (Markup.lexemes (Utf8.encode blanks ++ rest)) =
      (⟨names, none⟩ : Nesting).read (Markup.lexemes rest) := by
  obtain ⟨more, behind, rfl, hmore, hbehind⟩ := hrest
  have hall : ∀ c ∈ blanks ++ more, c = '\t' ∨ c = '\n' := fun c hmem =>
    (List.mem_append.mp hmem).elim (hblanks c) (hmore c)
  rw [← List.append_assoc, ← Utf8.encode_append, read_blanks_endsText hall hbehind,
    read_blanks_endsText hmore hbehind]

end Nesting

/-- A stretch of text that turns the open elements from `first` to `last` and gives
some events, whatever may follow it. -/
structure Reads (first : List (List Char)) (text : List Char) (events : List Event)
    (last : List (List Char)) : Prop where
  opens : ∀ rest, Opens rest → Opens (Utf8.encode text ++ rest)
  read : ∀ rest, Opens rest →
    (⟨first, none⟩ : Nesting).read (Markup.lexemes (Utf8.encode text ++ rest)) =
      ((⟨last, none⟩ : Nesting).read (Markup.lexemes rest)).behind events

namespace Reads
variable {first middle last : List (List Char)}

theorem nil : Reads first [] [] first := ⟨fun _ h => h, fun _ _ => rfl⟩

theorem append {before after : List Char} {start more : List Event}
    (hbefore : Reads first before start middle) (hafter : Reads middle after more last) :
    Reads first (before ++ after) (start ++ more) last := by
  constructor
  · intro rest hrest
    rw [Utf8.encode_append, List.append_assoc]
    exact hbefore.opens _ (hafter.opens rest hrest)
  · intro rest hrest
    rw [Utf8.encode_append, List.append_assoc, hbefore.read _ (hafter.opens rest hrest),
      hafter.read rest hrest, Reading.behind_behind]

/-- A line of markup, from the reading of the markup itself. -/
theorem line {content : List Char} {events : List Event} (hmark : content.head? = some '<')
    (hread : ∀ rest, (⟨first, none⟩ : Nesting).read
        (Markup.lexemes (Utf8.encode content ++ rest)) =
      ((⟨last, none⟩ : Nesting).read (Markup.lexemes rest)).behind events) (depth : Nat) :
    Reads first (Writer.line depth content) events last := by
  obtain ⟨tail, rfl⟩ := List.head?_eq_some_iff.mp hmark
  have htabs : ∀ c ∈ List.replicate depth '\t', c = '\t' ∨ c = '\n' :=
    fun c hmem => .inl (List.eq_of_mem_replicate hmem)
  have hnewline : ∀ c ∈ ['\n'], c = '\t' ∨ c = '\n' := by simp
  have hmarkup (rest : List UInt8) : Opens (Utf8.encode ('<' :: tail) ++ rest) :=
    opens_of_head? rfl
  have hbytes (rest : List UInt8) : Utf8.encode (Writer.line depth ('<' :: tail)) ++ rest =
      Utf8.encode (List.replicate depth '\t') ++
        (Utf8.encode ('<' :: tail) ++ (Utf8.encode ['\n'] ++ rest)) := by
    simp only [Writer.line, Utf8.encode_append, List.append_assoc]
  constructor
  · intro rest hrest
    rw [hbytes]
    exact (hmarkup _).blanks htabs
  · intro rest hrest
    rw [hbytes, Nesting.read_blanks htabs (hmarkup _), hread, Nesting.read_blanks hnewline hrest]

section
variable {name : String} {element : Element} {start : Event} (depth : Nat)

theorem leaf {kind : Scalar} {text : List Char} {event : Event}
    (hmem : (name, .scalar kind) ∈ Element.byName) (hevent : kind.event text = .ok event) :
    Reads first (Writer.line depth (Writer.leaf name (Writer.escape text))) [event] first :=
  line rfl (Nesting.read_leaf (Markup.isTagName_of_mem _ hmem) (Element.ofName?_of_mem _ hmem)
    hevent) depth

/-- A tag that is opened and closed at once. -/
theorem emptyElement (hmem : (name, element) ∈ Element.byName) {begun ended : List Event}
    (hopen : (⟨first, none⟩ : Nesting).step (.opening name.toList) =
      .ok (⟨middle, none⟩, begun))
    (hclose : (⟨middle, none⟩ : Nesting).step (.closing name.toList) =
      .ok (⟨last, none⟩, ended)) :
    Reads first (Writer.line depth (Writer.emptyElement name)) (begun ++ ended) last := by
  refine line rfl (fun rest => ?_) depth
  have hlexemes := (Markup.isTagName_of_mem _ hmem).lexemes_empty rest
  have hempty : (⟨middle, none⟩ : Nesting).read (.closing name.toList :: Markup.lexemes rest) =
      ((⟨last, none⟩ : Nesting).read (Markup.lexemes rest)).behind ended :=
    Nesting.read_cons hclose (by simp)
  rw [← Reading.behind_behind, ← hempty]
  exact (congrArg _ hlexemes).trans (Nesting.read_cons hopen (by simp))

theorem truth {value : Bool} (hmem : (name, .truth value) ∈ Element.byName) :
    Reads first (Writer.line depth (Writer.emptyElement name)) [.boolean value] first := by
  have helement := Element.ofName?_of_mem _ hmem
  have hopen : (⟨first, none⟩ : Nesting).step (.opening name.toList) =
      .ok (⟨name.toList :: first, none⟩, [.boolean value]) := by
    simp [Nesting.step, Nesting.openElement, helement]
  have hclose : (⟨name.toList :: first, none⟩ : Nesting).step (.closing name.toList) =
      .ok (⟨first, none⟩, []) := by
    simp [Nesting.step, Nesting.closeElement, helement]
  exact emptyElement depth hmem hopen hclose

theorem emptyCollection (hmem : (name, element) ∈ Element.byName)
    (hstart : element.start? = some start) :
    Reads first (Writer.line depth (Writer.emptyElement name)) [start, .endCollection] first :=
  emptyElement depth hmem (Nesting.step_opening_collection hmem hstart)
    (Nesting.step_closing_collection hmem hstart)

/-- The lines of a collection around lines that are already written. -/
theorem collection (hmem : (name, element) ∈ Element.byName)
    (hstart : element.start? = some start) {inside : List Char} {events : List Event}
    (hinside : Reads (name.toList :: first) inside events (name.toList :: first)) :
    Reads first (Writer.block depth name inside) (start :: events ++ [.endCollection]) first := by
  have hopening : Reads first (Writer.line depth (['<'] ++ name.toList ++ ['>'])) [start]
      (name.toList :: first) := by
    refine line rfl (fun rest => ?_) depth
    have hlexemes := (Markup.isTagName_of_mem _ hmem).lexemes_opening rest
    exact (congrArg _ hlexemes).trans
      (Nesting.read_cons (Nesting.step_opening_collection hmem hstart) (by simp))
  have hclosing : Reads (name.toList :: first)
      (Writer.line depth (['<', '/'] ++ name.toList ++ ['>'])) [.endCollection] first := by
    refine line rfl (fun rest => ?_) depth
    have hlexemes := (Markup.isTagName_of_mem _ hmem).lexemes_closing rest
    exact (congrArg _ hlexemes).trans
      (Nesting.read_cons (Nesting.step_closing_collection hmem hstart) (by simp))
  exact (hopening.append hinside).append hclosing

end

end Reads

/-! ## Values -/

namespace Value

mutual

/-- Whether every integer in a value is one that a property list admits. -/
def isStorable : Value → Bool
  | .string _ => true
  | .integer value => Integer.inRange value
  | .boolean _ => true
  | .array items => areStorable items
  | .dictionary entries => entriesAreStorable entries

def areStorable : List Value → Bool
  | [] => true
  | item :: rest => item.isStorable && areStorable rest

def entriesAreStorable : List (String × Value) → Bool
  | [] => true
  | (_, value) :: rest => value.isStorable && entriesAreStorable rest

end

end Value

theorem event_string (text : String) : Scalar.string.event text.toList = .ok (.string text) :=
  congrArg (Except.ok ∘ Event.string) String.ofList_toList

mutual

/-- The lines of a value are read as its events, whatever elements are open. -/
theorem reads_value (value : Value) (h : value.isStorable = true) (depth : Nat)
    (names : List (List Char)) : Reads names (Writer.value depth value) value.events names := by
  match value with
  | .string text => exact .leaf depth (by decide) (event_string text)
  | .integer n =>
    have hevent : Scalar.integer.event (Writer.decimalText n) = .ok (.integer n) := by
      rw [Scalar.event, Integer.ofText?_decimalText h]
      rfl
    have hleaf : Reads names (Writer.line depth (Writer.leaf "integer"
        (Writer.escape (Writer.decimalText n)))) [.integer n] names :=
      .leaf depth (by decide) hevent
    rwa [Writer.escape_decimalText] at hleaf
  | .boolean true => exact .truth depth (by decide)
  | .boolean false => exact .truth depth (by decide)
  | .array [] => exact .emptyCollection depth Element.array_mem rfl
  | .array (item :: rest) =>
    exact .collection depth Element.array_mem rfl (reads_items (item :: rest) h (depth + 1) _)
  | .dictionary [] => exact .emptyCollection depth Element.dictionary_mem rfl
  | .dictionary (entry :: rest) =>
    exact .collection depth Element.dictionary_mem rfl
      (reads_entries (entry :: rest) h (depth + 1) _)

theorem reads_items (items : List Value) (h : Value.areStorable items = true) (depth : Nat)
    (names : List (List Char)) :
    Reads names (Writer.items depth items) (Value.itemEvents items) names := by
  match items with
  | [] => exact .nil
  | item :: rest =>
    obtain ⟨hitem, hrest⟩ := Bool.and_eq_true_iff.mp h
    exact (reads_value item hitem depth names).append (reads_items rest hrest depth names)

theorem reads_entries (entries : List (String × Value))
    (h : Value.entriesAreStorable entries = true) (depth : Nat) (names : List (List Char)) :
    Reads names (Writer.entries depth entries) (Value.entryEvents entries) names := by
  match entries with
  | [] => exact .nil
  | (key, value) :: rest =>
    obtain ⟨hvalue, hrest⟩ := Bool.and_eq_true_iff.mp h
    have hkey : Reads names (Writer.line depth (Writer.leaf "key" (Writer.escape key.toList)))
        [.string key] names :=
      .leaf depth (by decide) (event_string key)
    exact (hkey.append (reads_value value hvalue depth names)).append
      (reads_entries rest hrest depth names)

end

/-! ## Documents -/

namespace Writer

/-- What stands between the brackets of the version declaration. -/
def versionInside : List Char := "?xml version=\"1.0\" encoding=\"UTF-8\"?".toList

def documentTypeInside : List Char :=
  ("!DOCTYPE plist PUBLIC \"" ++ publicIdentifier ++ "\" \"" ++ systemIdentifier ++ "\"").toList

def rootInside : List Char := "plist version=\"1.0\"".toList

theorem document_eq (root : Value) :
    document root = ('<' :: versionInside ++ ['>']) ++ (['\n'] ++
      (('<' :: documentTypeInside ++ ['>']) ++ (['\n'] ++
        (('<' :: rootInside ++ ['>']) ++ (['\n'] ++
          (value 0 root ++ ('<' :: '/' :: "plist".toList ++ ['>']))))))) := by
  have hprologue : prologue = ('<' :: versionInside ++ ['>']) ++ ['\n'] ++
      ('<' :: documentTypeInside ++ ['>']) ++ ['\n'] := by decide +kernel
  have hroot : "<plist version=\"1.0\">\n".toList =
      ('<' :: rootInside ++ ['>']) ++ ['\n'] := by decide +kernel
  have hend : "</plist>".toList = '<' :: '/' :: "plist".toList ++ ['>'] := by decide +kernel
  rw [document, hprologue, hroot, hend]
  simp only [List.append_assoc]

end Writer

theorem lexemes_version (rest : List UInt8) :
    Markup.lexemes (Utf8.encode ('<' :: Writer.versionInside ++ ['>']) ++ rest) =
      .declaration :: Markup.lexemes rest := by
  have hmark : asciiBytes "?>" = [63, 62] := by decide +kernel
  have hform : Markup.form? (Utf8.encode Writer.versionInside ++ '>'.toUInt8 :: rest) =
      some (.instruction, (Utf8.encode Writer.versionInside).length + 1) := by
    have hunfold : Markup.form? (Utf8.encode Writer.versionInside ++ '>'.toUInt8 :: rest) =
        (Extent.through? (asciiBytes "?>") 1
          (Utf8.encode Writer.versionInside ++ '>'.toUInt8 :: rest).tail).map
            (Markup.Form.instruction, ·) := rfl
    rw [hunfold, hmark]
    rfl
  have hfound : Markup.Form.instruction.lexemes Writer.versionInside = .ok [.declaration] := by
    decide +kernel
  exact Markup.lexemes_markup hform hfound

theorem lexemes_documentType (rest : List UInt8) :
    Markup.lexemes (Utf8.encode ('<' :: Writer.documentTypeInside ++ ['>']) ++ rest) =
      .declaration :: Markup.lexemes rest := by
  have hform : Markup.form? (Utf8.encode Writer.documentTypeInside ++ '>'.toUInt8 :: rest) =
      some (.documentType, (Utf8.encode Writer.documentTypeInside).length + 1) := rfl
  have hfound : Markup.Form.documentType.lexemes Writer.documentTypeInside =
      .ok [.declaration] := by
    decide +kernel
  exact Markup.lexemes_markup hform hfound

theorem lexemes_root (rest : List UInt8) :
    Markup.lexemes (Utf8.encode ('<' :: Writer.rootInside ++ ['>']) ++ rest) =
      .opening "plist".toList :: Markup.lexemes rest := by
  have hform : Markup.form? (Utf8.encode Writer.rootInside ++ '>'.toUInt8 :: rest) =
      some (.opening, (Utf8.encode Writer.rootInside).length + 1) := rfl
  have hfound : Markup.Form.opening.lexemes Writer.rootInside =
      .ok [.opening "plist".toList] := by
    decide +kernel
  exact Markup.lexemes_markup hform hfound

theorem Value.toBytes_eq (root : Value) :
    root.toBytes = Utf8.encode ('<' :: Writer.versionInside ++ ['>']) ++ (Utf8.encode ['\n'] ++
      (Utf8.encode ('<' :: Writer.documentTypeInside ++ ['>']) ++ (Utf8.encode ['\n'] ++
        (Utf8.encode ('<' :: Writer.rootInside ++ ['>']) ++ (Utf8.encode ['\n'] ++
          (Utf8.encode (Writer.value 0 root) ++
            Utf8.encode ('<' :: '/' :: "plist".toList ++ ['>']))))))) := by
  rw [toBytes, Writer.document_eq, Utf8.encode_append ('<' :: Writer.versionInside ++ ['>']),
    Utf8.encode_append ['\n'],
    Utf8.encode_append ('<' :: Writer.documentTypeInside ++ ['>']), Utf8.encode_append ['\n'],
    Utf8.encode_append ('<' :: Writer.rootInside ++ ['>']), Utf8.encode_append ['\n'],
    Utf8.encode_append (Writer.value 0 root)]

namespace Nesting

/-- A declaration gives no event. -/
theorem read_declaration (names : List (List Char)) (rest : List Lexeme) :
    (⟨names, none⟩ : Nesting).read (.declaration :: rest) =
      { (⟨names, none⟩ : Nesting).read rest with declared := true } :=
  rfl

/-- A value inside the root element, and the end of the root element. -/
theorem read_inside_root {value : Value} (h : value.isStorable = true) :
    (⟨["plist".toList], none⟩ : Nesting).read (Markup.lexemes (Utf8.encode ['\n'] ++
      (Utf8.encode (Writer.value 0 value) ++
        Utf8.encode ('<' :: '/' :: "plist".toList ++ ['>'])))) =
      ⟨value.events, none, false⟩ := by
  have hname : Markup.IsTagName "plist".toList := by decide +kernel
  have hreads := reads_value value h 0 ["plist".toList]
  have hopens : Opens (Utf8.encode ('<' :: '/' :: "plist".toList ++ ['>'])) := opens_of_head? rfl
  have hclosing := hname.lexemes_closing []
  have hstep : (⟨["plist".toList], none⟩ : Nesting).step (.closing "plist".toList) =
      .ok (⟨[], none⟩, []) := by
    decide +kernel
  have hend : (⟨["plist".toList], none⟩ : Nesting).read
      (Markup.lexemes (Utf8.encode ('<' :: '/' :: "plist".toList ++ ['>']))) =
        ⟨[], none, false⟩ := by
    rw [List.append_nil] at hclosing
    rw [hclosing, read_cons hstep (by simp), Reading.behind_nil, Markup.lexemes]
    rfl
  rw [read_blanks (by simp) (hreads.opens _ hopens), hreads.read _ hopens, hend, Reading.behind,
    List.append_nil]

theorem read_document {value : Value} (h : value.isStorable = true) :
    empty.read (Markup.lexemes value.toBytes) = ⟨value.events, none, true⟩ := by
  have hstep : (⟨[], none⟩ : Nesting).step (.opening "plist".toList) =
      .ok (⟨["plist".toList], none⟩, []) := by
    decide +kernel
  have hnewline : ∀ c ∈ ['\n'], c = '\t' ∨ c = '\n' := by simp
  rw [Value.toBytes_eq, lexemes_version, empty, read_declaration,
    read_blanks hnewline (opens_of_head? rfl), lexemes_documentType, read_declaration,
    read_blanks hnewline (opens_of_head? rfl), lexemes_root, read_cons hstep (by simp),
    Reading.behind_nil, read_inside_root h]

end Nesting

/-- The bytes of a value are read as its events and nothing else. -/
theorem Series.ofBytes_toBytes {value : Value} (h : value.isStorable = true) :
    Series.ofBytes value.toBytes = ⟨value.events, none⟩ := by
  have hmark : Markup.dropMark value.toBytes = value.toBytes := by
    rw [Value.toBytes_eq]
    rfl
  have hlong : ¬ value.toBytes.length < leastLength := by
    have hversion : leastLength ≤
        (Utf8.encode ('<' :: Writer.versionInside ++ ['>'])).length := by
      decide +kernel
    rw [Value.toBytes_eq, List.length_append]
    omega
  simp only [ofBytes, if_neg hlong, hmark, Nesting.read_document h]
  rfl

end Tethered.Plist
