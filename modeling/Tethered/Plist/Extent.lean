/-!
# How far a piece of markup reaches

The end of a piece is looked for in bytes: every mark that can end one is ASCII,
so the bytes of longer characters never matter here. Each function counts the
bytes through the end of a piece and has no answer where the input ends first.
Quotations hide the end of a tag; a document type declaration may in addition
carry an internal subset between brackets, with markup of its own. Whether a
piece is well formed or even UTF-8 is not asked.
-/
namespace Tethered.Plist

/-- Bytes as the text of an ASCII string writes them. -/
def asciiBytes (text : String) : List UInt8 := text.toUTF8.toList

namespace Extent

/-- The count of bytes through the first occurrence of a mark, when `seen` bytes
came before. -/
def through? (mark : List UInt8) (seen : Nat) : List UInt8 → Option Nat
  | [] => none
  | byte :: rest =>
      if mark.isPrefixOf (byte :: rest) then some (seen + mark.length)
      else through? mark (seen + 1) rest

/-- The quotation mark under way behind a byte. -/
def quotationAfter (byte : UInt8) : Option UInt8 → Option UInt8
  | some mark => if byte = mark then none else some mark
  | none => if byte = '"'.toUInt8 ∨ byte = '\x27'.toUInt8 then some byte else none

/-- The count of bytes through the `>` that no quotation hides, when `seen` bytes
came before and `quotation` is under way. -/
def tag? (seen : Nat) (quotation : Option UInt8) : List UInt8 → Option Nat
  | [] => none
  | byte :: rest =>
      if quotation = none ∧ byte = '>'.toUInt8 then some (seen + 1)
      else tag? (seen + 1) (quotationAfter byte quotation) rest

/-- Whether a declaration inside a subset may hold quotations. -/
def mayQuote (bytes : List UInt8) : Bool :=
  ["!ENTITY", "!ATTLIST", "!NOTATION"].any fun word => (asciiBytes word).isPrefixOf bytes

/-- Markup inside a subset, counted from behind its `<`: a comment, a processing
instruction, a declaration with quotations, or anything up to the next `>`. -/
def subsetMarkup? (seen : Nat) (bytes : List UInt8) : Option Nat :=
  if (asciiBytes "!--").isPrefixOf bytes then
    through? (asciiBytes "-->") (seen + 3) (bytes.drop 3)
  else if (asciiBytes "?").isPrefixOf bytes then
    through? (asciiBytes "?>") (seen + 1) (bytes.drop 1)
  else if mayQuote bytes then tag? seen none bytes
  else through? (asciiBytes ">") seen bytes

/-- The count of bytes through the `]` that ends a subset. Between its markup no
other byte has a meaning. -/
def subset? (seen : Nat) : List UInt8 → Option Nat
  | [] => none
  | byte :: rest =>
      if byte = ']'.toUInt8 then some (seen + 1)
      else if byte = '<'.toUInt8 then
        match subsetMarkup? (seen + 1) rest with
        | none => none
        | some count => subset? count (rest.drop (count - (seen + 1)))
      else subset? (seen + 1) rest
termination_by bytes => bytes.length
decreasing_by
  all_goals simp only [List.length_drop, List.length_cons]; omega

/-- The count of bytes through the end of a document type declaration. Quotations
count before the subset only. -/
def documentType? (seen : Nat) (quotation : Option UInt8) : List UInt8 → Option Nat
  | [] => none
  | byte :: rest =>
      if quotation = none ∧ byte = '>'.toUInt8 then some (seen + 1)
      else if quotation = none ∧ byte = '['.toUInt8 then
        (subset? (seen + 1) rest).bind fun count =>
          through? (asciiBytes ">") count (rest.drop (count - (seen + 1)))
      else documentType? (seen + 1) (quotationAfter byte quotation) rest

end Extent

end Tethered.Plist
