/-!
# Blank characters, lines and words

Tool output is cut into lines at newlines and into words at blank characters.
Blank means the Unicode property `White_Space`, which is wider than the ASCII
blanks of `Char.isWhitespace`. A carriage return is blank but does not end a
line. Nothing here bounds the length of a piece.
-/
namespace Tethered.Text

/-- The Unicode property `White_Space`. -/
def isBlank (c : Char) : Bool :=
  let n := c.toNat
  (0x9 ≤ n && n ≤ 0xD) || n == 0x20 || n == 0x85 || n == 0xA0 || n == 0x1680 ||
    (0x2000 ≤ n && n ≤ 0x200A) || n == 0x2028 || n == 0x2029 || n == 0x202F ||
    n == 0x205F || n == 0x3000

/-- One step from the right: a separator opens a new piece, any other character
joins the piece that follows it. -/
def joinPiece (isSeparator : Char → Bool) (c : Char) : List (List Char) → List (List Char)
  | [] => if isSeparator c then [[], []] else [[c]]
  | piece :: pieces =>
      if isSeparator c then [] :: piece :: pieces else (c :: piece) :: pieces

/-- The possibly empty stretches between separators, in order. A text without a
separator is one piece, so the result is never empty. -/
def pieces (isSeparator : Char → Bool) (text : List Char) : List (List Char) :=
  text.foldr (joinPiece isSeparator) [[]]

@[simp] theorem pieces_nil (p : Char → Bool) : pieces p [] = [[]] := rfl

@[simp] theorem pieces_cons (p : Char → Bool) (c : Char) (text : List Char) :
    pieces p (c :: text) = joinPiece p c (pieces p text) := rfl

/-- The stretches between newlines. -/
def lines (text : List Char) : List (List Char) := pieces (· == '\n') text

/-- The maximal runs of characters that are not blank. -/
def words (text : List Char) : List (List Char) :=
  (pieces isBlank text).filter (fun piece => !piece.isEmpty)

/-- The text without the run of characters satisfying `p` at its end. -/
def dropEndWhile (p : Char → Bool) (text : List Char) : List Char :=
  (text.reverse.dropWhile p).reverse

/-- Whether `pattern` occurs somewhere in the text, in one stretch. -/
def occursIn (pattern : List Char) : List Char → Bool
  | [] => pattern.isEmpty
  | c :: rest => pattern.isPrefixOf (c :: rest) || occursIn pattern rest

end Tethered.Text
