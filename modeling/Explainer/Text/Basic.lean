/-!
# Texts

A text is a list of characters. Positions that leave the library (the ranges of elements, the
length of a scope) count bytes of the UTF-8 form; this module holds that measure, the cut of a
text at such positions, and the few operations on blanks that every reader below shares.
-/

namespace Explainer

/-- A text, character by character. -/
abbrev Text := List Char

/-- Whether the code point of `c` lies in one of the inclusive ranges. -/
def inRanges (ranges : List (Nat × Nat)) (c : Char) : Bool :=
  ranges.any fun (lo, hi) => lo ≤ c.toNat && c.toNat ≤ hi

/-- The white space of Unicode: the characters that trimming and word splitting drop. -/
def blankRanges : List (Nat × Nat) := [
  (0x9, 0xd), (0x20, 0x20), (0x85, 0x85), (0xa0, 0xa0), (0x1680, 0x1680), (0x2000, 0x200a),
  (0x2028, 0x2029), (0x202f, 0x202f), (0x205f, 0x205f), (0x3000, 0x3000)]

/-- Whether the character is white space. -/
def isBlank (c : Char) : Bool := inRanges blankRanges c

namespace Text

/-- The text without the white space at its start. -/
def trimStart (s : Text) : Text := s.dropWhile isBlank

/-- The text without the white space at its end. -/
def trimEnd (s : Text) : Text := (s.reverse.dropWhile isBlank).reverse

/-- The text without the white space at either end. -/
def trim (s : Text) : Text := trimEnd (trimStart s)

/-- The maximal runs without white space, in order. -/
def words (s : Text) : List Text := (s.splitOnP isBlank).filter fun w => !w.isEmpty

/-- The length in bytes of the UTF-8 form. -/
def utf8Length : Text → Nat
  | [] => 0
  | c :: rest => c.utf8Size + utf8Length rest

@[simp] theorem utf8Length_nil : utf8Length [] = 0 := rfl

@[simp] theorem utf8Length_cons (c : Char) (s : Text) :
    utf8Length (c :: s) = c.utf8Size + utf8Length s := rfl

@[simp] theorem utf8Length_append (s t : Text) :
    utf8Length (s ++ t) = utf8Length s + utf8Length t := by
  induction s with
  | nil => simp
  | cons c rest ih => simp [ih, Nat.add_assoc]

/-- Cuts off the first `n` bytes; `none` if the cut would fall inside a character or beyond the
end. -/
def splitAtByte? : Nat → Text → Option (Text × Text)
  | 0, s => some ([], s)
  | _ + 1, [] => none
  | n + 1, c :: r =>
    if c.utf8Size ≤ n + 1 then
      (splitAtByte? (n + 1 - c.utf8Size) r).map fun (a, b) => (c :: a, b)
    else none

/-- The part from byte `lo` to byte `hi`; `none` unless both are character boundaries of the text
and in order. -/
def slice? (s : Text) (lo hi : Nat) : Option Text :=
  if lo ≤ hi then
    (splitAtByte? lo s).bind fun (_, r) => (splitAtByte? (hi - lo) r).map (·.1)
  else none

/-- The part from byte `lo` to byte `hi`, empty where there is none. -/
def slice (s : Text) (lo hi : Nat) : Text := (slice? s lo hi).getD []

/-- ASCII letters in lower case, every other character as it is. -/
def foldCase (s : Text) : Text := s.map Char.toLower

/-- Whether two texts differ at most in the case of ASCII letters. -/
def sameIgnoringCase (s t : Text) : Bool := foldCase s == foldCase t

/-- The lines of the text: a line ends at a line feed, and a carriage return directly before it
belongs to the end; what follows the last line feed is a line unless it is empty. -/
def lines (s : Text) : List Text :=
  let pieces := s.splitOn '\n'
  let ended := pieces.dropLast.map fun l => if l.getLast? = some '\r' then l.dropLast else l
  match pieces.getLast? with
  | some [] | none => ended
  | some last => ended ++ [last]

end Text

end Explainer
