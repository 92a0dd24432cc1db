import Explainer.Text.Basic

/-!
# Characters in their places

YAML reads its structure off lines and columns. A text is first laid out: every character with
its line, its column and its index, and every line end as one character.
-/

namespace Explainer.Yaml

/-- A character of a text and its place, counted from zero. -/
structure Spot where
  char : Char
  line : Nat
  column : Nat
  /-- The number of characters of the text before this one. -/
  index : Nat
deriving DecidableEq, Repr

/-- Whether the character ends a line, once line ends are one character. -/
def isBreak (c : Char) : Bool := c = '\n' || c = '\u2028' || c = '\u2029'

/-- Whether the character is a blank within a line. -/
def isGap (c : Char) : Bool := c = ' ' || c = '\t'

/-- The characters that may stand in a text. -/
def allowedRanges : List (Nat × Nat) := [
  (0x9, 0xa), (0xd, 0xd), (0x20, 0x7e), (0x85, 0x85), (0xa0, 0xd7ff), (0xe000, 0xfefe),
  (0xff00, 0xfffd), (0x10000, 0x10ffff)]

def layOutFrom (line column index : Nat) : Text → List Spot
  | [] => []
  | '\r' :: '\n' :: rest =>
    ⟨'\n', line, column, index⟩ :: layOutFrom (line + 1) 0 (index + 2) rest
  | c :: rest =>
    let c := if c = '\r' || c = '\x85' then '\n' else c
    ⟨c, line, column, index⟩ ::
      (if isBreak c then layOutFrom (line + 1) 0 (index + 1) rest
        else layOutFrom line (column + 1) (index + 1) rest)

/-- Lays out a text. A byte order mark at its start does not count, and there is no layout of a
text with characters that may not stand in one. -/
def layOut? (s : Text) : Option (List Spot) :=
  let s := if s.head? = some '\ufeff' then s.tail else s
  if s.all (inRanges allowedRanges) then some (layOutFrom 0 0 0 s) else none

/-- The character so many places ahead; `none` at the end of the text. -/
def ahead (s : List Spot) (n : Nat) : Option Char := (s[n]?).map (·.char)

/-- Whether a word ends here: at a blank, at a line end, or at the end of the text. -/
def endsWord (s : List Spot) : Bool :=
  match s with
  | [] => true
  | p :: _ => isGap p.char || isBreak p.char

def endsLine (s : List Spot) : Bool :=
  match s with
  | [] => true
  | p :: _ => isBreak p.char

/-- Whether a mark that separates documents stands here: at the start of a line, and a word of its
own. -/
def atMark (mark : Text) (s : List Spot) : Bool :=
  match s with
  | [] => false
  | p :: _ =>
    p.column = 0 && (s.take mark.length).map (·.char) = mark && endsWord (s.drop mark.length)

/-- The mark before a document. -/
def startMark : Text := "---".toList

/-- The mark after a document. -/
def endMark : Text := "...".toList

/-- Whether either mark stands here. -/
def atAnyMark (s : List Spot) : Bool := atMark startMark s || atMark endMark s

/-- What follows the blanks here. -/
def skipGaps (s : List Spot) : List Spot := s.dropWhile (isGap ·.char)

/-- The characters up to the first that fails the test, and what follows them. -/
def takeText (test : Char → Bool) (s : List Spot) : Text × List Spot :=
  ((s.takeWhile (test ·.char)).map (·.char), s.dropWhile (test ·.char))

/-- What follows the blanks, the comment and the end of the line here; `none` if anything else is
left on it. -/
def finishLine? (s : List Spot) : Option (List Spot) :=
  let s := skipGaps s
  let s := if ahead s 0 = some '#' then s.dropWhile (fun p => !isBreak p.char) else s
  if endsLine s then some (s.drop 1) else none

end Explainer.Yaml
