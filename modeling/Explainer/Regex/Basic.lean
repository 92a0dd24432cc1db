import Explainer.Regex.CharSet

/-!
# Regular expressions

An expression matches part of a text. Among the matches at the leftmost place the preferred one
counts: alternatives are preferred from left to right, and a repetition prefers to go on if it is
greedy and to stop if it is not. Groups record where the part of the text is that they matched.
-/

namespace Explainer

namespace Regex

/-- What can be asked of a place between two characters. -/
inductive Look where
  | textStart
  | textEnd
  | lineStart
  | lineEnd
  /-- The start of a line, where a carriage return and a line feed end a line together. -/
  | lineStartWide
  /-- The end of such a line. -/
  | lineEndWide
  | wordBoundary
  | noWordBoundary
  | wordStart
  | wordEnd
  /-- No word character before the place. -/
  | wordStartHalf
  /-- No word character after the place. -/
  | wordEndHalf
deriving DecidableEq, Repr

namespace Look

/-- Whether the answer is yes between the given characters, those that words are made of being
given. -/
def holds (word : CharSet) (before after : Option Char) : Look → Bool
  | textStart => before.isNone
  | textEnd => after.isNone
  | lineStart => before.all (· = '\n')
  | lineEnd => after.all (· = '\n')
  | lineStartWide => before.all (· = '\n') || (before = some '\r' && after ≠ some '\n')
  | lineEndWide => after.all (· = '\r') || (after = some '\n' && before ≠ some '\r')
  | wordBoundary => before.any word.contains != after.any word.contains
  | noWordBoundary => before.any word.contains == after.any word.contains
  | wordStart => !before.any word.contains && after.any word.contains
  | wordEnd => before.any word.contains && !after.any word.contains
  | wordStartHalf => !before.any word.contains
  | wordEndHalf => !after.any word.contains

end Look

end Regex

/-- A regular expression. -/
inductive Regex where
  | empty
  /-- One character of a set. -/
  | char (set : Regex.CharSet)
  /-- Nothing, at a place where something holds; words are made of characters of the set. -/
  | look (look : Regex.Look) (word : Regex.CharSet)
  | seq (first second : Regex)
  /-- One of both, the first preferred. -/
  | alt (first second : Regex)
  /-- So many times in a row, at least and at most. -/
  | many (least : Nat) (most : Option Nat) (greedy : Bool) (body : Regex)
  /-- The group of the given number. -/
  | group (number : Nat) (body : Regex)
deriving DecidableEq, Repr

namespace Regex

/-- One expression after another. -/
def ofList : List Regex → Regex
  | [] => empty
  | [r] => r
  | r :: rest => seq r (ofList rest)

/-- The greatest number of a group in the expression; zero if there is none. -/
def lastGroup : Regex → Nat
  | empty | char _ | look _ _ => 0
  | seq a b | alt a b => max a.lastGroup b.lastGroup
  | many _ _ _ body => body.lastGroup
  | group n body => max n body.lastGroup

/-- The greatest number of characters that a match can have; `none` if there is no bound. -/
def maxLength : Regex → Option Nat
  | empty | look _ _ => some 0
  | char _ => some 1
  | seq a b => do some ((← a.maxLength) + (← b.maxLength))
  | alt a b => do some (max (← a.maxLength) (← b.maxLength))
  | many _ most _ body =>
    if body.maxLength = some 0 then some 0 else do some ((← most) * (← body.maxLength))
  | group _ body => body.maxLength

/-- A repetition in its simplest form. What matches only the empty text need not be repeated, and
a repetition of zero times is nothing, its groups included. -/
def repeated (least : Nat) (most : Option Nat) (greedy : Bool) (body : Regex) : Regex :=
  let bounded := body.maxLength = some 0
  let least := if bounded then min least 1 else least
  let most := if bounded then some ((most.map (min 1)).getD 1) else most
  if least = 0 && most = some 0 then empty
  else if least = 1 && most = some 1 then body
  else many least most greedy body

end Regex

end Explainer
