import Explainer.Text.Basic

/-!
# Tokens of a template

A template is text with two families of tags in it: one interpolates a value, the other holds
directives. How a tag of a family looks is a search: from a position it reports the next
occurrence and which part of it is the expression. Cutting a template into tokens asks both
searches from the current position and takes the earlier occurrence, the interpolation if both
start together.

Positions count characters. A search may report an empty occurrence at the position it started
from; the cut then takes one character of text, so that it always moves on.
-/

namespace Explainer.Template

/-- An occurrence of a tag: its extent in the template and that of its expression. -/
structure Occurrence where
  start : Nat
  stop : Nat
  expression : Option (Nat × Nat)
deriving DecidableEq, Repr

/-- A search for the first occurrence from a position on. -/
abbrev Search := Text → Nat → Option Occurrence

/-- What a tag of one family looks like: the pattern as written, and the search that it means. -/
structure Delimiter where
  pattern : Text
  search : Search

/-- The two families of tags. -/
structure Delimiters where
  /-- Tags that interpolate a value. -/
  escape : Delimiter
  /-- Tags that hold a directive. -/
  evaluate : Delimiter

/-- A piece of a template. -/
inductive Token where
  | text (content : Text)
  | escape (expression : Text)
  | evaluate (expression : Text)
deriving DecidableEq, Repr

/-- The characters of a text from one position to another. -/
def cut (s : Text) (start stop : Nat) : Text := (s.drop start).take (stop - start)

namespace Occurrence

/-- The expression of an occurrence, empty if it has none. -/
def expressionText (m : Occurrence) (s : Text) : Text :=
  match m.expression with
  | some (start, stop) => cut s start stop
  | none => []

end Occurrence

namespace Delimiters

/-- The next occurrence of either family from a position on, and whether it is an
interpolation. -/
def next? (d : Delimiters) (s : Text) (pos : Nat) : Option (Occurrence × Bool) :=
  match d.escape.search s pos, d.evaluate.search s pos with
  | none, none => none
  | some e, none => some (e, true)
  | none, some v => some (v, false)
  | some e, some v => if e.start ≤ v.start then some (e, true) else some (v, false)

def tag (m : Occurrence) (isEscape : Bool) (s : Text) : Token :=
  if isEscape then .escape (m.expressionText s) else .evaluate (m.expressionText s)

/-- The text token between two positions, if there is anything between them. -/
def gap (s : Text) (start stop : Nat) : List Token :=
  if start < stop then [.text (cut s start stop)] else []

def tokensFrom (d : Delimiters) (s : Text) (pos : Nat) : List Token :=
  if _h : pos < s.length then
    match d.next? s pos with
    | none => [.text (s.drop pos)]
    | some (m, isEscape) =>
      if _h' : pos < m.stop then
        gap s pos m.start ++ tag m isEscape s :: tokensFrom d s m.stop
      else
        gap s pos m.start ++ tag m isEscape s :: .text (cut s pos (pos + 1))
          :: tokensFrom d s (pos + 1)
  else []
termination_by s.length - pos

def tokens (d : Delimiters) (s : Text) : List Token := d.tokensFrom s 0

end Delimiters

namespace Delimiter

/-- The expression of a tag whose opening bracket has just been read: the shortest non-empty text
on the same line that the closing bracket follows. -/
def expressionBefore? (closing : Text) : Text → Option Text
  | [] => none
  | c :: rest =>
    if c = '\n' then none
    else if closing.isPrefixOf rest then some [c]
    else (expressionBefore? closing rest).map (c :: ·)

/-- The expression of the bracketed tag that a text starts with. -/
def bracketedAt? (opening closing s : Text) : Option Text :=
  if opening.isPrefixOf s then expressionBefore? closing (s.drop opening.length) else none

/-- The first bracketed tag of a text that stands at position `pos` of the template. -/
def bracketedFrom? (opening closing : Text) (pos : Nat) : Text → Option Occurrence
  | [] => none
  | c :: rest =>
    match bracketedAt? opening closing (c :: rest) with
    | some e =>
      let first := pos + opening.length
      let last := first + e.length
      some ⟨pos, last + closing.length, some (first, last)⟩
    | none => bracketedFrom? opening closing (pos + 1) rest

/-- The tags between an opening and a closing bracket. -/
def bracketed (pattern opening closing : Text) : Delimiter where
  pattern := pattern
  search s pos := bracketedFrom? opening closing pos (s.drop pos)

def doubleBraces : Delimiter :=
  bracketed "\\\x7b\\\x7b(.+?)\\\x7d\\\x7d".toList ['{', '{'] ['}', '}']

/-- Directives in brackets with a percent sign. -/
def percentBrackets : Delimiter :=
  bracketed "\\[%(.+?)%\\]".toList ['[', '%'] ['%', ']']

end Delimiter

/-- The delimiters that templates use unless others are given. -/
def Delimiters.standard : Delimiters := ⟨.doubleBraces, .percentBrackets⟩

end Explainer.Template
