import Explainer.Regex.Reading

/-!
# Escapes

Behind a backslash a character stands for itself, for another character, for a class, or for a
place. Letters that stand for nothing are refused, so that they stay free to mean something.

Without the flag `unicode` classes hold ASCII characters only, and an expression that would need
others is refused.
-/

namespace Explainer.Regex

inductive Escape where
  /-- A character; `byte` says that it is written as the number of one byte. -/
  | literal (char : Char) (byte : Bool)
  | set (set : CharSet)
  | look (look : Look)
deriving Repr

namespace Reader

/-- The character with a code, which there must be. -/
def charOf (code : Nat) : Reader Char :=
  if code.isValidChar then return Char.ofNat code else failure

/-- Reads so many hexadecimal digits behind others of the given value. -/
def hexFixed : Nat → Nat → Reader Nat
  | 0, value => return value
  | n + 1, value => do
    match hexValue? (← nextWide) with
    | some d => hexFixed n (16 * value + d)
    | none => failure

/-- Reads hexadecimal digits up to a closing brace; `some` values are of digits already read. -/
def hexBraced : Nat → Option Nat → Reader Nat
  | 0, _ => failure
  | fuel + 1, value => do
    let c ← nextWide
    if c = '}' then
      match value with
      | some v => return v
      | none => failure
    else match hexValue? c with
      | some d => hexBraced fuel (some (16 * value.getD 0 + d))
      | none => failure

/-- Reads the code of a character: digits in braces, or so many digits. -/
def codeEscape (digits : Nat) : Reader Escape := do
  skipSpace
  if ← eats ['{'] then
    skipSpace
    return .literal (← charOf (← hexBraced ((← get).rest.length + 1) none)) false
  else return .literal (← charOf (← hexFixed digits 0)) (digits = 2)

/-- A set that the mode admits: without the flag `unicode`, one of ASCII characters. -/
def inMode (s : CharSet) : Reader CharSet := do
  if !(← flags).unicode && (List.range 0x80).any fun n => s.contains (Char.ofNat (0x80 + n)) then
    failure
  else return s

/-- A class of Unicode, or what is ASCII of it. -/
def byMode (s : CharSet) (asciiRanges : List (Nat × Nat)) : Reader CharSet := do
  return if (← flags).unicode then s else .ranges asciiRanges

/-- The set that an escaped letter stands for, unless it stands for none. -/
def letterSet? (c : Char) : Option (Reader CharSet) :=
  match c.toLower with
  | 'd' => some (byMode .digit [(0x30, 0x39)])
  | 's' => some (byMode .space [(0x9, 0xd), (0x20, 0x20)])
  | 'w' => some (byMode .word CharSet.asciiWordRanges)
  | _ => none

/-- The characters that other characters stand for when escaped. -/
def shorthands : List (Char × Char) :=
  [('a', '\x07'), ('f', '\x0c'), ('t', '\t'), ('n', '\n'), ('r', '\r'), ('v', '\x0b')]

/-- The places that escaped characters stand for. -/
def lookLetters : List (Char × Look) := [
  ('A', .textStart), ('z', .textEnd), ('B', .noWordBoundary), ('<', .wordStart), ('>', .wordEnd)]

/-- The names of places at words. -/
def wordLooks : List (Text × Look) := [
  ("start".toList, .wordStart), ("end".toList, .wordEnd), ("start-half".toList, .wordStartHalf),
  ("end-half".toList, .wordEndHalf)]

/-- Whether the character may stand in the name of such a place. -/
def isWordLookChar (c : Char) : Bool := c.isAlpha || c = '-'

/-- Reads the characters of the name of a place, and the brace behind it. -/
def wordLookName : Nat → Text → Reader Look
  | 0, _ => failure
  | fuel + 1, name => do
    let c ← next
    if c = '}' then
      match wordLooks.lookup name with
      | some l => return l
      | none => failure
    else if isWordLookChar c then skipSpace; wordLookName fuel (name ++ [c])
    else failure

/-- Reads what follows an escaped `b`: a name in braces, or nothing. A brace with anything but a
name behind it belongs to a repetition. -/
def boundary : Reader Look := do
  let before ← get
  if ← eats ['{'] then
    skipSpace
    match ← peek with
    | none => failure
    | some c =>
      if isWordLookChar c then wordLookName (before.rest.length + 1) []
      else
        set before
        return .wordBoundary
  else return .wordBoundary

/-- Reads an escape behind its backslash. -/
def escape : Reader Escape := do
  let c ← next
  match letterSet? c with
  | some read =>
    let s ← read
    return .set (← inMode (if c.isUpper then .complement s else s))
  | none =>
    if c = 'x' then codeEscape 2
    else if c = 'u' then codeEscape 4
    else if c = 'U' then codeEscape 8
    else if c = 'b' then return .look (← boundary)
    else match shorthands.lookup c, lookLetters.lookup c with
      | some d, _ => return .literal d false
      | none, some l => return .look l
      | none, none =>
        if c.toNat < 0x80 && !c.isAlphanum then return .literal c false else failure

end Reader

end Explainer.Regex
