import Explainer.Regex.Basic
import Explainer.Text.Number

/-!
# Reading the text of an expression

The state in which an expression is read, and the readers of single characters. Flags change what
the same spelling means. In verbose mode white space and comments between the parts of an
expression do not count.
-/

namespace Explainer.Regex

structure Flags where
  caseless : Bool
  multiline : Bool
  /-- Whether a dot also stands for a line end. -/
  dotAll : Bool
  /-- Whether repetitions are lazy unless marked. -/
  swapGreed : Bool
  unicode : Bool
  /-- Whether a carriage return counts as part of a line end. -/
  wideLines : Bool
  verbose : Bool
deriving DecidableEq, Repr

/-- The flags that are in force unless others are set. -/
def Flags.standard : Flags := ⟨false, false, false, false, true, false, false⟩

/-- What reading an expression needs to know: the rest of its text, the flags, and the groups
so far. -/
structure Reading where
  rest : Text
  flags : Flags
  groups : Nat
  names : List Text

/-- A reader that may fail. -/
abbrev Reader (α : Type) := StateT Reading Option α

/-- The rest of a comment: what follows the end of its line. -/
def afterComment (s : Text) : Text := (s.dropWhile (· ≠ '\n')).drop 1

/-- What follows the white space and comments here, which are bounded in number by `fuel`. -/
def skipVerbose : Nat → Text → Text
  | 0, s => s
  | fuel + 1, s =>
    match s.dropWhile isBlank with
    | '#' :: rest => skipVerbose fuel (afterComment rest)
    | s => s

namespace Reader

def flags : Reader Flags := do return (← get).flags

def setFlags (f : Flags) : Reader Unit := modify fun r => { r with flags := f }

/-- The next character, if there is one. -/
def peek : Reader (Option Char) := do return (← get).rest.head?

/-- Passes over the next character. -/
def skip : Reader Unit := modify fun r => { r with rest := r.rest.tail }

/-- Passes over what does not count here. -/
def skipSpace : Reader Unit := do
  if (← flags).verbose then modify fun r => { r with rest := skipVerbose r.rest.length r.rest }

/-- The next character, which there must be. -/
def next : Reader Char := do
  match ← peek with
  | some c => skip; return c
  | none => failure

/-- The next character, and passes over what does not count behind it. -/
def nextWide : Reader Char := do
  let c ← next
  skipSpace
  return c

/-- Whether the rest starts like this; if so, passes over it. -/
def eats (s : Text) : Reader Bool := do
  let r ← get
  if s.isPrefixOf r.rest then
    set { r with rest := r.rest.drop s.length }
    return true
  else return false

/-- Passes over this character, which must be next. -/
def expect (c : Char) : Reader Unit := do
  if (← next) ≠ c then failure

/-- Reads the characters up to one that fails the test. -/
def takeWhile (test : Char → Bool) : Reader Text := do
  let r ← get
  set { r with rest := r.rest.dropWhile test }
  return r.rest.takeWhile test

end Reader

end Explainer.Regex
