import Explainer.Text.Alphanumeric
import Explainer.Text.CaseFolding

/-!
# Sets of characters

What a class of a regular expression stands for: ranges of code points, put together by the
operations of sets. Membership is decided by the structure of the set.
-/

namespace Explainer.Regex

inductive CharSet where
  /-- The characters in some ranges of code points. -/
  | ranges (ranges : List (Nat × Nat))
  | union (a b : CharSet)
  | inter (a b : CharSet)
  /-- What is in the first and not in the second. -/
  | without (a b : CharSet)
  /-- What is in one of both only. -/
  | either (a b : CharSet)
  | complement (a : CharSet)
  /-- The set with all case variants of its characters. -/
  | caseless (a : CharSet)
deriving DecidableEq, Repr

namespace CharSet

def contains : CharSet → Char → Bool
  | ranges rs, c => inRanges rs c
  | union a b, c => a.contains c || b.contains c
  | inter a b, c => a.contains c && b.contains c
  | without a b, c => a.contains c && !b.contains c
  | either a b, c => a.contains c != b.contains c
  | complement a, c => !a.contains c
  | caseless a, c => (caseVariants c).any a.contains

def empty : CharSet := ranges []

def single (c : Char) : CharSet := ranges [(c.toNat, c.toNat)]

/-- The characters from one to another. -/
def between (a b : Char) : CharSet := ranges [(a.toNat, b.toNat)]

def ascii : CharSet := ranges [(0, 0x7f)]

/-- The ASCII characters that words are made of. -/
def asciiWordRanges : List (Nat × Nat) := [(0x30, 0x39), (0x41, 0x5a), (0x5f, 0x5f), (0x61, 0x7a)]

/-- The characters that words are made of. -/
def word : CharSet := ranges (asciiWordRanges ++ wordRanges)

def digit : CharSet := ranges ((0x30, 0x39) :: decimalDigitRanges)

def space : CharSet := ranges blankRanges

/-- The classes that have names, in ASCII. -/
def named : List (Text × List (Nat × Nat)) := [
  ("alnum".toList, [(0x30, 0x39), (0x41, 0x5a), (0x61, 0x7a)]),
  ("alpha".toList, [(0x41, 0x5a), (0x61, 0x7a)]),
  ("ascii".toList, [(0, 0x7f)]),
  ("blank".toList, [(0x9, 0x9), (0x20, 0x20)]),
  ("cntrl".toList, [(0, 0x1f), (0x7f, 0x7f)]),
  ("digit".toList, [(0x30, 0x39)]),
  ("graph".toList, [(0x21, 0x7e)]),
  ("lower".toList, [(0x61, 0x7a)]),
  ("print".toList, [(0x20, 0x7e)]),
  ("punct".toList, [(0x21, 0x2f), (0x3a, 0x40), (0x5b, 0x60), (0x7b, 0x7e)]),
  ("space".toList, [(0x9, 0xd), (0x20, 0x20)]),
  ("upper".toList, [(0x41, 0x5a)]),
  ("word".toList, asciiWordRanges),
  ("xdigit".toList, [(0x30, 0x39), (0x41, 0x46), (0x61, 0x66)])]

end CharSet

end Explainer.Regex
