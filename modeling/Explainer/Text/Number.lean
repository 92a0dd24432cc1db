import Explainer.Text.Basic

/-!
# Natural numbers in decimal

Reading is strict: ASCII digits only, at least one, leading zeros allowed, no sign. Offsets and
indices are bounded by the largest word of 64 bits, and a larger number is refused rather than
wrapped.
-/

namespace Explainer

/-- The largest offset, length or index. -/
def maxWord : Nat := 18446744073709551615

/-- Whether the character is one of the ten ASCII digits. -/
def isDigit (c : Char) : Bool := '0' ≤ c && c ≤ '9'

def digitValue (c : Char) : Nat := c.toNat - '0'.toNat

/-- The number that a run of digits spells, read in base ten. -/
def digitsValue (s : Text) : Nat := s.foldl (fun n c => 10 * n + digitValue c) 0

/-- The number spelled by a non-empty run of ASCII digits. -/
def readNat? (s : Text) : Option Nat :=
  if !s.isEmpty && s.all isDigit then some (digitsValue s) else none

/-- The number spelled by a non-empty run of ASCII digits, if it fits a word. -/
def readWord? (s : Text) : Option Nat := (readNat? s).filter (· ≤ maxWord)

/-- The value of a hexadecimal digit, in either case. -/
def hexValue? (c : Char) : Option Nat :=
  if isDigit c then some (digitValue c)
  else if 'a' ≤ c && c ≤ 'f' then some (c.toNat - 'a'.toNat + 10)
  else if 'A' ≤ c && c ≤ 'F' then some (c.toNat - 'A'.toNat + 10)
  else none

/-- The number in decimal, without leading zeros. -/
def natText (n : Nat) : Text := Nat.toDigits 10 n

/-- The integer in decimal, with a minus sign if it is negative. -/
def intText : Int → Text
  | .ofNat n => natText n
  | .negSucc n => '-' :: natText (n + 1)

end Explainer
