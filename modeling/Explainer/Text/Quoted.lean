import Explainer.Text.Printable

/-!
# Quoted texts

Messages show a text that came from outside between double quotes. Inside, the quote and the
backslash take a backslash, the common controls have short forms, and a character that would not
be visible on its own is written by its code point in lower-case hexadecimal.
-/

namespace Explainer

/-- The written form of a code point: `\u`, then the number in braces. -/
def Text.codePoint (c : Char) : Text :=
  "\\u\x7b".toList ++ Nat.toDigits 16 c.toNat ++ ['}']

/-- The written form of one character inside quotes. -/
def Text.quotedChar (c : Char) : Text :=
  if c = '"' then ['\\', '"']
  else if c = '\\' then ['\\', '\\']
  else if c = '\t' then ['\\', 't']
  else if c = '\r' then ['\\', 'r']
  else if c = '\n' then ['\\', 'n']
  else if c = '\x00' then ['\\', '0']
  else if isExtending c || !isPrintable c then codePoint c
  else [c]

/-- The text between double quotes, readable whatever it holds. -/
def Text.quoted (s : Text) : Text := ['"'] ++ s.flatMap quotedChar ++ ['"']

/-- The quoted form as a string, for messages. -/
def quote (s : Text) : String := String.ofList s.quoted

end Explainer
