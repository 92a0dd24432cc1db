import Explainer.Json.Basic

/-!
# JSON text of a value

The text is compact. Strings escape the quote, the backslash and the controls below the space;
every other character stands as it is.
-/

namespace Explainer.Json

/-- The written form of one character of a string. -/
def charText (c : Char) : Text :=
  if c = '"' then ['\\', '"']
  else if c = '\\' then ['\\', '\\']
  else if c = '\x08' then ['\\', 'b']
  else if c = '\x0c' then ['\\', 'f']
  else if c = '\n' then ['\\', 'n']
  else if c = '\r' then ['\\', 'r']
  else if c = '\t' then ['\\', 't']
  else if c.toNat < 0x20 then
    "\\u00".toList ++ [Nat.digitChar (c.toNat / 16), Nat.digitChar (c.toNat % 16)]
  else [c]

def stringText (s : Text) : Text := '"' :: s.flatMap charText ++ ['"']

mutual

/-- The compact text of a value. -/
def text : Json → Text
  | null => "null".toList
  | bool b => (if b then "true" else "false").toList
  | num n => n.text
  | str s => stringText s
  | arr items => '[' :: itemsText items ++ [']']
  | obj members => '{' :: membersText members ++ ['}']

/-- The items of an array, with commas between them. -/
def itemsText : List Json → Text
  | [] => []
  | [v] => text v
  | v :: w :: rest => text v ++ ',' :: itemsText (w :: rest)

/-- The members of an object, with commas between them. -/
def membersText : List (Text × Json) → Text
  | [] => []
  | [(k, v)] => stringText k ++ ':' :: text v
  | (k, v) :: m :: rest => stringText k ++ ':' :: text v ++ ',' :: membersText (m :: rest)

end

end Explainer.Json
