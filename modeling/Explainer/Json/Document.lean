import Explainer.Json.Basic

/-!
# JSON as it is written

A document keeps what a value forgets: the order and the repetition of members, the spelling of
numbers, and escapes that name no character. Reading a document checks the grammar only. Whether
it has a value, and which, is a second question: a number may be too large, an escape may be half
of a pair, containers may be nested too deeply. A reader that skips a part of a document asks the
first question about it and not the second.
-/

namespace Explainer

/-- A number as written: sign, digits before and after the point, power of ten. -/
structure NumberLiteral where
  negative : Bool
  whole : Text
  fraction : Text
  power : Option Int
deriving DecidableEq, Repr

/-- A part of a written string: a character, or a code unit given by its number. -/
inductive StringPart where
  | char (c : Char)
  | unit (code : Nat)
deriving DecidableEq, Repr

/-- A JSON text by its grammar. -/
inductive JsonDocument where
  | null
  | bool (value : Bool)
  | num (literal : NumberLiteral)
  | str (parts : List StringPart)
  | arr (items : List JsonDocument)
  | obj (members : List (List StringPart × JsonDocument))
deriving Repr

namespace NumberLiteral

/-- Whether the literal has neither a fraction nor a power of ten. -/
def isInteger (n : NumberLiteral) : Bool := n.fraction.isEmpty && n.power.isNone

/-- The largest number whose negation is an integer. -/
def maxNegated : Nat := 9223372036854775808

/-- The number of the literal: an integer where it is written as one and fits, apart from the
negative zero; else the nearest float. -/
def value? (n : NumberLiteral) : Option Number :=
  let whole := digitsValue n.whole
  if n.isInteger && !n.negative && whole ≤ maxWord then some (.int whole)
  else if n.isInteger && n.negative && 0 < whole && whole ≤ maxNegated then some (.int (-whole))
  else
    (Binary64.ofDecimal? n.negative (digitsValue (n.whole ++ n.fraction))
      (n.power.getD 0 - n.fraction.length)).map .float

end NumberLiteral

/-- The text of string parts: two code units that form a surrogate pair are one character, and a
surrogate without its partner is no text. -/
def StringPart.textOf? : List StringPart → Option Text
  | [] => some []
  | .char c :: rest => (textOf? rest).map (c :: ·)
  | .unit u :: rest =>
    if 0xd800 ≤ u && u < 0xdc00 then
      match rest with
      | .unit v :: rest =>
        if 0xdc00 ≤ v && v < 0xe000 then
          (textOf? rest).map (Char.ofNat (0x10000 + (u - 0xd800) * 0x400 + (v - 0xdc00)) :: ·)
        else none
      | _ => none
    else if 0xdc00 ≤ u && u < 0xe000 then none
    else (textOf? rest).map (Char.ofNat u :: ·)

namespace JsonDocument

/-- How many containers may be open at once. -/
def maxDepth : Nat := 127

mutual

/-- The value of a document with at most `depth` containers open at once. -/
def valueWithin? (depth : Nat) : JsonDocument → Option Json
  | null => some .null
  | bool b => some (.bool b)
  | num n => n.value?.map .num
  | str parts => (StringPart.textOf? parts).map .str
  | arr items => match depth with
    | 0 => none
    | d + 1 => (itemsWithin? d items).map .arr
  | obj members => match depth with
    | 0 => none
    | d + 1 => (membersWithin? d members).map fun ms => .obj (Members.ofList ms)

/-- The values of the items of an array. -/
def itemsWithin? (depth : Nat) : List JsonDocument → Option (List Json)
  | [] => some []
  | v :: rest => do
    let v ← valueWithin? depth v
    let rest ← itemsWithin? depth rest
    some (v :: rest)

/-- The members of an object, in the order in which they are written. -/
def membersWithin? (depth : Nat) :
    List (List StringPart × JsonDocument) → Option (List (Text × Json))
  | [] => some []
  | (k, v) :: rest => do
    let k ← StringPart.textOf? k
    let v ← valueWithin? depth v
    let rest ← membersWithin? depth rest
    some ((k, v) :: rest)

end

/-- The value of a document, if it has one. Of two members with the same key the later counts. -/
def value? (d : JsonDocument) : Option Json := d.valueWithin? maxDepth

end JsonDocument

end Explainer
