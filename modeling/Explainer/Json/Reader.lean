import Explainer.Json.Document

/-!
# Reading JSON text

The grammar is the strict one: no comments, no trailing commas, no leading zeros, white space of
four characters only. Each reader takes what it needs from the start of the text and returns the
rest. Containers nest, so the readers of values call one another; every call is charged to a
budget, and a budget of twice the length of the text is never used up.
-/

namespace Explainer.Json.Reader

/-- Whether the character may stand between tokens. -/
def isSpace (c : Char) : Bool := c = ' ' || c = '\t' || c = '\n' || c = '\r'

/-- The text without white space at its start. -/
def skipSpace (s : Text) : Text := s.dropWhile isSpace

/-- The character that a short escape names. -/
def shortEscape? (c : Char) : Option Char :=
  if c = '"' || c = '\\' || c = '/' then some c
  else if c = 'b' then some '\x08'
  else if c = 'f' then some '\x0c'
  else if c = 'n' then some '\n'
  else if c = 'r' then some '\r'
  else if c = 't' then some '\t'
  else none

/-- A string after its opening quote, up to and with the closing one. -/
def stringParts? : Text → Option (List StringPart × Text)
  | [] => none
  | '"' :: rest => some ([], rest)
  | '\\' :: 'u' :: a :: b :: c :: d :: rest => do
    let a ← hexValue? a
    let b ← hexValue? b
    let c ← hexValue? c
    let d ← hexValue? d
    let (parts, rest) ← stringParts? rest
    some (.unit (((a * 16 + b) * 16 + c) * 16 + d) :: parts, rest)
  | '\\' :: e :: rest => do
    let c ← shortEscape? e
    let (parts, rest) ← stringParts? rest
    some (.char c :: parts, rest)
  | c :: rest =>
    if c.toNat < 0x20 || c = '\\' then none
    else (stringParts? rest).map fun (parts, rest) => (.char c :: parts, rest)

/-- The digits at the start of a text, at least one. -/
def digits? (s : Text) : Option (Text × Text) :=
  match s.takeWhile isDigit with
  | [] => none
  | ds => some (ds, s.dropWhile isDigit)

/-- The digits before the point: no zero leads another digit. -/
def whole? (s : Text) : Option (Text × Text) :=
  (digits? s).filter fun (ds, _) => ds.head? ≠ some '0' || ds.length = 1

/-- The digits after a point, none if there is no point. -/
def fraction? : Text → Option (Text × Text)
  | '.' :: rest => digits? rest
  | s => some ([], s)

/-- The power of ten after its mark, if there is one. -/
def power? : Text → Option (Option Int × Text)
  | [] => some (none, [])
  | c :: rest =>
    if c = 'e' || c = 'E' then
      match rest with
      | '-' :: r => (digits? r).map fun (ds, r) => (some (-(digitsValue ds : Int)), r)
      | '+' :: r => (digits? r).map fun (ds, r) => (some (digitsValue ds : Int), r)
      | r => (digits? r).map fun (ds, r) => (some (digitsValue ds : Int), r)
    else some (none, c :: rest)

/-- A number after its sign. -/
def unsigned? (negative : Bool) (s : Text) : Option (JsonDocument × Text) := do
  let (whole, s) ← whole? s
  let (fraction, s) ← fraction? s
  let (power, s) ← power? s
  some (.num ⟨negative, whole, fraction, power⟩, s)

def number? : Text → Option (JsonDocument × Text)
  | '-' :: rest => unsigned? true rest
  | s => unsigned? false s

/-- The document `d` if the text starts with `word`. -/
def keyword? (word : Text) (d : JsonDocument) (s : Text) : Option (JsonDocument × Text) :=
  if word.isPrefixOf s then some (d, s.drop word.length) else none

mutual

/-- A value, after optional white space. -/
def value? : Nat → Text → Option (JsonDocument × Text)
  | 0, _ => none
  | fuel + 1, s =>
    match skipSpace s with
    | '"' :: rest => (stringParts? rest).map fun (parts, rest) => (.str parts, rest)
    | '[' :: rest =>
      match skipSpace rest with
      | ']' :: rest => some (.arr [], rest)
      | rest => (items? fuel rest).map fun (items, rest) => (.arr items, rest)
    | '{' :: rest =>
      match skipSpace rest with
      | '}' :: rest => some (.obj [], rest)
      | rest => (members? fuel rest).map fun (members, rest) => (.obj members, rest)
    | 'n' :: rest => keyword? "ull".toList .null rest
    | 't' :: rest => keyword? "rue".toList (.bool true) rest
    | 'f' :: rest => keyword? "alse".toList (.bool false) rest
    | rest => number? rest

/-- The items of an array, at least one, and its closing bracket. -/
def items? : Nat → Text → Option (List JsonDocument × Text)
  | 0, _ => none
  | fuel + 1, s => do
    let (item, s) ← value? fuel s
    match skipSpace s with
    | ',' :: rest => (items? fuel rest).map fun (items, rest) => (item :: items, rest)
    | ']' :: rest => some ([item], rest)
    | _ => none

/-- The members of an object, at least one, and its closing brace. -/
def members? : Nat → Text → Option (List (List StringPart × JsonDocument) × Text)
  | 0, _ => none
  | fuel + 1, s =>
    match skipSpace s with
    | '"' :: rest => do
      let (key, s) ← stringParts? rest
      match skipSpace s with
      | ':' :: rest => do
        let (value, s) ← value? fuel rest
        match skipSpace s with
        | ',' :: rest =>
          (members? fuel rest).map fun (members, rest) => ((key, value) :: members, rest)
        | '}' :: rest => some ([(key, value)], rest)
        | _ => none
      | _ => none
    | _ => none

end

end Explainer.Json.Reader

namespace Explainer

/-- The document that a text is, apart from white space around it. -/
def JsonDocument.parse? (s : Text) : Option JsonDocument :=
  match Json.Reader.value? (2 * s.length + 2) s with
  | some (d, rest) => if (Json.Reader.skipSpace rest).isEmpty then some d else none
  | none => none

def Json.parse? (s : Text) : Option Json := (JsonDocument.parse? s).bind JsonDocument.value?

end Explainer
