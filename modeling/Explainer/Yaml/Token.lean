import Explainer.Yaml.Scalar

/-!
# Tokens

The words of YAML: marks and directives around documents, the starts and ends of collections, the
signs between their entries, and anchors, aliases, tags and scalars. Block collections have no
signs of their own; their starts and ends are tokens all the same.
-/

namespace Explainer.Yaml

/-- A word of a text. -/
inductive Token where
  | version (major minor : Nat)
  /-- The declaration of a tag handle and what it stands for. -/
  | tagHandle (handle standsFor : Text)
  | documentStart
  | documentEnd
  | blockSequence
  | blockMapping
  | blockEnd
  | flowSequence
  | flowSequenceEnd
  | flowMapping
  | flowMappingEnd
  /-- The sign before an entry of a block sequence. -/
  | blockEntry
  /-- The sign between entries of a flow collection. -/
  | flowEntry
  | key
  | value
  | alias (name : Text)
  | anchor (name : Text)
  | tag (handle suffix : Text)
  | scalar (plain : Bool) (value : Text)
deriving DecidableEq, Repr

/-! ## Names and tags -/

/-- Whether the character may stand in the name of an anchor. -/
def isNameChar (c : Char) : Bool := c.isAlphanum || c = '_' || c = '-'

/-- The characters that may follow the name of an anchor. -/
def afterName : Text := ['?', ':', ',', ']', '}', '%', '@', '\x60']

/-- Reads the name of an anchor or alias. -/
def readName (s : List Spot) : Option (Text × List Spot) :=
  let (name, rest) := takeText isNameChar s
  if !name.isEmpty && (endsWord rest || (ahead rest 0).any afterName.contains) then
    some (name, rest)
  else none

/-- Whether the character may stand in a tag. `wide` also admits what separates entries of flow
collections. -/
def isTagChar (wide : Bool) (c : Char) : Bool :=
  isNameChar c || ";/?:@&=+$.!~*'()".toList.contains c || (wide && [',', '[', ']'].contains c)

/-- Reads one byte written as a percent sign and two hexadecimal digits. -/
def readByte (s : List Spot) : Option (UInt8 × List Spot) := do
  if ahead s 0 = some '%' then
    let high ← (ahead s 1).bind hexValue?
    let low ← (ahead s 2).bind hexValue?
    some ((16 * high + low).toUInt8, s.drop 3)
  else none

/-- The number of bytes that the UTF-8 form of a character has if it starts with this one. -/
def utf8Width (b : UInt8) : Nat :=
  if b < 0x80 then 1 else if b < 0xc0 then 0 else if b < 0xe0 then 2 else if b < 0xf0 then 3
  else if b < 0xf8 then 4 else 0

def readBytes : Nat → List Spot → Option (List UInt8 × List Spot)
  | 0, s => some ([], s)
  | n + 1, s => do
    let (b, s) ← readByte s
    let (bs, s) ← readBytes n s
    some (b :: bs, s)

/-- Reads one character written as percent signs and digits. -/
def readEscapedChar (s : List Spot) : Option (Text × List Spot) := do
  let (b, _) ← readByte s
  let (bs, s) ← readBytes (max 1 (utf8Width b)) s
  let char ← String.fromUTF8? ⟨bs.toArray⟩
  some (char.toList, s)

/-- Reads the characters of a tag behind those already read. -/
def readTagText (wide : Bool) : Nat → Text → List Spot → Option (Text × List Spot)
  | 0, out, s => some (out, s)
  | _, out, [] => some (out, [])
  | fuel + 1, out, p :: rest =>
    if p.char = '%' then do
      let (char, rest) ← readEscapedChar (p :: rest)
      readTagText wide fuel (out ++ char) rest
    else if isTagChar wide p.char then readTagText wide fuel (out ++ [p.char]) rest
    else some (out, p :: rest)

/-- Reads a tag behind its exclamation mark: a handle and a suffix. -/
def readTag (flow : Bool) (s : List Spot) : Option (Token × List Spot) := do
  let (token, rest) ←
    if ahead s 0 = some '<' then do
      let (text, rest) ← readTagText true s.length [] (s.drop 1)
      if text.isEmpty || ahead rest 0 ≠ some '>' then none
      else some (Token.tag [] text, rest.drop 1)
    else do
      let (name, rest) := takeText isNameChar s
      if ahead rest 0 = some '!' then do
        let (text, rest) ← readTagText false s.length [] (rest.drop 1)
        if text.isEmpty then none else some (Token.tag (['!'] ++ name ++ ['!']) text, rest)
      else do
        let (text, rest) ← readTagText false s.length name rest
        some (if text.isEmpty then Token.tag [] ['!'] else Token.tag ['!'] text, rest)
  if endsWord rest || (flow && ahead rest 0 = some ',') then some (token, rest) else none

/-! ## Directives -/

/-- Reads a number of at most nine digits. -/
def readVersionNumber (s : List Spot) : Option (Nat × List Spot) :=
  let (digits, rest) := takeText isDigit s
  if digits.isEmpty || 9 < digits.length then none
  else some (digitsValue digits, rest)

/-- Reads the handle that a directive declares: a word between exclamation marks, or a single
one. -/
def readHandle (s : List Spot) : Option (Text × List Spot) :=
  if ahead s 0 = some '!' then
    let (name, rest) := takeText isNameChar (s.drop 1)
    if ahead rest 0 = some '!' then some (['!'] ++ name ++ ['!'], rest.drop 1)
    else if name.isEmpty then some (['!'], rest)
    else none
  else none

/-- Reads a directive behind its percent sign, to the end of the line. -/
def readDirective (s : List Spot) : Option (Token × List Spot) := do
  let (name, rest) := takeText isNameChar s
  let (token, rest) ←
    if !endsWord rest then none
    else if name = "YAML".toList then do
      let (major, rest) ← readVersionNumber (skipGaps rest)
      if ahead rest 0 ≠ some '.' then none
      let (minor, rest) ← readVersionNumber (rest.drop 1)
      some (Token.version major minor, rest)
    else if name = "TAG".toList then do
      let (handle, rest) ← readHandle (skipGaps rest)
      if !(ahead rest 0).any isGap then none
      let (standsFor, rest) ← readTagText true rest.length [] (skipGaps rest)
      if standsFor.isEmpty || !endsWord rest then none
      some (Token.tagHandle handle standsFor, rest)
    else none
  some (token, ← finishLine? rest)

end Explainer.Yaml
