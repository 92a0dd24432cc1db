import Explainer.Text.Number
import Explainer.Yaml.Spot

/-!
# Scalars

A scalar is plain, between single or double quotes, or a block of lines. Line ends inside one are
folded: a single one becomes a space, and of several all but the first remain. Each reader starts
behind the character that announces the scalar and answers its value and what follows.
-/

namespace Explainer.Yaml

/-- The white space between two words of a scalar. -/
structure Fold where
  /-- The blanks, while there is no line end. -/
  blanks : Text
  /-- Whether there is a line end. -/
  broken : Bool
  /-- The first line end, unless it was escaped. -/
  first : Text
  /-- The further line ends. -/
  more : Text

namespace Fold

/-- No white space. -/
def none : Fold := ⟨[], false, [], []⟩

/-- An escaped line end. -/
def escaped : Fold := ⟨[], true, [], []⟩

/-- One more blank. Blanks after a line end do not count. -/
def blank (f : Fold) (c : Char) : Fold :=
  if f.broken then f else { f with blanks := f.blanks ++ [c] }

/-- One more line end. Blanks before a line end do not count. -/
def lineEnd (f : Fold) (c : Char) : Fold :=
  if f.broken then { f with more := f.more ++ [c] } else ⟨[], true, [c], []⟩

/-- Whether there is any white space. -/
def isSome (f : Fold) : Bool := f.broken || !f.blanks.isEmpty

/-- What the white space contributes to the value. -/
def text (f : Fold) : Text :=
  if f.broken then
    if f.first = ['\n'] then (if f.more.isEmpty then [' '] else f.more) else f.first ++ f.more
  else f.blanks

end Fold

/-! ## Between single quotes -/

/-- Reads up to the closing single quote; two of them stand for one. -/
def readSingle (out : Text) (fold : Fold) : List Spot → Option (Text × List Spot)
  | [] => none
  | p :: rest =>
    if atAnyMark (p :: rest) then none
    else if isGap p.char then readSingle out (fold.blank p.char) rest
    else if isBreak p.char then readSingle out (fold.lineEnd p.char) rest
    else
      let out := out ++ fold.text
      if p.char = '\'' then
        match rest with
        | q :: rest' =>
          if q.char = '\'' then readSingle (out ++ ['\'']) .none rest' else some (out, rest)
        | [] => some (out, [])
      else readSingle (out ++ [p.char]) .none rest

/-! ## Between double quotes -/

/-- What the reader of a double-quoted scalar expects. -/
inductive Expecting where
  | character
  /-- What a backslash introduces. -/
  | escape
  /-- So many hexadecimal digits, after others of the given value. -/
  | digits (left value : Nat)

/-- The characters that stand for others after a backslash. -/
def escapes : List (Char × Char) := [
  ('0', '\x00'), ('a', '\x07'), ('b', '\x08'), ('t', '\t'), ('\t', '\t'), ('n', '\n'),
  ('v', '\x0b'), ('f', '\x0c'), ('r', '\r'), ('e', '\x1b'), (' ', ' '), ('"', '"'), ('/', '/'),
  ('\\', '\\'), ('N', '\x85'), ('_', '\xa0'), ('L', '\u2028'), ('P', '\u2029')]

/-- The characters that announce hexadecimal digits after a backslash, and how many. -/
def codeEscapes : List (Char × Nat) := [('x', 2), ('u', 4), ('U', 8)]

/-- What a character after a backslash calls for: a character, or digits. -/
def escapeOf? (c : Char) : Option (Char ⊕ Nat) :=
  match escapes.lookup c with
  | some d => some (.inl d)
  | none => (codeEscapes.lookup c).map .inr

/-- The character of a code, if there is one. -/
def charOf? (code : Nat) : Option Char :=
  if code.isValidChar then some (Char.ofNat code) else none

/-- Reads up to the closing double quote. -/
def readDouble (expecting : Expecting) (out : Text) (fold : Fold) :
    List Spot → Option (Text × List Spot)
  | [] => none
  | p :: rest =>
    match expecting with
    | .digits left value => do
      let value := 16 * value + (← hexValue? p.char)
      if left ≤ 1 then readDouble .character (out ++ [← charOf? value]) .none rest
      else readDouble (.digits (left - 1) value) out .none rest
    | .escape =>
      if isBreak p.char then readDouble .character out .escaped rest
      else match escapeOf? p.char with
        | none => none
        | some (.inl c) => readDouble .character (out ++ [c]) .none rest
        | some (.inr n) => readDouble (.digits n 0) out .none rest
    | .character =>
      if atAnyMark (p :: rest) then none
      else if isGap p.char then readDouble .character out (fold.blank p.char) rest
      else if isBreak p.char then readDouble .character out (fold.lineEnd p.char) rest
      else
        let out := out ++ fold.text
        if p.char = '"' then some (out, rest)
        else if p.char = '\\' then readDouble .escape out .none rest
        else readDouble .character (out ++ [p.char]) .none rest

/-! ## Plain -/

/-- A plain scalar and what follows it. `broken` says that it ended behind a line end. -/
structure PlainEnd where
  value : Text
  broken : Bool
  rest : List Spot

/-- The characters that end a plain scalar in a flow collection. -/
def flowIndicators : Text := [',', '[', ']', '{', '}']

/-- Whether a plain scalar cannot go on behind the white space before these characters. -/
def stopsBehindFold (flow : Bool) (indent : Nat) (p : Spot) (rest : List Spot) : Bool :=
  (!flow && p.column < indent) || atAnyMark (p :: rest) || p.char = '#'

/-- Whether a plain scalar ends before these characters. -/
def stopsPlain (flow : Bool) (p : Spot) (rest : List Spot) : Bool :=
  (p.char = ':' && endsWord rest) || (flow && flowIndicators.contains p.char)

/-- Whether a colon in a flow collection is followed by what must not follow it. -/
def isStrayColon (flow : Bool) (p : Spot) (rest : List Spot) : Bool :=
  flow && p.char = ':' && (ahead rest 0).any fun c => c = '?' || flowIndicators.contains c

/-- Reads a plain scalar. Outside flow collections its lines start at the column `indent` or
behind it. -/
def readPlain (flow : Bool) (indent : Nat) (out : Text) (fold : Fold) :
    List Spot → Option PlainEnd
  | [] => some ⟨out, fold.broken, []⟩
  | p :: rest =>
    if isGap p.char then
      if fold.broken && p.column < indent && p.char = '\t' then none
      else readPlain flow indent out (fold.blank p.char) rest
    else if isBreak p.char then readPlain flow indent out (fold.lineEnd p.char) rest
    else if fold.isSome && stopsBehindFold flow indent p rest then
      some ⟨out, fold.broken, p :: rest⟩
    else if isStrayColon flow p rest then none
    else if stopsPlain flow p rest then some ⟨out, fold.broken, p :: rest⟩
    else readPlain flow indent (out ++ fold.text ++ [p.char]) .none rest

/-! ## Blocks -/

/-- What remains of the line ends after a block. -/
inductive Chomping where
  | strip
  | clip
  | keep
deriving DecidableEq, Repr

/-- The chomping that a sign asks for. -/
def chompingOf? (c : Char) : Option Chomping :=
  if c = '+' then some .keep else if c = '-' then some .strip else none

/-- The indentation that a digit asks for; `none` if it is no digit or zero. -/
def incrementOf? (c : Char) : Option Nat :=
  if isDigit c && c ≠ '0' then some (digitValue c) else none

/-- The signs behind the character that announces a block: chomping and indentation, in either
order. -/
def readHeader (s : List Spot) : Chomping × Option Nat × List Spot :=
  match s with
  | [] => (.clip, none, [])
  | p :: rest =>
    match chompingOf? p.char with
    | some chomping =>
      match (ahead rest 0).bind incrementOf? with
      | some n => (chomping, some n, rest.drop 1)
      | none => (chomping, none, rest)
    | none =>
      match incrementOf? p.char with
      | some n =>
        match (ahead rest 0).bind chompingOf? with
        | some chomping => (chomping, some n, rest.drop 1)
        | none => (.clip, some n, rest)
      | none => (.clip, none, p :: rest)

/-- Reads the empty lines here: their line ends, the furthest column reached, and what follows.
A known `indent` bounds the blanks that count as indentation. -/
def readEmptyLines (indent : Option Nat) (furthest : Nat) (out : Text) :
    List Spot → Option (Text × Nat × List Spot)
  | [] => some (out, furthest, [])
  | p :: rest =>
    let inIndentation := indent.all (p.column < ·)
    if inIndentation && p.char = ' ' then readEmptyLines indent furthest out rest
    else if inIndentation && p.char = '\t' then none
    else if isBreak p.char then readEmptyLines indent (max furthest p.column) (out ++ [p.char]) rest
    else some (out, max furthest p.column, p :: rest)

/-- A block that is being read: the value so far, the last line end, the line ends of the empty
lines after it, and whether the last line started with a blank. -/
structure Block where
  out : Text
  last : Text
  empties : Text
  blank : Bool

namespace Block

/-- The value up to the next line. In a folded block a line end between two lines that do not
start with blanks becomes a space, unless empty lines follow it. -/
def before (b : Block) (folded blank : Bool) : Text :=
  if folded && b.last = ['\n'] && !b.blank && !blank then
    b.out ++ (if b.empties.isEmpty then [' '] else b.empties)
  else b.out ++ b.last ++ b.empties

def value (b : Block) : Chomping → Text
  | .strip => b.out
  | .clip => b.out ++ b.last
  | .keep => b.out ++ b.last ++ b.empties

end Block

/-- Reads the lines of a block that start at the column `indent`. -/
def readLines (folded : Bool) (indent : Nat) :
    Nat → Block → List Spot → Option (Block × List Spot)
  | 0, b, s => some (b, s)
  | _, b, [] => some (b, [])
  | fuel + 1, b, p :: rest =>
    if p.column ≠ indent then some (b, p :: rest)
    else do
      let blank := isGap p.char
      let (line, after) := takeText (fun c => !isBreak c) (p :: rest)
      let (empties, _, after') ← readEmptyLines (some indent) 0 [] (after.drop 1)
      readLines folded indent fuel
        ⟨b.before folded blank ++ line, (after.take 1).map (·.char), empties, blank⟩ after'

/-- Reads a block of lines that must be indented by `least` columns; `base` is what an indentation
in its header counts from. -/
def readBlock (folded : Bool) (least base : Nat) (s : List Spot) : Option (Text × List Spot) := do
  let (chomping, increment, s) := readHeader s
  let s ← finishLine? s
  let (empties, furthest, s) ← readEmptyLines (increment.map (base + ·)) 0 [] s
  let indent := match increment with
    | some n => base + n
    | none => max 1 (max least furthest)
  let (b, s) ← readLines folded indent s.length ⟨[], [], empties, false⟩ s
  some (b.value chomping, s)

end Explainer.Yaml
