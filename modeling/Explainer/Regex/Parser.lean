import Explainer.Regex.Class

/-!
# Reading expressions

An expression is read from left to right: alternatives are sequences, sequences hold parts, and a
repetition applies to the part before it. Flags may be set for a group, or for the rest of the group
in which they stand. Groups are numbered by their opening brackets. What can be spelled and has no
meaning here (looking at the text around, referring to a group) is refused.
-/

namespace Explainer.Regex

namespace Reader

/-! ## Single characters -/

/-- The expression of a character. -/
def literal (c : Char) (byte : Bool) : Reader Regex := do
  let f ← flags
  if !f.unicode && 0x7f < c.toNat && (byte || f.caseless) then failure
  else return .char (← foldSet (.single c))

/-- The characters that words are made of. -/
def wordSet : Reader CharSet := byMode .word CharSet.asciiWordRanges

def place (l : Look) : Reader Regex := do return .look l (← wordSet)

def dot : Reader Regex := do
  let f ← flags
  if !f.unicode then failure
  else if f.dotAll then return .char (.complement .empty)
  else if f.wideLines then return .char (.complement (.union (.single '\n') (.single '\r')))
  else return .char (.complement (.single '\n'))

/-- The place that a circumflex stands for. -/
def startPlace : Reader Look := do
  let f ← flags
  return if !f.multiline then .textStart else if f.wideLines then .lineStartWide else .lineStart

/-- The place that a dollar sign stands for. -/
def endPlace : Reader Look := do
  let f ← flags
  return if !f.multiline then .textEnd else if f.wideLines then .lineEndWide else .lineEnd

/-- Reads an expression of one character or place. -/
def single : Reader Regex := do
  let c ← next
  if c = '\\' then
    match ← escape with
    | .literal d byte => literal d byte
    | .set s => return .char s
    | .look l => place l
  else if c = '.' then dot
  else if c = '^' then place (← startPlace)
  else if c = '$' then place (← endPlace)
  else literal c false

/-! ## Repetitions -/

/-- The greatest count of a repetition. -/
def maxCount : Nat := 4294967295

/-- Reads the digits of a count behind others. -/
def digits : Nat → Text → Reader Text
  | 0, s => return s
  | fuel + 1, s => do
    match ← peek with
    | some c =>
      if isDigit c then
        skip
        skipSpace
        digits fuel (s ++ [c])
      else return s
    | none => return s

/-- Reads a count, with white space around. -/
def count : Reader Nat := do
  let _ ← takeWhile isBlank
  let s ← digits (← get).rest.length []
  let _ ← takeWhile isBlank
  if s.isEmpty || maxCount < digitsValue s then failure else return digitsValue s

/-- Reads what makes a repetition lazy, if it stands here. -/
def greed : Reader Bool := do
  let lazy ← eats ['?']
  return lazy == (← flags).swapGreed

/-- Reads the bounds of a repetition behind their opening brace. -/
def bounds : Reader (Nat × Option Nat) := do
  skipSpace
  let least ← count
  let c ← next
  if c = '}' then return (least, some least)
  else if c = ',' then
    skipSpace
    if ← eats ['}'] then return (least, none)
    let most ← count
    expect '}'
    if most < least then failure else return (least, some most)
  else failure

/-- Reads a repetition whose sign has been passed over. -/
def repetition (sign : Char) (body : Regex) : Reader Regex := do
  let (least, most) ←
    if sign = '?' then pure (0, some 1)
    else if sign = '*' then pure (0, none)
    else if sign = '+' then pure (1, none)
    else do
      let found ← bounds
      skipSpace
      pure found
  return repeated least most (← greed) body

/-! ## Groups -/

/-- The letters of the flags, and how they are set. -/
def flagLetters : List (Char × (Bool → Flags → Flags)) := [
  ('i', fun b f => { f with caseless := b }), ('m', fun b f => { f with multiline := b }),
  ('s', fun b f => { f with dotAll := b }), ('U', fun b f => { f with swapGreed := b }),
  ('u', fun b f => { f with unicode := b }), ('R', fun b f => { f with wideLines := b }),
  ('x', fun b f => { f with verbose := b })]

/-- The flags that letters set, each at most once; those behind a hyphen are cleared. -/
def flagsOf (on : Bool) (f : Flags) (seen : Text) : Text → Option Flags
  | [] => if !on && seen.head? = some '-' then none else some f
  | c :: rest =>
    if seen.contains c then none
    else if c = '-' then flagsOf false f (c :: seen) rest
    else do
      let change ← flagLetters.lookup c
      flagsOf on (change on f) (c :: seen) rest

/-- Whether the character may stand in the name of a group. -/
def isGroupNameChar (first : Bool) (c : Char) : Bool :=
  c = '_' || if first then isAlphanumeric c && !CharSet.digit.contains c
    else c = '.' || c = '[' || c = ']' || isAlphanumeric c

/-- Reads the name of a group and the bracket behind it. No two groups have one name. -/
def groupName : Reader Unit := do
  let name ← takeWhile (· ≠ '>')
  expect '>'
  let r ← get
  match name with
  | [] => failure
  | c :: rest =>
    if isGroupNameChar true c && rest.all (isGroupNameChar false) && !r.names.contains name then
      set { r with names := name :: r.names }
    else failure

/-- What stands behind the opening bracket of a group. -/
inductive Opening where
  /-- A group that records its part of the text. -/
  | capture (number : Nat)
  /-- A group that only holds together. -/
  | plain
  /-- No group: the flags hold from here on. -/
  | setting

def newGroup : Reader Opening := do
  modify fun r => { r with groups := r.groups + 1 }
  return .capture (← get).groups

/-- How looking at the text around is spelled. -/
def lookAround : List Text := ["?=".toList, "?!".toList, "?<=".toList, "?<!".toList]

/-- Reads what stands behind the opening bracket of a group, and sets the flags. -/
def opening : Reader Opening := do
  skipSpace
  let rest := (← get).rest
  if lookAround.any (·.isPrefixOf rest) then failure
  else if (← eats "?P<".toList) || (← eats "?<".toList) then
    let o ← newGroup
    groupName
    return o
  else if ← eats ['?'] then
    let letters ← takeWhile fun c => c ≠ ':' && c ≠ ')'
    match flagsOf true (← flags) [] letters with
    | none => failure
    | some f =>
      setFlags f
      let c ← next
      if c = ':' then return .plain
      else if letters.isEmpty then failure
      else return .setting
  else newGroup

mutual

def alternatives : Nat → Reader Regex
  | 0 => failure
  | fuel + 1 => do
    let first ← sequence [] fuel
    if ← eats ['|'] then return .alt first (← alternatives fuel) else return first

/-- Reads a sequence behind the given parts, the last of them first. A part may be a setting of
flags, which cannot be repeated. -/
def sequence (parts : List (Option Regex)) : Nat → Reader Regex
  | 0 => failure
  | fuel + 1 => do
    skipSpace
    match ← peek with
    | none => return ofList (parts.reduceOption.reverse)
    | some c =>
      if c = ')' || c = '|' then return ofList (parts.reduceOption.reverse)
      else if c = '(' then
        skip
        let before ← flags
        match ← opening with
        | .setting => sequence (none :: parts) fuel
        | .plain =>
          let r ← body before fuel
          sequence (some r :: parts) fuel
        | .capture n =>
          let r ← body before fuel
          sequence (some (.group n r) :: parts) fuel
      else if c = '[' then
        skip
        let s ← bracketed fuel
        sequence (some (.char s) :: parts) fuel
      else if c = '?' || c = '*' || c = '+' || c = '{' then
        match parts with
        | some r :: parts =>
          skip
          let r ← repetition c r
          sequence (some r :: parts) fuel
        | _ => failure
      else
        let r ← single
        sequence (some r :: parts) fuel

/-- Reads the inside of a group and its closing bracket. Flags set inside end with it. -/
def body (before : Flags) : Nat → Reader Regex
  | 0 => failure
  | fuel + 1 => do
    let r ← alternatives fuel
    expect ')'
    setFlags before
    return r

end

end Reader

/-- The expression that a text spells, if it spells one. -/
def parse? (s : Text) : Option Regex := do
  let (r, reading) ← Reader.alternatives (3 * s.length + 3) ⟨s, .standard, 0, []⟩
  if reading.rest.isEmpty then some r else none

end Explainer.Regex
