import Explainer.Markup.ElementName

/-!
# Tokens of markup

What a stretch of markup is depends on where it stands: a word is text between tags, a name or a
value inside one. So the grammar says which tokens it admits and the lexer looks for those. A
token belongs to one of two families. The first needs the names of the open elements: tag names,
the ends of elements that are implied and not written, raw text, comments. The second is regular.

Where neither finds an admitted token, all tokens are admitted; where that fails too, characters
are skipped up to the next place at which some token starts, and are together a token of junk.
-/

namespace Explainer.Markup

/-- The terminal symbols. Those before `comment` can be supposed where they are missing, in this
order. -/
inductive Terminal where
  /-- The end of the markup. -/
  | ended
  | declarationOpen
  | doctypeBody
  | close
  | doctypeWord
  | tagOpen
  | selfClose
  | endOpen
  | equals
  | attributeName
  | attributeValue
  | entity
  | apostrophe
  | apostropheText
  | quote
  | quoteText
  | text
  | tagName
  | scriptName
  | styleName
  | endName
  | strayEndName
  | impliedEnd
  | rawText
  | comment
  /-- Characters that are no token. -/
  | junk
deriving DecidableEq, Repr

namespace Terminal

/-- The terminals that can be supposed where they are missing. -/
def supposable : List Terminal := [
  declarationOpen, doctypeBody, close, doctypeWord, .tagOpen, selfClose, endOpen, equals,
  attributeName, attributeValue, entity, apostrophe, apostropheText, quote, quoteText, text,
  tagName, scriptName, styleName, endName, strayEndName, impliedEnd, rawText, comment]

/-- Whether the terminal is shown in the tree. -/
def isVisible : Terminal → Bool
  | ended | doctypeBody | impliedEnd => false
  | _ => true

end Terminal

/-- A place in the markup: how much is before it, in bytes and in line feeds, and what follows. -/
structure Place where
  byte : Nat
  row : Nat
  rest : Text

namespace Place

/-- The place before a whole text. -/
def start (s : Text) : Place := ⟨0, 0, s⟩

/-- The place after `n` more characters, or at the end if there are fewer. -/
def advance : Nat → Place → Place
  | 0, p => p
  | n + 1, p => match p.rest with
    | [] => p
    | c :: r => advance n ⟨p.byte + c.utf8Size, p.row + (if c = '\n' then 1 else 0), r⟩

/-- Whether the character may be skipped between tokens. -/
def isSpace (c : Char) : Bool := c = ' ' || (9 ≤ c.toNat && c.toNat ≤ 13)

/-- The place after the white space that follows. -/
def skipSpace (p : Place) : Place := p.advance (p.rest.takeWhile isSpace).length

end Place

/-- What the lexer expects at a place, as far as regular tokens are concerned. -/
inductive LexMode where
  /-- Any token that needs no context. -/
  | any
  /-- Between tags. -/
  | content
  /-- Inside a tag. -/
  | tag
  /-- After an equals sign. -/
  | value
  /-- Inside apostrophes. -/
  | apostrophe
  /-- Inside quotes. -/
  | quote
  /-- Inside a doctype. -/
  | doctype
deriving DecidableEq, Repr

namespace Lexer

/-- How far a regular token was followed: the token and its length if one was found, and the
number of characters that still looked like a token. -/
structure Scan where
  found : Option (Terminal × Nat)
  seen : Nat

def token (t : Terminal) (n : Nat) : Scan := ⟨some (t, n), n⟩

/-- No token, after `n` characters that might have become one. -/
def nothing (n : Nat) : Scan := ⟨none, n⟩

/-- The number of characters at the start of a text that satisfy `p`, at most `limit`. -/
def run (p : Char → Bool) (limit : Nat) (s : Text) : Nat := ((s.take limit).takeWhile p).length

/-- Whether the character is a hexadecimal digit. -/
def isHexDigit (c : Char) : Bool :=
  c.isDigit || ('a' ≤ c && c ≤ 'f') || ('A' ≤ c && c ≤ 'F')

/-- One if a semicolon follows after `n` characters, else zero. -/
def semicolonAfter (n : Nat) (s : Text) : Nat := if (s.drop n).head? = some ';' then 1 else 0

/-- An entity whose body has `n` characters and begins after `lead` of them; the text starts
after the ampersand. -/
def entityOf (lead n : Nat) (s : Text) : Scan :=
  if n = 0 then nothing (1 + lead)
  else token .entity (1 + lead + n + semicolonAfter (lead + n) s)

/-- An entity after its ampersand. -/
def entity (s : Text) : Scan :=
  match s with
  | '#' :: 'x' :: r | '#' :: 'X' :: r => entityOf 2 (run isHexDigit 6 r) s
  | '#' :: r => entityOf 1 (run Char.isDigit 5 r) s
  | _ => entityOf 0 (run Char.isAlpha 30 s) s

/-- The length of the text token that starts here: up to the next markup character, without
white space at the end. -/
def textLength (s : Text) : Nat :=
  let line := s.takeWhile fun c => c ≠ '<' && c ≠ '>' && c ≠ '&'
  (line.reverse.dropWhile Place.isSpace).length

/-- Whether the character may stand in an unquoted attribute value. -/
def isValueChar (c : Char) : Bool :=
  !(c = '<' || c = '>' || c = '"' || c = '\'' || c = '=' || Place.isSpace c)

/-- Whether the character may stand in an attribute name. -/
def isAttributeNameChar (c : Char) : Bool := isValueChar c && c ≠ '/'

/-- The token of the longest run of characters that satisfy `p`, if there is one. -/
def runToken (t : Terminal) (p : Char → Bool) (s : Text) : Scan :=
  match (s.takeWhile p).length with
  | 0 => nothing 0
  | n => token t n

def doctypeWord : Text := "doctype".toList

/-- The number of characters in which a text agrees with the doctype word in any case. -/
def doctypeAgreement : Text → Text → Nat
  | w :: ws, c :: r => if c.toLower = w then doctypeAgreement ws r + 1 else 0
  | _, _ => 0

/-- A token at the start of an opening angle bracket; the text starts after it. -/
def angle : Text → Scan
  | '!' :: _ => token .declarationOpen 2
  | '/' :: _ => token .endOpen 2
  | _ => token .tagOpen 1

/-- The regular token of a mode at the start of a text, white space aside. -/
def scan (mode : LexMode) (s : Text) : Scan :=
  match mode, s with
  | .any, [] | .content, [] => token .ended 0
  | .any, '<' :: r | .content, '<' :: r => angle r
  | .any, '&' :: r | .content, '&' :: r => entity r
  | .any, '>' :: _ | .tag, '>' :: _ => token .close 1
  | .any, '=' :: _ | .tag, '=' :: _ => token .equals 1
  | .any, '/' :: r | .tag, '/' :: r =>
    if r.head? = some '>' then token .selfClose 2 else nothing 1
  | .any, '\'' :: _ | .value, '\'' :: _ | .apostrophe, '\'' :: _ => token .apostrophe 1
  | .any, '"' :: _ | .value, '"' :: _ | .quote, '"' :: _ => token .quote 1
  | .any, s =>
    let n := doctypeAgreement doctypeWord s
    if n = doctypeWord.length then token .doctypeWord n else nothing n
  | .content, s => match textLength s with
    | 0 => nothing 0
    | n => token .text n
  | .tag, s => runToken .attributeName isAttributeNameChar s
  | .value, s => runToken .attributeValue isValueChar s
  | .apostrophe, s => runToken .apostropheText (· ≠ '\'') s
  | .quote, s => runToken .quoteText (· ≠ '"') s
  | .doctype, s => runToken .doctypeBody (· ≠ '>') s

/-- Whether white space before a token of the mode is skipped. -/
def skipsSpace : LexMode → Bool
  | .apostrophe | .quote | .doctype => false
  | _ => true

/-- A contextual token: where it starts and stops, and the open elements after it. -/
structure Contextual where
  terminal : Terminal
  start : Place
  stop : Place
  names : List ElementName

/-- The length of a comment after its opening, up to and with the first `>` that two dashes
precede; `dashes` counts those just read. -/
def commentLength? (dashes : Nat) : Text → Option Nat
  | [] => none
  | c :: r =>
    if c = '\x00' then none
    else if c = '-' then (commentLength? (dashes + 1) r).map (· + 1)
    else if c = '>' && 2 ≤ dashes then some 1
    else (commentLength? 0 r).map (· + 1)

/-- The length of raw text: up to the end tag of the element that holds it. `left` is what of the
end tag is still to come, `read` counts the characters read, `kept` those that belong to the
text. -/
def rawLength (endTag : Text) (left : Text) (read kept : Nat) : Text → Nat
  | [] => kept
  | c :: r =>
    if c = '\x00' then kept
    else match left with
      | [] => kept
      | w :: ws =>
        if c.toUpper = w then
          if ws.isEmpty then kept else rawLength endTag ws (read + 1) kept r
        else rawLength endTag endTag (read + 1) (read + 1) r

/-- The name at the start of a text, and what follows it. -/
def readName (s : Text) : ElementName × Text :=
  (.ofText (s.takeWhile ElementName.isNameChar), s.dropWhile ElementName.isNameChar)

/-- The open elements after the innermost one has been closed by implication, if what follows (a
tag after its angle bracket, or the end) implies that. -/
def impliedEnd? (names : List ElementName) (s : Text) : Option (List ElementName) :=
  match s with
  | '/' :: r =>
    let (name, rest) := readName r
    if name.isEmpty && !rest.isEmpty then none
    else if names.head? = some name then none
    else if names.any (·.sameType name) then some names.tail
    else none
  | _ => match names with
    | [] => none
    | parent :: outer =>
      let (name, rest) := readName s
      if parent.isVoid then some outer
      else if name.isEmpty && !rest.isEmpty then none
      else if !parent.canContain name then some outer
      else if ElementName.documentParts.contains parent && rest.isEmpty then some outer
      else none

/-- The name of a start tag, which opens an element. -/
def startName? (names : List ElementName) (p : Place) : Option Contextual :=
  let (name, _) := readName p.rest
  if name.isEmpty then none
  else
    let t : Terminal :=
      if name = ElementName.script then .scriptName
      else if name = ElementName.style then .styleName
      else .tagName
    some ⟨t, p, p.advance name.length, name :: names⟩

/-- The name of an end tag, which closes the innermost element or nothing. -/
def endName? (names : List ElementName) (p : Place) : Option Contextual :=
  let (name, _) := readName p.rest
  if name.isEmpty then none
  else if names.head? = some name then some ⟨.endName, p, p.advance name.length, names.tail⟩
  else some ⟨.strayEndName, p, p.advance name.length, names⟩

/-- The raw text of the innermost element. -/
def rawText? (names : List ElementName) (p : Place) : Option Contextual :=
  match names with
  | [] => none
  | name :: _ =>
    let endTag := if name = ElementName.script then "</SCRIPT".toList else "</STYLE".toList
    some ⟨.rawText, p, p.advance (rawLength endTag endTag 0 0 p.rest), names⟩

/-- The contextual token at a place, among those that `admits` allows. -/
def contextual? (admits : Terminal → Bool) (names : List ElementName) (p : Place) :
    Option Contextual :=
  if admits .rawText && !admits .tagName && !admits .endName then rawText? names p
  else
    let p := p.skipSpace
    let implied (s : Text) : Option Contextual :=
      if admits .impliedEnd then
        (impliedEnd? names s).map fun names => ⟨.impliedEnd, p, p, names⟩
      else none
    match p.rest with
    | '<' :: '!' :: r =>
      match r with
      | '-' :: '-' :: r =>
        (commentLength? 0 r).map fun n => ⟨.comment, p, p.advance (4 + n), names⟩
      | _ => none
    | '<' :: r => implied r
    | [] => implied []
    | '\x00' :: r => implied ('\x00' :: r)
    | '/' :: r =>
      if admits .selfClose && r.head? = some '>' then
        match names with
        | [] => some ⟨.tagName, p, p.advance 2, []⟩
        | _ :: outer => some ⟨.selfClose, p, p.advance 2, outer⟩
      else none
    | _ =>
      if admits .rawText then none
      else if admits .tagName then startName? names p
      else if admits .endName then endName? names p
      else none

end Lexer

/-- A token of markup. A contextual one carries the open elements after it. -/
structure Lexeme where
  terminal : Terminal
  start : Place
  stop : Place
  names : Option (List ElementName)

namespace Lexer

/-- The regular token at a place, and the place up to which characters might have become one. -/
def regular (mode : LexMode) (p : Place) : Option Lexeme × Place × Place :=
  let start := if skipsSpace mode then p.skipSpace else p
  let s := scan mode start.rest
  (s.found.map fun (t, n) => ⟨t, start, start.advance n, none⟩, start, start.advance s.seen)

/-- The contextual token at a place that `keep` does not refuse. -/
def contextualToken? (admits : Terminal → Bool) (keepEmpty : Terminal → Bool)
    (names : List ElementName) (p : Place) : Option Lexeme :=
  match contextual? admits names p with
  | none => none
  | some c =>
    if c.stop.byte ≤ p.byte && c.names = names && !keepEmpty c.terminal then none
    else some ⟨c.terminal, c.start, c.stop, some c.names⟩

/-- Any token at a place, or the places around what looked like one. -/
def anyToken (names : List ElementName) (p : Place) : Option Lexeme × Place × Place :=
  match contextualToken? (fun _ => true) (fun _ => false) names p with
  | some t => (some t, p, p)
  | none => regular .any p

/-- The place at which the next token after junk starts. `stop` is the end of the junk so far,
`seen` the place up to which the last attempt looked. -/
def junkEnd (names : List ElementName) : Nat → Place → Place → Place
  | 0, stop, _ => stop
  | fuel + 1, stop, seen =>
    let next := if seen.byte = stop.byte then seen.advance 1 else seen
    match anyToken names next with
    | (some _, _, _) => next
    | (none, _, seen) => junkEnd names fuel next seen

/-- The next token at a place. `admits` and `mode` say what the grammar expects, `keepEmpty` which
contextual tokens may be empty. -/
def next (admits : Terminal → Bool) (mode : LexMode) (keepEmpty : Terminal → Bool)
    (names : List ElementName) (p : Place) : Lexeme :=
  match contextualToken? admits keepEmpty names p with
  | some t => t
  | none => match regular mode p with
    | (some t, _, _) => t
    | (none, _, _) => match anyToken names p with
      | (some t, _, _) => t
      | (none, start, seen) => ⟨.junk, start, junkEnd names (p.rest.length + 1) start seen, none⟩

end Lexer

end Explainer.Markup
