import Explainer.Json.Basic

/-!
# Element names

Names are compared in upper case. The names that the language knows have a type each; all others
share one type, the custom one. Two questions decide where elements end without an end tag: which
names never have content, and which names an element cannot contain.
-/

namespace Explainer.Markup

/-- An element name in upper case. -/
abbrev ElementName := Text

namespace ElementName

/-- Whether the character may stand in a tag name. -/
def isNameChar (c : Char) : Bool := c.isAlphanum || c = '-' || c = ':'

def ofText (s : Text) : ElementName := s.map Char.toUpper

/-- The names of a line of words. -/
def list (s : String) : List ElementName := (s.toList.splitOn ' ').map ofText

/-- Elements without content. -/
def voids : List ElementName :=
  list ("area base basefont bgsound br col command embed frame hr image img input isindex keygen "
    ++ "link menuitem meta nextid param source track wbr")

/-- Elements that may have content and whose names have a type of their own. -/
def containers : List ElementName :=
  list ("a abbr address article aside audio b bdi bdo blockquote body button canvas caption cite "
    ++ "code colgroup data datalist dd del details dfn dialog div dl dt em fieldset figcaption "
    ++ "figure footer form h1 h2 h3 h4 h5 h6 head header hgroup html i iframe ins kbd label "
    ++ "legend li main map mark math menu meter nav noscript object ol optgroup option output p "
    ++ "picture pre progress q rb rp rt rtc ruby s samp script section select slot small span "
    ++ "strong style sub summary sup svg table tbody td template textarea tfoot th thead time "
    ++ "title tr u ul var video")

/-- Elements that end an open paragraph. -/
def paragraphEnders : List ElementName :=
  list ("address article aside blockquote details div dl fieldset figcaption figure footer form "
    ++ "h1 h2 h3 h4 h5 h6 header hr main nav ol p pre section")

/-- Elements that end with the document. -/
def documentParts : List ElementName := list "html head body"

/-- For each name with restrictions, the names that the element cannot contain. -/
def exclusions : List (ElementName × List ElementName) := [
  (ofText "li".toList, list "li"),
  (ofText "dt".toList, list "dt dd"),
  (ofText "dd".toList, list "dt dd"),
  (ofText "p".toList, paragraphEnders),
  (ofText "rb".toList, list "rb rt rp"),
  (ofText "rt".toList, list "rb rt rp"),
  (ofText "rp".toList, list "rb rt rp"),
  (ofText "optgroup".toList, list "optgroup"),
  (ofText "tr".toList, list "tr"),
  (ofText "td".toList, list "td th tr"),
  (ofText "th".toList, list "td th tr")]

/-- The elements that hold raw text. -/
def script : ElementName := ofText "script".toList
@[inherit_doc script] def style : ElementName := ofText "style".toList

def columnGroup : ElementName := ofText "colgroup".toList

/-- The only name that a group of table columns contains. -/
def column : ElementName := ofText "col".toList

/-- Whether the element never has content. -/
def isVoid (n : ElementName) : Bool := voids.contains n

/-- Whether the name has a type of its own. -/
def isKnown (n : ElementName) : Bool := containers.contains n || voids.contains n

def sameType (a b : ElementName) : Bool := a == b || (!isKnown a && !isKnown b)

def canContain (parent child : ElementName) : Bool :=
  if parent = columnGroup then child == column
  else match Members.find? parent exclusions with
    | some excluded => !excluded.contains child
    | none => true

end ElementName

end Explainer.Markup
