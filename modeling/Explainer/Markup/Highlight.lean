import Explainer.Event
import Explainer.Interval
import Explainer.Markup.Element

/-!
# Highlights in markup

An element with a highlight attribute marks a range of source text. The highlights of a text are
all read before any of them is used: one malformed descriptor, and there are none. Nor are there
any if the text itself cannot be read.
-/

namespace Explainer.Markup

/-- The attribute that holds a highlight descriptor. -/
def highlightAttribute : Text := "data-highlight".toList

/-- An element that marks a range of source text. -/
structure Highlight where
  /-- Its number among the highlights, from zero. -/
  index : Nat
  interval : Interval
  tagName : Text
  content : Text
deriving DecidableEq, Repr

/-- The interval that an element marks, if it marks one. -/
def Element.highlight? (e : Element) : Option (Except IntervalError Interval) :=
  (e.attribute? highlightAttribute).map Interval.parse

/-- Reads the highlights of elements, numbering them from `index`. -/
def highlightsFrom (source : Text) (index : Nat) :
    List Element → Except IntervalError (List Highlight)
  | [] => .ok []
  | e :: rest =>
    match e.highlight? with
    | none => highlightsFrom source index rest
    | some (.error err) => .error err
    | some (.ok interval) =>
      (highlightsFrom source (index + 1) rest).map
        (⟨index, interval, e.tagName, e.innerMarkup source⟩ :: ·)

/-- The highlights of a markup text that has been read. -/
def Fragment.highlights (f : Fragment) : Except IntervalError (List Highlight) :=
  highlightsFrom f.source 0 f.elements

/-- What the search for highlights reports. -/
def Fragment.highlightEvents (f : Fragment) : List Event :=
  if f.hasErrors then [.scopeMalformed f.source.utf8Length] else []

/-- Why there are no highlights of a markup text. -/
inductive HighlightError where
  /-- The text could not be read. -/
  | markup (cause : MarkupError)
  /-- A descriptor is malformed. -/
  | interval (cause : IntervalError)
deriving DecidableEq, Repr

def HighlightError.message : HighlightError → String
  | markup cause => cause.message
  | interval cause => cause.message

/-- The arguments of a call for one highlight: start, stop and number. -/
abbrev HighlightCall := Nat × Option Nat × Nat

/-- The call for a highlight. -/
def Highlight.call (h : Highlight) : HighlightCall := (h.interval.start, h.interval.stop, h.index)

namespace Reader

/-- The highlights of a markup text. -/
def highlights (r : Reader) (scope : Text) : Except HighlightError (List Highlight) :=
  match r.read scope with
  | .error cause => .error (.markup cause)
  | .ok f => f.highlights.mapError .interval

def highlightEvents (r : Reader) (scope : Text) : List Event :=
  match r.read scope with
  | .error _ => []
  | .ok f => f.highlightEvents

/-- Counts the highlights and calls `callback` for each of them, when all have been read. The
state `s` is what the calls change. -/
def enumerateHighlights {σ : Type} (r : Reader) (scope : Text) (callback : σ → HighlightCall → σ)
    (s : σ) : Except HighlightError Nat × σ :=
  match r.highlights scope with
  | .ok found => (.ok found.length, (found.map (·.call)).foldl callback s)
  | .error err => (.error err, s)

end Reader

end Explainer.Markup
