import Explainer.Load.Extractors
import Explainer.Renderer

/-!
# Settings

What a program chooses about the explanation of errors: where the template sets are and which are
wanted, how templates are marked, how long fetches may take, what becomes of duplicates, and
whether missing fields are errors.
-/

namespace Explainer

/-- The settings of a program. -/
structure Config where
  /-- What the paths of template sets begin with. -/
  basePath : Text
  /-- The wanted template sets. -/
  templateSets : List Text
  /-- The class that marks templates. -/
  markerClass : Text
  /-- How long fetches may take, in milliseconds. -/
  fetchTimeout : Option Nat
  duplicatePolicy : DuplicatePolicy
  /-- Whether a missing field is an error. -/
  strictFields : Bool
deriving DecidableEq, Repr

namespace Config

/-- The settings of a program that chooses nothing. -/
def standard : Config where
  basePath := "templates/".toList
  templateSets := []
  markerClass := Markup.defaultMarker
  fetchTimeout := none
  duplicatePolicy := .lastWins
  strictFields := false

def registry (c : Config) : Registry := .empty c.duplicatePolicy

def renderer (c : Config) (delimiters : Template.Delimiters) : Renderer :=
  ⟨c.strictFields, delimiters⟩

def loader (c : Config) (reader : Markup.Reader) (source : Load.Source) : Load.Loader :=
  ⟨source, .markup reader c.markerClass, c.fetchTimeout⟩

end Config

/-- The loader of a source in a program that chooses nothing. -/
def Load.Loader.standard (reader : Markup.Reader) (source : Load.Source) : Load.Loader :=
  Config.standard.loader reader source

end Explainer
