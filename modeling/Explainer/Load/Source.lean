import Explainer.Json.Basic
import Explainer.Load.Settle
import Explainer.Text.Duration

/-!
# Sources of template sets

A template set lives at a path made of a base, its name and a fixed frame. A source answers a path
with the text there, or with the reason for which there is none. Answers take time and may never
come.
-/

namespace Explainer.Load

/-- Why a resource could not be read although its path is known. -/
inductive IoCause where
  | notFound
  | isADirectory
  | notADirectory
  | nameTooLong
  | invalidUtf8
  | nulInName
  | other (reason : String)
deriving DecidableEq, Repr

def IoCause.message : IoCause → String
  | notFound => "No such file or directory (os error 2)"
  | isADirectory => "Is a directory (os error 21)"
  | notADirectory => "Not a directory (os error 20)"
  | nameTooLong => "File name too long (os error 36)"
  | invalidUtf8 => "stream did not contain valid UTF-8"
  | nulInName => "file name contained an unexpected NUL byte"
  | other reason => reason

/-- Why a resource could not be fetched. -/
inductive FetchError where
  | notFound (path : Text)
  | io (path : Text) (cause : IoCause)
  /-- There was no answer within a number of milliseconds. -/
  | timedOut (path : Text) (after : Nat)
deriving DecidableEq, Repr

def FetchError.message : FetchError → String
  | notFound p => "template resource not found: " ++ String.ofList p
  | io p c => "failed to read template resource " ++ String.ofList p ++ ": " ++ c.message
  | timedOut p ms =>
    "template resource " ++ String.ofList p ++ " did not settle within "
      ++ String.ofList (durationText ms)

def setPath (base name : Text) : Text := base ++ "errors.".toList ++ name ++ ".html".toList

abbrev Answer := Except FetchError Text

/-- A source: what becomes of the fetch of a path. -/
abbrev Source := Text → Course Answer

/-- What can be wrong with a resource in memory. -/
inductive Disturbance where
  /-- The fetch never ends. -/
  | hangs
  /-- The fetch takes its time. -/
  | slow
  /-- The fetch fails without an answer. -/
  | breaks
  /-- The resource cannot be read. -/
  | unreadable
deriving DecidableEq, Repr

/-- Resources in memory, some of which may be disturbed. -/
structure Memory where
  resources : Members Text
  disturbances : Members Disturbance

namespace Memory

def empty : Memory := ⟨[], []⟩

/-- Sets a resource if a text is given, and its disturbance; without one the resource is no longer
disturbed. -/
def provide (m : Memory) (path : Text) (body : Option Text) (disturbance : Option Disturbance) :
    Memory where
  resources := match body with
    | some text => Members.insert path text m.resources
    | none => m.resources
  disturbances := match disturbance with
    | some d => Members.insert path d m.disturbances
    | none => m.disturbances.filter (·.1 ≠ path)

def answer (m : Memory) (path : Text) : Answer :=
  match Members.find? path m.resources with
  | some text => .ok text
  | none => .error (.notFound path)

/-- How long a slow fetch takes, in milliseconds. -/
def slowness : Nat := 15

def source (m : Memory) : Source := fun path =>
  match Members.find? path m.disturbances with
  | none => ⟨0, .returns (m.answer path)⟩
  | some .hangs => ⟨0, .hangs⟩
  | some .slow => ⟨slowness, .returns (m.answer path)⟩
  | some .breaks => ⟨0, .fails⟩
  | some .unreadable => ⟨0, .returns (.error (.io path (.other "disk on fire")))⟩

end Memory

end Explainer.Load
