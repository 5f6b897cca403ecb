import ClassPad.Document
import ClassPad.Settings

/-!
Diagnostics of a document. A word is a longest run of ASCII letters, digits and underscores; a word
of two or more characters, all of them capitals, is reported, up to the limit of the settings and
from left to right.
-/

set_option autoImplicit false
set_option relaxedAutoImplicit false

namespace ClassPad

namespace Text

def isWordChar (c : Char) : Bool :=
  ('0' ≤ c && c ≤ '9') || ('A' ≤ c && c ≤ 'Z') || ('a' ≤ c && c ≤ 'z') || c = '_'

def isCapital (c : Char) : Bool := 'A' ≤ c && c ≤ 'Z'

/-- Whether a word is reported. -/
def isLoud (word : List Char) : Bool := decide (2 ≤ word.length) && word.all isCapital

/-- A word of a text and where it stands. -/
structure Word where
  span : Span
  chars : List Char
deriving DecidableEq, Repr

/-- The word that a run of word characters is, the run newest first; nothing for an empty run. -/
def closeRun (start stop : Position) : List Char → List Word
  | [] => []
  | run => [⟨⟨start, stop⟩, run.reverse⟩]

/-- The words of a text that starts at `here`, after a run that started at `start`. -/
def wordsFrom (start here : Position) (run : List Char) : List Char → List Word
  | [] => closeRun start here run
  | c :: rest =>
    let next := here.advance (stride c rest.head?)
    if isWordChar c then wordsFrom (if run.isEmpty then here else start) next (c :: run) rest
    else
      match closeRun start here run with
      | [] => wordsFrom next next [] rest
      | word :: _ => word :: wordsFrom next next [] rest

def words (text : List Char) : List Word := wordsFrom .zero .zero [] text

def loudWords (text : List Char) : List Word := (words text).filter fun w => isLoud w.chars

end Text

/-- A remark that belongs to a diagnostic. -/
structure Note where
  uri : Uri
  span : Span
  message : String
deriving DecidableEq, Repr

/-- A finding in a document. Notes are given only to clients that can show them. -/
structure Diagnostic where
  span : Span
  message : String
  notes : Option (List Note)
deriving DecidableEq, Repr

namespace Diagnostic

def remarks : List String := ["Spelling matters", "Particularly for names"]

def ofWord (uri : Uri) (related : Bool) (w : Text.Word) : Diagnostic where
  span := w.span.sent
  message := String.ofList w.chars ++ " is all uppercase."
  notes := if related then some (remarks.map fun m => ⟨uri, w.span.sent, m⟩) else none

end Diagnostic

namespace Document

/-- The diagnostics of a document under settings. -/
def validate (d : Document) (settings : Settings) (related : Bool) : List Diagnostic :=
  ((Text.loudWords d.text).take settings.maxNumberOfProblems).map (Diagnostic.ofWord d.uri related)

end Document

end ClassPad
