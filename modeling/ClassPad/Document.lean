import ClassPad.Position
import ClassPad.Uri.Basic

/-!
Open documents. An editor keeps a document in step by edits, each of which replaces the whole text
or the part between two positions; the positions of an edit are those of the text that the edits
before it have left.
-/

set_option autoImplicit false
set_option relaxedAutoImplicit false

namespace ClassPad

/-- A change of a text. -/
inductive Edit where
  | replaceAll (text : List Char)
  | replace (span : Span) (text : List Char)
deriving DecidableEq, Repr

/-- The text after an edit. A span whose end lies before its start is empty. -/
def Edit.apply (text : List Char) : Edit → List Char
  | .replaceAll new => new
  | .replace span new =>
    let start := Text.offsetAt text span.start
    let stop := max (Text.offsetAt text span.stop) start
    text.take start ++ new ++ text.drop stop

/-- A document that an editor holds open. -/
structure Document where
  uri : Uri
  text : List Char
  version : Int
deriving DecidableEq, Repr

namespace Document

/-- The document after a notification of edits, with the version that came with them. -/
def applyEdits (d : Document) (edits : List Edit) (version : Int) : Document :=
  { d with text := edits.foldl Edit.apply d.text, version := version }

/-- The position of a byte offset, as it is sent. -/
def sentPosition (d : Document) (offset : Nat) : Position :=
  (Text.positionOfByte d.text offset).sent

def lineCount (d : Document) : Nat := Text.lineCount d.text

end Document

end ClassPad
