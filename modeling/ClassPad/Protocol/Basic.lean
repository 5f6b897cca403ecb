import ClassPad.Decode.Shape
import ClassPad.Diagnostic

/-!
Values that many messages between editor and server share, and their forms in JSON.
-/

set_option autoImplicit false
set_option relaxedAutoImplicit false

namespace ClassPad

def Position.toJson (p : Position) : Json :=
  .object [("line", .nat p.line), ("character", .nat p.character)]

def Span.toJson (s : Span) : Json := .object [("start", s.start.toJson), ("end", s.stop.toJson)]

def Note.toJson (n : Note) : Json :=
  .object
    [ ("location", .object [("uri", .str n.uri.text), ("range", n.span.toJson)]),
      ("message", .str n.message) ]

def Diagnostic.severity : Nat := 2

def Diagnostic.toJson (d : Diagnostic) : Json :=
  .ofPresent
    [ ("range", some d.span.toJson),
      ("severity", some (.nat severity)),
      ("source", some (.str "classpad")),
      ("message", some (.str d.message)),
      ("relatedInformation", d.notes.map fun notes => .arr (notes.map Note.toJson)) ]

namespace Protocol

open Shape

def position : Shape := .record "Position" [req "line" uint32, req "character" uint32]

def range : Shape := .record "Range" [req "start" position, req "end" position]

def location : Shape := .record "Location" [req "uri" .uri, req "range" range]

def markup : Shape :=
  .record "MarkupContent" [req "kind" (.choice ["plaintext", "markdown"]), req "value" .text]

def textEdit : Shape := .record "TextEdit" [req "range" range, req "newText" .text]

def commandFields : List Field :=
  [req "title" .text, req "command" .text, opt "arguments" (.list .any)]

def command : Shape := .record "Command" commandFields

def contentChange : Shape :=
  .record "TextDocumentContentChangeEvent"
    [opt "range" range, opt "rangeLength" uint32, req "text" .text]

def natAt (value : Json) (key : String) : Nat := (((value.get? key).bind Json.int?).getD 0).toNat

def intAt (value : Json) (key : String) : Int := ((value.get? key).bind Json.int?).getD 0

def textAt (value : Json) (key : String) : String := ((value.get? key).bind Json.str?).getD ""

/-- A member of a normal form, null if it is absent. -/
def memberAt (value : Json) (key : String) : Json := (value.get? key).getD .null

def itemsAt (value : Json) (key : String) : List Json := ((value.get? key).bind Json.arr?).getD []

/-- An address in a member of a normal form, which holds it in its normal spelling. -/
def uriAt (value : Json) (key : String) : Uri := ⟨textAt value key⟩

def positionOf (value : Json) : Position := ⟨natAt value "line", natAt value "character"⟩

def spanOf (value : Json) : Span :=
  ⟨positionOf (memberAt value "start"), positionOf (memberAt value "end")⟩

def editOf (value : Json) : Edit :=
  let text := (textAt value "text").toList
  match value.get? "range" with
  | some range => .replace (spanOf range) text
  | none => .replaceAll text

def decodeEdits (value : Json) : Except DecodeError (List Edit) :=
  match (Shape.list contentChange).read value with
  | .error e => .error e
  | .ok (.arr items) => .ok (items.map editOf)
  | .ok _ => .ok []

end Protocol

end ClassPad
