import ClassPad.Decode.Shape

/-!
Entries of a completion catalog: what is offered, under which label, and what is inserted.
-/

set_option autoImplicit false
set_option relaxedAutoImplicit false

namespace ClassPad

inductive EntryKind where
  | function
  | keyword
  | variable
  | operator
  | snippet
deriving DecidableEq, Repr

namespace EntryKind

def all : List EntryKind := [.function, .keyword, .variable, .operator, .snippet]

def name : EntryKind → String
  | .function => "function"
  | .keyword => "keyword"
  | .variable => "variable"
  | .operator => "operator"
  | .snippet => "snippet"

def ofName? (name : String) : Option EntryKind := all.find? fun k => k.name = name

/-- Kinds whose inserted text has places to fill in. -/
def hasSlots : EntryKind → Bool
  | .function => true
  | .snippet => true
  | _ => false

end EntryKind

/-- What the editor does after an entry is inserted. -/
inductive EntryCommand where
  | outdent
deriving DecidableEq, Repr

def EntryCommand.name : EntryCommand → String
  | .outdent => "outdent"

structure Entry where
  label : String
  kind : EntryKind
  detail : Option String
  documentation : Option String
  insertText : String
  command : Option EntryCommand
deriving DecidableEq, Repr

namespace Entry

/-- What an entry in JSON may have. -/
def fields : List Shape.Field :=
  [ ("label", .required, .text),
    ("kind", .required, .choice (EntryKind.all.map EntryKind.name)),
    ("detail", .spare, .text),
    ("documentation", .spare, .text),
    ("insert_text", .required, .text),
    ("command", .spare, .choice [EntryCommand.outdent.name]) ]

def shape : Shape := .record "CompletionEntry" fields

def member? (value : Json) (key : String) : Option String := (value.get? key).bind Json.str?

def ofNormal (value : Json) : Entry where
  label := (member? value "label").getD ""
  kind := ((member? value "kind").bind EntryKind.ofName?).getD .function
  detail := member? value "detail"
  documentation := member? value "documentation"
  insertText := (member? value "insert_text").getD ""
  command := (member? value "command").map fun _ => .outdent

def decodeList (value : Json) : Except DecodeError (List Entry) :=
  match (Shape.list shape).read value with
  | .error e => .error e
  | .ok (.arr items) => .ok (items.map ofNormal)
  | .ok _ => .ok []

/-- What an entry has under each key. -/
def members (e : Entry) : List (String × Option Json) :=
  [ ("label", some (.str e.label)),
    ("kind", some (.str e.kind.name)),
    ("detail", e.detail.map .str),
    ("documentation", e.documentation.map .str),
    ("insert_text", some (.str e.insertText)),
    ("command", e.command.map fun c => .str c.name) ]

def toJson (e : Entry) : Json := .ofPresent e.members

end Entry

end ClassPad
