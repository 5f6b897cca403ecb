import ClassPad.Catalog.Entry
import ClassPad.Protocol.Basic

/-!
Completion items: entries as an editor is offered them. An editor may send an item back to have it
completed; since items are complete from the start, it gets the same item.
-/

set_option autoImplicit false
set_option relaxedAutoImplicit false

namespace ClassPad

/-- An item as the server offers it. -/
structure Item where
  label : String
  kind : Nat
  detail : Option String
  documentation : Option String
  insertText : String
  /-- 2 if the text has places to fill in, 1 if it is plain. -/
  insertTextFormat : Nat
  command : Option EntryCommand
deriving DecidableEq, Repr

/-- The editor's number of a kind. -/
def EntryKind.code : EntryKind → Nat
  | .function => 3
  | .keyword => 14
  | .variable => 6
  | .operator => 24
  | .snippet => 15

def Entry.toItem (e : Entry) : Item where
  label := e.label
  kind := e.kind.code
  detail := e.detail
  documentation := e.documentation
  insertText := e.insertText
  insertTextFormat := if e.kind.hasSlots then 2 else 1
  command := e.command

namespace EntryCommand

/-- What the editor shows of a command and the name that it knows it by. -/
def members : EntryCommand → List (String × Option Json)
  | .outdent =>
    [("title", some (.str "Outdent")), ("command", some (.str "editor.action.outdentLines"))]

def toJson (c : EntryCommand) : Json := .ofPresent c.members

end EntryCommand

namespace Item

def members (i : Item) : List (String × Option Json) :=
  [ ("label", some (.str i.label)),
    ("kind", some (.nat i.kind)),
    ("detail", i.detail.map .str),
    ("documentation", i.documentation.map .str),
    ("insertText", some (.str i.insertText)),
    ("insertTextFormat", some (.nat i.insertTextFormat)),
    ("command", i.command.map EntryCommand.toJson) ]

def toJson (i : Item) : Json := .ofPresent i.members

open Shape in
/-- What an item in JSON may have, which is more than the server offers. -/
def fields : List Field :=
  [ req "label" .text,
    opt "labelDetails"
      (.record "CompletionItemLabelDetails" [opt "detail" .text, opt "description" .text]),
    opt "kind" i32,
    opt "detail" .text,
    opt "documentation" (.oneOf "Documentation" [.text, Protocol.markup]),
    opt "deprecated" .bool,
    opt "preselect" .bool,
    opt "sortText" .text,
    opt "filterText" .text,
    opt "insertText" .text,
    opt "insertTextFormat" i32,
    opt "insertTextMode" i32,
    opt "textEdit"
      (.oneOf "CompletionTextEdit"
        [ Protocol.textEdit,
          .record "InsertReplaceEdit"
            [req "newText" .text, req "insert" Protocol.range, req "replace" Protocol.range] ]),
    opt "additionalTextEdits" (.list Protocol.textEdit),
    opt "command" Protocol.command,
    opt "commitCharacters" (.list .text),
    opt "data" .any,
    opt "tags" (.list i32) ]

def shape : Shape := .record "CompletionItem" fields

/-- The item that an editor gets back for one that it sends, in JSON. -/
def resolve (value : Json) : Except DecodeError Json := shape.read value

end Item

end ClassPad
