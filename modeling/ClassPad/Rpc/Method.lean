import ClassPad.Protocol.Params
import ClassPad.Rpc.Message
import ClassPad.Server

/-!
The methods that a client may call, and what they ask of the server. The server knows more methods
than it offers; those it refuses only after a look at the parameters.
-/

set_option autoImplicit false
set_option relaxedAutoImplicit false

namespace ClassPad

namespace Rpc

/-- A known method. -/
inductive Method where
  | begin
  /-- Ends the work. -/
  | finish
  /-- Ends the conversation. -/
  | exit
  | request (shape : Shape) (call : Json → Call)
  | notification (shape : Shape) (call : Json → Call)
  | refused (shape : Shape)
  | unheeded

namespace Method

open Protocol

def openedCall (params : Json) : Call :=
  let d := memberAt params "textDocument"
  .opened (uriAt d "uri") (textAt d "text").toList (intAt d "version")

def changedCall (params : Json) : Call :=
  let d := memberAt params "textDocument"
  .changed (uriAt d "uri") ((itemsAt params "contentChanges").map editOf) (intAt d "version")

def attended : List (String × Method) :=
  [ ("initialize", .begin),
    ("shutdown", .finish),
    ("exit", .exit),
    ("initialized", .notification (.record "InitializedParams" []) fun _ => .ready),
    ("textDocument/didOpen", .notification openedDocument openedCall),
    ("textDocument/didChange", .notification changedDocument changedCall),
    ("textDocument/didClose",
      .notification closedDocument fun params =>
        .closed (uriAt (memberAt params "textDocument") "uri")),
    ("workspace/didChangeConfiguration",
      .notification changedSettings fun params => .configured (memberAt params "settings")),
    ("workspace/didChangeWorkspaceFolders",
      .notification changedFolders fun _ => .foldersChanged),
    ("workspace/didChangeWatchedFiles", .notification changedFiles fun _ => .filesChanged),
    ("textDocument/completion", .request Protocol.completion fun _ => .complete),
    ("completionItem/resolve", .request Item.shape .resolve) ]

def ofName? (name : String) : Option Method :=
  match attended.lookup name with
  | some m => some m
  | none =>
    match Protocol.refused.lookup name with
    | some shape => some (.refused shape)
    | none => if Protocol.unheeded.contains name then some .unheeded else none

end Method

end Rpc

end ClassPad
