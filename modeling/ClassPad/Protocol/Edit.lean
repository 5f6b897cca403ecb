import ClassPad.Protocol.Basic

/-!
Forms of edits and of what carries them: changes across files, code actions, hints, and the items of
call and type hierarchies. A change lists new texts by document, or a sequence of operations.
-/

set_option autoImplicit false
set_option relaxedAutoImplicit false

namespace ClassPad

namespace Protocol

open Shape

/-- A number or a text that names something, such as work in progress. -/
def token : Shape := .oneOf "NumberOrString" [i32, .text]

def diagnostic : Shape :=
  .record "Diagnostic"
    [ req "range" range,
      opt "severity" i32,
      opt "code" token,
      opt "codeDescription" (.record "CodeDescription" [req "href" .uri]),
      opt "source" .text,
      req "message" .text,
      opt "relatedInformation"
        (.list
          (.record "DiagnosticRelatedInformation" [req "location" location, req "message" .text])),
      opt "tags" (.list i32),
      opt "data" .any ]

/-- An edit of a document's text that bears the name of an annotation. -/
def annotatedEdit : Shape :=
  .merged "AnnotatedTextEdit" [req "annotationId" .text]
    [[req "range" range, req "newText" .text]]

def documentEdit : Shape :=
  .record "TextDocumentEdit"
    [ req "textDocument"
        (.record "OptionalVersionedTextDocumentIdentifier" [req "uri" .uri, opt "version" i32]),
      req "edits" (.list (.oneOf "OneOf" [textEdit, annotatedEdit])) ]

def fileOperation : Shape :=
  .tagged "kind"
    [ ("create",
        .record "CreateFile"
          [ req "uri" .uri,
            opt "options"
              (.record "CreateFileOptions" [opt "overwrite" .bool, opt "ignoreIfExists" .bool]),
            opt "annotationId" .text ]),
      ("rename",
        .record "RenameFile"
          [ req "oldUri" .uri,
            req "newUri" .uri,
            opt "options"
              (.record "RenameFileOptions" [opt "overwrite" .bool, opt "ignoreIfExists" .bool]),
            opt "annotationId" .text ]),
      ("delete",
        .record "DeleteFile"
          [ req "uri" .uri,
            opt "options"
              (.record "DeleteFileOptions"
                [ opt "recursive" .bool,
                  opt "ignoreIfNotExists" .bool,
                  opt "annotationId" .text ]) ]) ]

def workspaceEdit : Shape :=
  .record "WorkspaceEdit"
    [ ("changes", .spare, .table "map" .uri (.list textEdit)),
      opt "documentChanges"
        (.oneOf "DocumentChanges"
          [ .list documentEdit,
            .list (.oneOf "DocumentChangeOperation" [fileOperation, documentEdit]) ]),
      opt "changeAnnotations"
        (.table "a map" .text
          (.record "ChangeAnnotation"
            [ req "label" .text,
              opt "needsConfirmation" .bool,
              opt "description" .text ])) ]

def codeAction : Shape :=
  .record "CodeAction"
    [ req "title" .text,
      opt "kind" .text,
      opt "diagnostics" (.list diagnostic),
      opt "edit" workspaceEdit,
      opt "command" command,
      opt "isPreferred" .bool,
      opt "disabled" (.record "CodeActionDisabled" [req "reason" .text]),
      opt "data" .any ]

def hintPart : Shape :=
  .record "InlayHintLabelPart"
    [ req "value" .text,
      opt "tooltip" (.oneOf "InlayHintLabelPartTooltip" [.text, markup]),
      opt "location" location,
      opt "command" command ]

def inlayHint : Shape :=
  .record "InlayHint"
    [ req "position" position,
      req "label" (.oneOf "InlayHintLabel" [.text, .list hintPart]),
      opt "kind" i32,
      opt "textEdits" (.list textEdit),
      opt "tooltip" (.oneOf "InlayHintTooltip" [.text, markup]),
      opt "paddingLeft" .bool,
      opt "paddingRight" .bool,
      opt "data" .any ]

def hierarchyItem (name : String) (tags : Shape) : Shape :=
  .record name
    [ req "name" .text,
      req "kind" i32,
      opt "tags" tags,
      opt "detail" .text,
      req "uri" .uri,
      req "range" range,
      req "selectionRange" range,
      opt "data" .any ]

def workspaceSymbol : Shape :=
  .record "WorkspaceSymbol"
    [ req "name" .text,
      req "kind" i32,
      opt "tags" (.list i32),
      opt "containerName" .text,
      req "location" (.oneOf "OneOf" [location, .record "WorkspaceLocation" [req "uri" .uri]]),
      opt "data" .any ]

def signatureHelp : Shape :=
  .record "SignatureHelp"
    [ req "signatures"
        (.list
          (.record "SignatureInformation"
            [ req "label" .text,
              opt "documentation" (.oneOf "Documentation" [.text, markup]),
              opt "parameters"
                (.list
                  (.record "ParameterInformation"
                    [ req "label" (.oneOf "ParameterLabel" [.text, .tuple 2 uint32]),
                      opt "documentation" (.oneOf "Documentation" [.text, markup]) ])),
              opt "activeParameter" uint32 ])),
      opt "activeSignature" uint32,
      opt "activeParameter" uint32 ]

/-- How a text is to be laid out; options of other names are a Boolean, a number or a text. -/
def formattingOptions : Shape :=
  .extended "FormattingOptions"
    [ req "tabSize" uint32,
      req "insertSpaces" .bool,
      opt "trimTrailingWhitespace" .bool,
      opt "insertFinalNewline" .bool,
      opt "trimFinalNewlines" .bool ]
    (.oneOf "FormattingProperty" [.bool, i32, .text])

def color : Shape :=
  .record "Color"
    [ req "red" (.number "f32"),
      req "green" (.number "f32"),
      req "blue" (.number "f32"),
      req "alpha" (.number "f32") ]

end Protocol

end ClassPad
