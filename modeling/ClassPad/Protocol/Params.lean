import ClassPad.Protocol.Capabilities
import ClassPad.Protocol.Edit

/-!
The forms of the parameters of each method.
-/

set_option autoImplicit false
set_option relaxedAutoImplicit false

namespace ClassPad

namespace Protocol

open Shape

def documentId : Shape := .record "TextDocumentIdentifier" [req "uri" .uri]

def versionedId : Shape :=
  .record "VersionedTextDocumentIdentifier" [req "uri" .uri, req "version" i32]

def pointFields : List Field := [req "textDocument" documentId, req "position" position]

def workFields : List Field := [opt "workDoneToken" token]

def resultFields : List Field := [opt "partialResultToken" token]

/-- A record of members of its own and the usual tokens. -/
def tokened (name : String) (own : List Field) : Shape :=
  .merged name own [workFields, resultFields]

def pointed (name : String) (own : List Field) : Shape :=
  .merged name own [pointFields, workFields, resultFields]

def workspaceFolder : Shape := .record "WorkspaceFolder" [req "uri" .uri, req "name" .text]

def negotiation : Shape :=
  .record "InitializeParams"
    [ opt "processId" uint32,
      opt "rootPath" .text,
      ("rootUri", .spare, .uri),
      opt "initializationOptions" .any,
      req "capabilities" clientCapabilities,
      ("trace", .spare, .choice ["off", "messages", "verbose"]),
      opt "workspaceFolders" (.list workspaceFolder),
      opt "clientInfo" (.record "ClientInfo" [req "name" .text, opt "version" .text]),
      opt "locale" .text ]

def openedDocument : Shape :=
  .record "DidOpenTextDocumentParams"
    [ req "textDocument"
        (.record "TextDocumentItem"
          [req "uri" .uri, req "languageId" .text, req "version" i32, req "text" .text]) ]

def changedDocument : Shape :=
  .record "DidChangeTextDocumentParams"
    [req "textDocument" versionedId, req "contentChanges" (.list contentChange)]

def closedDocument : Shape := .record "DidCloseTextDocumentParams" [req "textDocument" documentId]

def changedSettings : Shape := .record "DidChangeConfigurationParams" [req "settings" .any]

def changedFolders : Shape :=
  .record "DidChangeWorkspaceFoldersParams"
    [ req "event"
        (.record "WorkspaceFoldersChangeEvent"
          [req "added" (.list workspaceFolder), req "removed" (.list workspaceFolder)]) ]

def changedFiles : Shape :=
  .record "DidChangeWatchedFilesParams"
    [req "changes" (.list (.record "FileEvent" [req "uri" .uri, req "type" i32]))]

def completion : Shape :=
  pointed "CompletionParams"
    [ opt "context"
        (.record "CompletionContext" [req "triggerKind" i32, opt "triggerCharacter" .text]) ]

def callItem : Shape := hierarchyItem "CallHierarchyItem" (.list i32)

def typeItem : Shape := hierarchyItem "TypeHierarchyItem" i32

/-- The requests that are known but not offered, with the forms of their parameters. -/
def refused : List (String × Shape) :=
  [ ("textDocument/hover", .merged "HoverParams" [] [pointFields, workFields]),
    ("textDocument/declaration", pointed "GotoDefinitionParams" []),
    ("textDocument/definition", pointed "GotoDefinitionParams" []),
    ("textDocument/typeDefinition", pointed "GotoDefinitionParams" []),
    ("textDocument/implementation", pointed "GotoDefinitionParams" []),
    ("textDocument/references",
      pointed "ReferenceParams"
        [req "context" (.record "ReferenceContext" [req "includeDeclaration" .bool])]),
    ("textDocument/documentHighlight", pointed "DocumentHighlightParams" []),
    ("textDocument/documentSymbol",
      tokened "DocumentSymbolParams" [req "textDocument" documentId]),
    ("textDocument/documentLink", tokened "DocumentLinkParams" [req "textDocument" documentId]),
    ("textDocument/codeLens", tokened "CodeLensParams" [req "textDocument" documentId]),
    ("textDocument/foldingRange", tokened "FoldingRangeParams" [req "textDocument" documentId]),
    ("textDocument/selectionRange",
      tokened "SelectionRangeParams"
        [req "textDocument" documentId, req "positions" (.list position)]),
    ("textDocument/documentColor", tokened "DocumentColorParams" [req "textDocument" documentId]),
    ("textDocument/semanticTokens/full",
      tokened "SemanticTokensParams" [req "textDocument" documentId]),
    ("textDocument/semanticTokens/full/delta",
      tokened "SemanticTokensDeltaParams"
        [req "textDocument" documentId, req "previousResultId" .text]),
    ("textDocument/semanticTokens/range",
      tokened "SemanticTokensRangeParams" [req "textDocument" documentId, req "range" range]),
    ("textDocument/moniker", pointed "MonikerParams" []),
    ("textDocument/linkedEditingRange",
      .merged "LinkedEditingRangeParams" [] [pointFields, workFields]),
    ("textDocument/prepareCallHierarchy",
      .merged "CallHierarchyPrepareParams" [] [pointFields, workFields]),
    ("textDocument/prepareTypeHierarchy",
      .merged "TypeHierarchyPrepareParams" [] [pointFields, workFields]),
    ("textDocument/prepareRename", .record "TextDocumentPositionParams" pointFields),
    ("textDocument/rename",
      .merged "RenameParams" [req "newName" .text] [pointFields, workFields]),
    ("textDocument/signatureHelp",
      .merged "SignatureHelpParams"
        [ opt "context"
            (.record "SignatureHelpContext"
              [ req "triggerKind" i32,
                opt "triggerCharacter" .text,
                req "isRetrigger" .bool,
                opt "activeSignatureHelp" signatureHelp ]) ]
        [pointFields, workFields]),
    ("textDocument/willSaveWaitUntil",
      .record "WillSaveTextDocumentParams" [req "textDocument" documentId, req "reason" i32]),
    ("textDocument/codeAction",
      tokened "CodeActionParams"
        [ req "textDocument" documentId,
          req "range" range,
          req "context"
            (.record "CodeActionContext"
              [ req "diagnostics" (.list diagnostic),
                opt "only" (.list .text),
                opt "triggerKind" i32 ]) ]),
    ("textDocument/colorPresentation",
      tokened "ColorPresentationParams"
        [req "textDocument" documentId, req "color" color, req "range" range]),
    ("textDocument/formatting",
      .merged "DocumentFormattingParams"
        [req "textDocument" documentId, req "options" formattingOptions] [workFields]),
    ("textDocument/rangeFormatting",
      .merged "DocumentRangeFormattingParams"
        [req "textDocument" documentId, req "range" range, req "options" formattingOptions]
        [workFields]),
    ("textDocument/onTypeFormatting",
      .merged "DocumentOnTypeFormattingParams"
        [req "ch" .text, req "options" formattingOptions] [pointFields]),
    ("textDocument/inlineValue",
      .merged "InlineValueParams"
        [ req "textDocument" documentId,
          req "range" range,
          req "context"
            (.record "InlineValueContext" [req "frameId" i32, req "stoppedLocation" range]) ]
        [workFields]),
    ("textDocument/inlayHint",
      .merged "InlayHintParams" [req "textDocument" documentId, req "range" range] [workFields]),
    ("textDocument/diagnostic",
      tokened "DocumentDiagnosticParams"
        [req "textDocument" documentId, opt "identifier" .text, opt "previousResultId" .text]),
    ("workspace/diagnostic",
      tokened "WorkspaceDiagnosticParams"
        [ opt "identifier" .text,
          req "previousResultIds"
            (.list (.record "PreviousResultId" [req "uri" .uri, req "value" .text])) ]),
    ("workspace/symbol", tokened "WorkspaceSymbolParams" [req "query" .text]),
    ("workspace/executeCommand",
      .merged "ExecuteCommandParams"
        [req "command" .text, ("arguments", .defaulted, .list .any)] [workFields]),
    ("callHierarchy/incomingCalls",
      tokened "CallHierarchyIncomingCallsParams" [req "item" callItem]),
    ("callHierarchy/outgoingCalls",
      tokened "CallHierarchyOutgoingCallsParams" [req "item" callItem]),
    ("typeHierarchy/supertypes",
      tokened "TypeHierarchySupertypesParams" [req "item" typeItem]),
    ("typeHierarchy/subtypes",
      tokened "TypeHierarchySubtypesParams" [req "item" typeItem]),
    ("documentLink/resolve",
      .record "DocumentLink"
        [req "range" range, opt "target" .uri, opt "tooltip" .text, opt "data" .any]),
    ("codeLens/resolve",
      .record "CodeLens" [req "range" range, opt "command" command, opt "data" .any]),
    ("inlayHint/resolve", inlayHint),
    ("codeAction/resolve", codeAction),
    ("workspaceSymbol/resolve", workspaceSymbol),
    ("workspace/willCreateFiles",
      .record "CreateFilesParams" [req "files" (.list (.record "FileCreate" [req "uri" .text]))]),
    ("workspace/willRenameFiles",
      .record "RenameFilesParams"
        [req "files" (.list (.record "FileRename" [req "oldUri" .text, req "newUri" .text]))]),
    ("workspace/willDeleteFiles",
      .record "DeleteFilesParams" [req "files" (.list (.record "FileDelete" [req "uri" .text]))]) ]

/-- The notifications that are known but change nothing. -/
def unheeded : List String :=
  [ "$/cancelRequest", "textDocument/willSave", "textDocument/didSave", "workspace/didCreateFiles",
    "workspace/didRenameFiles", "workspace/didDeleteFiles" ]

end Protocol

end ClassPad
