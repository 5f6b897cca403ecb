import ClassPad.Decode.Shape

/-!
Negotiation of capabilities. Of all that a client declares, three flags matter to the server; what
the server offers in turn depends only on them.
-/

set_option autoImplicit false
set_option relaxedAutoImplicit false

namespace ClassPad

namespace Protocol

open Shape

def dynamic (name : String) : Shape := .record name [opt "dynamicRegistration" .bool]

def goto : Shape :=
  .record "GotoCapability" [opt "dynamicRegistration" .bool, opt "linkSupport" .bool]

/-- Whether the server may ask the client to drop what it has. -/
def refresh (name : String) : Shape := .record name [opt "refreshSupport" .bool]

def valueSet (name : String) : Shape := .record name [opt "valueSet" (.list i32)]

/-- The tags that a client understands. A Boolean may stand for none or for an empty list. -/
def tagSupport : Field :=
  ("tagSupport", .spare,
    .switch (.obj [("valueSet", .arr [])]) (.record "TagSupport" [req "valueSet" (.list i32)]))

def resolvable (name : String) : Shape := .record name [req "properties" (.list .text)]

def textFormats : Shape := .list (.choice ["plaintext", "markdown"])

def registrable : Shape := dynamic "DynamicRegistrationClientCapabilities"

def workspaceEditCapabilities : Shape :=
  .record "WorkspaceEditClientCapabilities"
    [ opt "documentChanges" .bool,
      opt "resourceOperations" (.list (.choice ["create", "rename", "delete"])),
      opt "failureHandling" (.choice ["abort", "transactional", "textOnlyTransactional", "undo"]),
      opt "normalizesLineEndings" .bool,
      opt "changeAnnotationSupport"
        (.record "ChangeAnnotationWorkspaceEditClientCapabilities" [opt "groupsOnLabel" .bool]) ]

def workspaceSymbolCapabilities : Shape :=
  .record "WorkspaceSymbolClientCapabilities"
    [ opt "dynamicRegistration" .bool,
      opt "symbolKind" (valueSet "SymbolKindCapability"),
      tagSupport,
      opt "resolveSupport" (resolvable "WorkspaceSymbolResolveSupportCapability") ]

def fileOperationCapabilities : Shape :=
  .record "WorkspaceFileOperationsClientCapabilities"
    [ opt "dynamicRegistration" .bool,
      opt "didCreate" .bool,
      opt "willCreate" .bool,
      opt "didRename" .bool,
      opt "willRename" .bool,
      opt "didDelete" .bool,
      opt "willDelete" .bool ]

def workspaceCapabilities : Shape :=
  .record "WorkspaceClientCapabilities"
    [ opt "applyEdit" .bool,
      opt "workspaceEdit" workspaceEditCapabilities,
      opt "didChangeConfiguration" registrable,
      opt "didChangeWatchedFiles"
        (.record "DidChangeWatchedFilesClientCapabilities"
          [opt "dynamicRegistration" .bool, opt "relativePatternSupport" .bool]),
      opt "symbol" workspaceSymbolCapabilities,
      opt "executeCommand" registrable,
      opt "workspaceFolders" .bool,
      opt "configuration" .bool,
      opt "semanticTokens" (refresh "SemanticTokensWorkspaceClientCapabilities"),
      opt "codeLens" (refresh "CodeLensWorkspaceClientCapabilities"),
      opt "fileOperations" fileOperationCapabilities,
      opt "inlineValue" (refresh "InlineValueWorkspaceClientCapabilities"),
      opt "inlayHint" (refresh "InlayHintWorkspaceClientCapabilities"),
      opt "diagnostic" (refresh "DiagnosticWorkspaceClientCapabilities") ]

def publishDiagnostics : Shape :=
  .record "PublishDiagnosticsClientCapabilities"
    [ opt "relatedInformation" .bool,
      tagSupport,
      opt "versionSupport" .bool,
      opt "codeDescriptionSupport" .bool,
      opt "dataSupport" .bool ]

def completionItemCapabilities : Shape :=
  .record "CompletionItemCapability"
    [ opt "snippetSupport" .bool,
      opt "commitCharactersSupport" .bool,
      opt "documentationFormat" textFormats,
      opt "deprecatedSupport" .bool,
      opt "preselectSupport" .bool,
      tagSupport,
      opt "insertReplaceSupport" .bool,
      opt "resolveSupport" (resolvable "CompletionItemCapabilityResolveSupport"),
      opt "insertTextModeSupport"
        (.record "InsertTextModeSupport" [req "valueSet" (.list i32)]),
      opt "labelDetailsSupport" .bool ]

def completionCapabilities : Shape :=
  .record "CompletionClientCapabilities"
    [ opt "dynamicRegistration" .bool,
      opt "completionItem" completionItemCapabilities,
      opt "completionItemKind" (valueSet "CompletionItemKindCapability"),
      opt "contextSupport" .bool,
      opt "insertTextMode" i32,
      opt "completionList"
        (.record "CompletionListCapability" [opt "itemDefaults" (.list .text)]) ]

def signatureCapabilities : Shape :=
  .record "SignatureHelpClientCapabilities"
    [ opt "dynamicRegistration" .bool,
      opt "signatureInformation"
        (.record "SignatureInformationSettings"
          [ opt "documentationFormat" textFormats,
            opt "parameterInformation"
              (.record "ParameterInformationSettings" [opt "labelOffsetSupport" .bool]),
            opt "activeParameterSupport" .bool ]),
      opt "contextSupport" .bool ]

def documentSymbolCapabilities : Shape :=
  .record "DocumentSymbolClientCapabilities"
    [ opt "dynamicRegistration" .bool,
      opt "symbolKind" (valueSet "SymbolKindCapability"),
      opt "hierarchicalDocumentSymbolSupport" .bool,
      tagSupport ]

def codeActionCapabilities : Shape :=
  .record "CodeActionClientCapabilities"
    [ opt "dynamicRegistration" .bool,
      opt "codeActionLiteralSupport"
        (.record "CodeActionLiteralSupport"
          [ req "codeActionKind"
              (.record "CodeActionKindLiteralSupport" [req "valueSet" (.list .text)]) ]),
      opt "isPreferredSupport" .bool,
      opt "disabledSupport" .bool,
      opt "dataSupport" .bool,
      opt "resolveSupport" (resolvable "CodeActionCapabilityResolveSupport"),
      opt "honorsChangeAnnotations" .bool ]

def renameCapabilities : Shape :=
  .record "RenameClientCapabilities"
    [ opt "dynamicRegistration" .bool,
      opt "prepareSupport" .bool,
      opt "prepareSupportDefaultBehavior" i32,
      opt "honorsChangeAnnotations" .bool ]

def foldingCapabilities : Shape :=
  .record "FoldingRangeClientCapabilities"
    [ opt "dynamicRegistration" .bool,
      opt "rangeLimit" uint32,
      opt "lineFoldingOnly" .bool,
      opt "foldingRangeKind"
        (.record "FoldingRangeKindCapability"
          [opt "valueSet" (.list (.choice ["comment", "imports", "region"]))]),
      opt "foldingRange" (.record "FoldingRangeCapability" [opt "collapsedText" .bool]) ]

def semanticTokenCapabilities : Shape :=
  .record "SemanticTokensClientCapabilities"
    [ opt "dynamicRegistration" .bool,
      req "requests"
        (.record "SemanticTokensClientCapabilitiesRequests"
          [ opt "range" .bool,
            opt "full"
              (.oneOf "SemanticTokensFullOptions"
                [.bool, .merged "Delta" [opt "delta" .bool] []]) ]),
      req "tokenTypes" (.list .text),
      req "tokenModifiers" (.list .text),
      req "formats" (.list .text),
      opt "overlappingTokenSupport" .bool,
      opt "multilineTokenSupport" .bool,
      opt "serverCancelSupport" .bool,
      opt "augmentsSyntaxTokens" .bool ]

def documentCapabilities : Shape :=
  .record "TextDocumentClientCapabilities"
    [ opt "synchronization"
        (.record "TextDocumentSyncClientCapabilities"
          [ opt "dynamicRegistration" .bool,
            opt "willSave" .bool,
            opt "willSaveWaitUntil" .bool,
            opt "didSave" .bool ]),
      opt "completion" completionCapabilities,
      opt "hover"
        (.record "HoverClientCapabilities"
          [opt "dynamicRegistration" .bool, opt "contentFormat" textFormats]),
      opt "signatureHelp" signatureCapabilities,
      opt "references" registrable,
      opt "documentHighlight" registrable,
      opt "documentSymbol" documentSymbolCapabilities,
      opt "formatting" registrable,
      opt "rangeFormatting" registrable,
      opt "onTypeFormatting" registrable,
      opt "declaration" goto,
      opt "definition" goto,
      opt "typeDefinition" goto,
      opt "implementation" goto,
      opt "codeAction" codeActionCapabilities,
      opt "codeLens" registrable,
      opt "documentLink"
        (.record "DocumentLinkClientCapabilities"
          [opt "dynamicRegistration" .bool, opt "tooltipSupport" .bool]),
      opt "colorProvider" registrable,
      opt "rename" renameCapabilities,
      opt "publishDiagnostics" publishDiagnostics,
      opt "foldingRange" foldingCapabilities,
      opt "selectionRange" (dynamic "SelectionRangeClientCapabilities"),
      opt "linkedEditingRange" registrable,
      opt "callHierarchy" registrable,
      opt "semanticTokens" semanticTokenCapabilities,
      opt "moniker" registrable,
      opt "typeHierarchy" registrable,
      opt "inlineValue" registrable,
      opt "inlayHint"
        (.record "InlayHintClientCapabilities"
          [ opt "dynamicRegistration" .bool,
            opt "resolveSupport" (resolvable "InlayHintResolveClientCapabilities") ]),
      opt "diagnostic"
        (.record "DiagnosticClientCapabilities"
          [opt "dynamicRegistration" .bool, opt "relatedDocumentSupport" .bool]) ]

def windowCapabilities : Shape :=
  .record "WindowClientCapabilities"
    [ opt "workDoneProgress" .bool,
      opt "showMessage"
        (.record "ShowMessageRequestClientCapabilities"
          [ opt "messageActionItem"
              (.record "MessageActionItemCapabilities"
                [opt "additionalPropertiesSupport" .bool]) ]),
      opt "showDocument" (.record "ShowDocumentClientCapabilities" [req "support" .bool]) ]

def generalCapabilities : Shape :=
  .record "GeneralClientCapabilities"
    [ opt "regularExpressions"
        (.record "RegularExpressionsClientCapabilities" [req "engine" .text, opt "version" .text]),
      opt "markdown"
        (.record "MarkdownClientCapabilities"
          [req "parser" .text, opt "version" .text, opt "allowedTags" (.list .text)]),
      opt "staleRequestSupport"
        (.record "StaleRequestSupportClientCapabilities"
          [req "cancel" .bool, req "retryOnContentModified" (.list .text)]),
      opt "positionEncodings" (.list .text) ]

def clientCapabilities : Shape :=
  .record "ClientCapabilities"
    [ opt "workspace" workspaceCapabilities,
      opt "textDocument" documentCapabilities,
      opt "window" windowCapabilities,
      opt "general" generalCapabilities,
      opt "experimental" .any ]

end Protocol

structure WorkspaceCapabilities where
  configuration : Option Bool := none
  workspaceFolders : Option Bool := none
deriving DecidableEq, Repr

structure PublishCapabilities where
  relatedInformation : Option Bool := none
deriving DecidableEq, Repr

structure DocumentCapabilities where
  publishDiagnostics : Option PublishCapabilities := none
deriving DecidableEq, Repr

/-- What a client declares, as far as the server looks at it. -/
structure ClientCapabilities where
  workspace : Option WorkspaceCapabilities := none
  textDocument : Option DocumentCapabilities := none
deriving DecidableEq, Repr

namespace ClientCapabilities

def flagIn (value : Json) (key : String) : Option Bool := (value.get? key).bind Json.bool?

def ofNormal (value : Json) : ClientCapabilities where
  workspace := (value.get? "workspace").map fun w =>
    { configuration := flagIn w "configuration", workspaceFolders := flagIn w "workspaceFolders" }
  textDocument := (value.get? "textDocument").map fun d =>
    { publishDiagnostics := (d.get? "publishDiagnostics").map fun p =>
        { relatedInformation := flagIn p "relatedInformation" } }

end ClientCapabilities

/-- What of a client's capabilities matters. -/
structure Flags where
  /-- The client can be asked for settings. -/
  configuration : Bool := false
  workspaceFolders : Bool := false
  /-- The client shows notes on diagnostics. -/
  relatedInformation : Bool := false
deriving DecidableEq, Repr

namespace Flags

/-- The flags of a client. What it does not declare it does not have. -/
def ofClient (c : ClientCapabilities) : Flags where
  configuration := (c.workspace.bind (·.configuration)).getD false
  workspaceFolders := (c.workspace.bind (·.workspaceFolders)).getD false
  relatedInformation :=
    ((c.textDocument.bind (·.publishDiagnostics)).bind (·.relatedInformation)).getD false

def toJson (f : Flags) : Json :=
  .object
    [ ("configuration", .bool f.configuration),
      ("workspaceFolders", .bool f.workspaceFolders),
      ("relatedInformation", .bool f.relatedInformation) ]

/-- What the server offers, in JSON: changes span by span, completion, and word of changed folders
to clients that have them. -/
def offer (f : Flags) : Json :=
  .ofPresent
    [ ("textDocumentSync", some (.nat 2)),
      ("completionProvider", some (.obj [("resolveProvider", .bool true)])),
      ("workspace",
        if f.workspaceFolders then
          some (.obj
            [("workspaceFolders",
              .object [("supported", .bool true), ("changeNotifications", .bool true)])])
        else none) ]

def answer (f : Flags) : Json :=
  .object
    [ ("capabilities", f.offer),
      ("serverInfo",
        .object [("name", .str "ClassPad Language Server"), ("version", .str "0.3.0")]) ]

end Flags

def Protocol.settingsNotification : String := "workspace/didChangeConfiguration"

end ClassPad
