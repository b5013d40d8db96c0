import SessionGate.Schema.ServerCapabilities

/-!
# The shape of client capabilities

What a client may declare about itself. Every part may be absent; a part that is present has a fixed
shape.

- `clientCapabilities`: the shape of the whole declaration.
- `ClientShapes.workspace`, `ClientShapes.textDocument`, `ClientShapes.window`,
  `ClientShapes.general`: its parts.
-/

namespace SessionGate

open Shape

namespace ClientShapes

/-- A record of truth values. -/
def flags (name : String) (keys : List String) : Shape :=
  .record name (keys.map fun k => opt k .bool) []

/-- A capability whose registration may be dynamic, and no more. -/
def dynamic (name : String) : Shape :=
  flags name ["dynamicRegistration"]

/-- Numbers or words that the client knows. -/
def valueSet (name : String) (item : Shape) : Shape :=
  .record name [opt "valueSet" (.list item)] []

/-- Numbers or words that the client knows, which must be listed. -/
def valueSetRequired (name : String) (item : Shape) : Shape :=
  .record name [req "valueSet" (.list item)] []

/-- The properties that a client can resolve later. -/
def properties (name : String) : Shape :=
  .record name [req "properties" (.list .string)] []

/-- The tags that a client knows, which must be listed. A truth value may stand for the list: true
for an empty one. -/
def tags : String × Presence × Shape :=
  ("tagSupport", .defaulted,
    .flagOr (.ofMembers [("valueSet", .array [])]) (valueSetRequired "TagSupport" .i32))

/-- The formats of texts that the client shows. -/
def formats : Shape := .list (.choice ["plaintext", "markdown"])

/-- What the client declares for the workspace. -/
def workspace : Shape :=
  .record "WorkspaceClientCapabilities"
    [opt "applyEdit" .bool,
      opt "workspaceEdit"
        (.record "WorkspaceEditClientCapabilities"
          [opt "documentChanges" .bool,
            opt "resourceOperations" (.list (.choice ["create", "rename", "delete"])),
            opt "failureHandling"
              (.choice ["abort", "transactional", "textOnlyTransactional", "undo"]),
            opt "normalizesLineEndings" .bool,
            opt "changeAnnotationSupport"
              (flags "ChangeAnnotationWorkspaceEditClientCapabilities" ["groupsOnLabel"])]
          []),
      opt "didChangeConfiguration" (dynamic "DynamicRegistrationClientCapabilities"),
      opt "didChangeWatchedFiles"
        (flags "DidChangeWatchedFilesClientCapabilities"
          ["dynamicRegistration", "relativePatternSupport"]),
      opt "symbol"
        (.record "WorkspaceSymbolClientCapabilities"
          [opt "dynamicRegistration" .bool,
            opt "symbolKind" (valueSet "SymbolKindCapability" .i32),
            tags,
            opt "resolveSupport" (properties "WorkspaceSymbolResolveSupportCapability")]
          []),
      opt "executeCommand" (dynamic "DynamicRegistrationClientCapabilities"),
      opt "workspaceFolders" .bool,
      opt "configuration" .bool,
      opt "semanticTokens" (flags "SemanticTokensWorkspaceClientCapabilities" ["refreshSupport"]),
      opt "codeLens" (flags "CodeLensWorkspaceClientCapabilities" ["refreshSupport"]),
      opt "fileOperations"
        (flags "WorkspaceFileOperationsClientCapabilities"
          ["dynamicRegistration", "didCreate", "willCreate", "didRename", "willRename",
            "didDelete", "willDelete"]),
      opt "inlineValue" (flags "InlineValueWorkspaceClientCapabilities" ["refreshSupport"]),
      opt "inlayHint" (flags "InlayHintWorkspaceClientCapabilities" ["refreshSupport"]),
      opt "diagnostic" (flags "DiagnosticWorkspaceClientCapabilities" ["refreshSupport"])]
    []

/-- What the client declares for completion. -/
def completion : Shape :=
  .record "CompletionClientCapabilities"
    [opt "dynamicRegistration" .bool,
      opt "completionItem"
        (.record "CompletionItemCapability"
          [opt "snippetSupport" .bool, opt "commitCharactersSupport" .bool,
            opt "documentationFormat" formats, opt "deprecatedSupport" .bool,
            opt "preselectSupport" .bool,
            tags,
            opt "insertReplaceSupport" .bool,
            opt "resolveSupport" (properties "CompletionItemCapabilityResolveSupport"),
            opt "insertTextModeSupport" (valueSetRequired "InsertTextModeSupport" .i32),
            opt "labelDetailsSupport" .bool]
          []),
      opt "completionItemKind" (valueSet "CompletionItemKindCapability" .i32),
      opt "contextSupport" .bool,
      opt "insertTextMode" .i32,
      opt "completionList"
        (.record "CompletionListCapability" [opt "itemDefaults" (.list .string)] [])]
    []

/-- What the client declares for signature help. -/
def signatureHelp : Shape :=
  .record "SignatureHelpClientCapabilities"
    [opt "dynamicRegistration" .bool,
      opt "signatureInformation"
        (.record "SignatureInformationSettings"
          [opt "documentationFormat" formats,
            opt "parameterInformation"
              (flags "ParameterInformationSettings" ["labelOffsetSupport"]),
            opt "activeParameterSupport" .bool]
          []),
      opt "contextSupport" .bool]
    []

/-- What the client declares for code actions. -/
def codeAction : Shape :=
  .record "CodeActionClientCapabilities"
    [opt "dynamicRegistration" .bool,
      opt "codeActionLiteralSupport"
        (.record "CodeActionLiteralSupport"
          [req "codeActionKind" (valueSetRequired "CodeActionKindLiteralSupport" .string)] []),
      opt "isPreferredSupport" .bool, opt "disabledSupport" .bool, opt "dataSupport" .bool,
      opt "resolveSupport" (properties "CodeActionCapabilityResolveSupport"),
      opt "honorsChangeAnnotations" .bool]
    []

/-- What the client declares for semantic tokens. -/
def semanticTokens : Shape :=
  .record "SemanticTokensClientCapabilities"
    [opt "dynamicRegistration" .bool,
      req "requests"
        (.record "SemanticTokensClientCapabilitiesRequests"
          [opt "range" .bool,
            opt "full"
              (.oneOf "SemanticTokensFullOptions"
                [.bool, .record "SemanticTokensFullOptions" [opt "delta" .bool] [[]]])]
          []),
      req "tokenTypes" (.list .string), req "tokenModifiers" (.list .string),
      req "formats" (.list .string),
      opt "overlappingTokenSupport" .bool, opt "multilineTokenSupport" .bool,
      opt "serverCancelSupport" .bool, opt "augmentsSyntaxTokens" .bool]
    []

/-- What the client declares for going to another place. -/
def goto : Shape := flags "GotoCapability" ["dynamicRegistration", "linkSupport"]

/-- What the client declares for documents. -/
def textDocument : Shape :=
  let plain := dynamic "DynamicRegistrationClientCapabilities"
  .record "TextDocumentClientCapabilities"
    [opt "synchronization"
        (flags "TextDocumentSyncClientCapabilities"
          ["dynamicRegistration", "willSave", "willSaveWaitUntil", "didSave"]),
      opt "completion" completion,
      opt "hover"
        (.record "HoverClientCapabilities"
          [opt "dynamicRegistration" .bool, opt "contentFormat" formats] []),
      opt "signatureHelp" signatureHelp,
      opt "references" plain,
      opt "documentHighlight" plain,
      opt "documentSymbol"
        (.record "DocumentSymbolClientCapabilities"
          [opt "dynamicRegistration" .bool,
            opt "symbolKind" (valueSet "SymbolKindCapability" .i32),
            opt "hierarchicalDocumentSymbolSupport" .bool,
            tags]
          []),
      opt "formatting" plain,
      opt "rangeFormatting" plain,
      opt "onTypeFormatting" plain,
      opt "declaration" goto,
      opt "definition" goto,
      opt "typeDefinition" goto,
      opt "implementation" goto,
      opt "codeAction" codeAction,
      opt "codeLens" plain,
      opt "documentLink"
        (flags "DocumentLinkClientCapabilities" ["dynamicRegistration", "tooltipSupport"]),
      opt "colorProvider" plain,
      opt "rename"
        (.record "RenameClientCapabilities"
          [opt "dynamicRegistration" .bool, opt "prepareSupport" .bool,
            opt "prepareSupportDefaultBehavior" .i32, opt "honorsChangeAnnotations" .bool]
          []),
      opt "publishDiagnostics"
        (.record "PublishDiagnosticsClientCapabilities"
          [opt "relatedInformation" .bool,
            tags,
            opt "versionSupport" .bool, opt "codeDescriptionSupport" .bool,
            opt "dataSupport" .bool]
          []),
      opt "foldingRange"
        (.record "FoldingRangeClientCapabilities"
          [opt "dynamicRegistration" .bool, opt "rangeLimit" .u32, opt "lineFoldingOnly" .bool,
            opt "foldingRangeKind"
              (valueSet "FoldingRangeKindCapability" (.choice ["comment", "imports", "region"])),
            opt "foldingRange" (flags "FoldingRangeCapability" ["collapsedText"])]
          []),
      opt "selectionRange" (dynamic "SelectionRangeClientCapabilities"),
      opt "linkedEditingRange" plain,
      opt "callHierarchy" plain,
      opt "semanticTokens" semanticTokens,
      opt "moniker" plain,
      opt "typeHierarchy" plain,
      opt "inlineValue" plain,
      opt "inlayHint"
        (.record "InlayHintClientCapabilities"
          [opt "dynamicRegistration" .bool,
            opt "resolveSupport" (properties "InlayHintResolveClientCapabilities")]
          []),
      opt "diagnostic"
        (flags "DiagnosticClientCapabilities" ["dynamicRegistration", "relatedDocumentSupport"])]
    []

/-- What the client declares for its windows. -/
def window : Shape :=
  .record "WindowClientCapabilities"
    [opt "workDoneProgress" .bool,
      opt "showMessage"
        (.record "ShowMessageRequestClientCapabilities"
          [opt "messageActionItem"
            (flags "MessageActionItemCapabilities" ["additionalPropertiesSupport"])]
          []),
      opt "showDocument"
        (.record "ShowDocumentClientCapabilities" [req "support" .bool] [])]
    []

/-- What the client declares in general. -/
def general : Shape :=
  .record "GeneralClientCapabilities"
    [opt "regularExpressions"
        (.record "RegularExpressionsClientCapabilities"
          [req "engine" .string, opt "version" .string] []),
      opt "markdown"
        (.record "MarkdownClientCapabilities"
          [req "parser" .string, opt "version" .string, opt "allowedTags" (.list .string)] []),
      opt "staleRequestSupport"
        (.record "StaleRequestSupportClientCapabilities"
          [req "cancel" .bool, req "retryOnContentModified" (.list .string)] []),
      opt "positionEncodings" (.list .string)]
    []

end ClientShapes

/-- The shape of what a client declares about itself. -/
def clientCapabilities : Shape :=
  .record "ClientCapabilities"
    [opt "workspace" ClientShapes.workspace,
      opt "textDocument" ClientShapes.textDocument,
      opt "window" ClientShapes.window,
      opt "general" ClientShapes.general,
      opt "experimental" .any]
    []

end SessionGate
