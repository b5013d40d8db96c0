import SessionGate.Capability.Document
import SessionGate.Schema.Shape

/-!
# The shape of the capability document

- `Feature.shape`: what the entry of a family may be.
- `serverCapabilities`: the shape of the whole document; every entry may be absent.
- `handshakeResultShape`: the shape of the answer to a handshake.
-/

namespace SessionGate

namespace Shape

/-- A member that may be absent. -/
def opt (key : String) (shape : Shape) : String × Presence × Shape :=
  (key, .optional, shape)

/-- A member that must be there. -/
def req (key : String) (shape : Shape) : String × Presence × Shape :=
  (key, .required, shape)

/-- Options that may report progress. -/
def progress : List Fields := [[opt "workDoneProgress" bool]]

/-- A truth value, or options of their own. -/
def boolOr (name : String) (own : Fields) (shared : List Fields) : Shape :=
  oneOf name [bool, record name own shared]

/-- The documents that a registration is about. -/
def documentFilter : Shape :=
  record "DocumentFilter" [opt "language" string, opt "scheme" string, opt "pattern" string] []

/-- Options of a registration made beforehand: for which documents, and under which name. -/
def staticRegistration (name : String) : Shape :=
  record name [("documentSelector", .kept, list documentFilter), opt "id" string] []

end Shape

open Shape

/-- What the entry of a family may be. -/
def Feature.shape : Feature → Shape
  | .textDocumentSync =>
    .oneOf "TextDocumentSyncCapability"
      [.i32,
        .record "TextDocumentSyncOptions"
          [opt "openClose" .bool, opt "change" .i32, opt "willSave" .bool,
            opt "willSaveWaitUntil" .bool,
            opt "save" (boolOr "SaveOptions" [opt "includeText" .bool] [])]
          []]
  | .hover => boolOr "HoverOptions" [] progress
  | .completion =>
    .record "CompletionOptions"
      [opt "resolveProvider" .bool, opt "triggerCharacters" (.list .string),
        opt "allCommitCharacters" (.list .string),
        opt "completionItem"
          (.record "CompletionOptionsCompletionItem" [opt "labelDetailsSupport" .bool] [])]
      progress
  | .signatureHelp =>
    .record "SignatureHelpOptions"
      [opt "triggerCharacters" (.list .string), opt "retriggerCharacters" (.list .string)]
      progress
  | .definition => boolOr "DefinitionOptions" [] progress
  | .references => boolOr "ReferencesOptions" [] progress
  | .documentHighlight => boolOr "DocumentHighlightOptions" [] progress
  | .documentSymbol => boolOr "DocumentSymbolOptions" [opt "label" .string] progress
  | .workspaceSymbol => boolOr "WorkspaceSymbolOptions" [opt "resolveProvider" .bool] progress
  | .codeAction =>
    boolOr "CodeActionOptions"
      [opt "codeActionKinds" (.list .string), opt "resolveProvider" .bool] progress
  | .documentFormatting => boolOr "DocumentFormattingOptions" [] progress
  | .documentRangeFormatting => boolOr "DocumentRangeFormattingOptions" [] progress
  | .foldingRange =>
    .oneOf "FoldingRangeProviderCapability"
      [.bool, .record "FoldingProviderOptions" [] [],
        staticRegistration "StaticTextDocumentColorProviderOptions"]
  | .implementation =>
    .oneOf "ImplementationProviderCapability"
      [.bool, staticRegistration "StaticTextDocumentRegistrationOptions"]
  | .executeCommand =>
    .record "ExecuteCommandOptions" [req "commands" (.list .string)] progress
  | .codeLens => .record "CodeLensOptions" [opt "resolveProvider" .bool] []
  | .rename => boolOr "RenameOptions" [opt "prepareProvider" .bool] progress
  | .callHierarchy => boolOr "CallHierarchyOptions" [] progress

/-- The shape of the capability document. -/
def serverCapabilities : Shape :=
  .record "ServerCapabilities" (Feature.all.map fun f => opt f.key f.shape) []

/-- The shape of the answer to a handshake. -/
def handshakeResultShape : Shape :=
  .record "InitializeResult"
    [req "capabilities" serverCapabilities,
      opt "serverInfo" (.record "ServerInfo" [req "name" .string, opt "version" .string] [])]
    []

/-- The document in its normal form, if it has the shape of one. -/
def Document.typed (d : Document) : Except ShapeError Json :=
  serverCapabilities.conform d.toJson

end SessionGate
