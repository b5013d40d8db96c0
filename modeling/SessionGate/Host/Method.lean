import SessionGate.Schema.DocumentParams
import SessionGate.Schema.HandshakeParams

/-!
# The methods of the protocol

- `Method`: a method that the host knows, and how its messages are treated.
- `Method.ofName?`: the method of a name.

A host knows every method of the protocol, but does the work of the session's life only. Requests
about documents are read and then declined; notices about them are taken and ignored.
-/

namespace SessionGate

/-- How the messages of a method are treated. -/
inductive Method where
  /-- Opens the session. -/
  | handshake
  /-- The notice that the handshake is complete. -/
  | completed
  /-- Announces the end of the session. -/
  | shutdown
  /-- Ends the host. -/
  | exit
  /-- The notice that an answer is no longer wanted. The gate lets it through in every state. -/
  | cancellation
  /-- A request that is read against a shape and declined. -/
  | request (params : Shape)
  /-- A notice that is ignored. -/
  | notice

namespace Method

open DocumentShapes Shape

/-- The requests that the host reads and declines, with the shapes of their parameters. -/
def requests : List (String × Shape) :=
  let target := atPlace "GotoDefinitionParams" [] [work, partialResults]
  [("textDocument/willSaveWaitUntil",
      .record "WillSaveTextDocumentParams" [req "textDocument" document, req "reason" .i32] []),
    ("textDocument/declaration", target),
    ("textDocument/definition", target),
    ("textDocument/typeDefinition", target),
    ("textDocument/implementation", target),
    ("textDocument/references",
      atPlace "ReferenceParams"
        [req "context" (.record "ReferenceContext" [req "includeDeclaration" .bool] [])]
        [work, partialResults]),
    ("textDocument/prepareCallHierarchy", atPlace "CallHierarchyPrepareParams" [] [work]),
    ("callHierarchy/incomingCalls",
      about "CallHierarchyIncomingCallsParams" [req "item" callItem]),
    ("callHierarchy/outgoingCalls",
      about "CallHierarchyOutgoingCallsParams" [req "item" callItem]),
    ("textDocument/prepareTypeHierarchy", atPlace "TypeHierarchyPrepareParams" [] [work]),
    ("typeHierarchy/supertypes",
      about "TypeHierarchySupertypesParams" [req "item" typeItem]),
    ("typeHierarchy/subtypes",
      about "TypeHierarchySubtypesParams" [req "item" typeItem]),
    ("textDocument/documentHighlight",
      atPlace "DocumentHighlightParams" [] [work, partialResults]),
    ("textDocument/documentLink", aboutDocument "DocumentLinkParams"),
    ("documentLink/resolve",
      .record "DocumentLink"
        [req "range" range, opt "target" .uri, opt "tooltip" .string, opt "data" .any] []),
    ("textDocument/hover", atPlace "HoverParams" [] [work]),
    ("textDocument/codeLens", aboutDocument "CodeLensParams"),
    ("codeLens/resolve",
      .record "CodeLens" [req "range" range, opt "command" command, opt "data" .any] []),
    ("textDocument/foldingRange", aboutDocument "FoldingRangeParams"),
    ("textDocument/selectionRange",
      about "SelectionRangeParams"
        [req "textDocument" document, req "positions" (.list position)]),
    ("textDocument/documentSymbol", aboutDocument "DocumentSymbolParams"),
    ("textDocument/semanticTokens/full", aboutDocument "SemanticTokensParams"),
    ("textDocument/semanticTokens/full/delta",
      about "SemanticTokensDeltaParams"
        [req "textDocument" document, req "previousResultId" .string]),
    ("textDocument/semanticTokens/range",
      about "SemanticTokensRangeParams" [req "textDocument" document, req "range" range]),
    ("textDocument/inlineValue",
      .record "InlineValueParams"
        [req "textDocument" document, req "range" range,
          req "context"
            (.record "InlineValueContext" [req "frameId" .i32, req "stoppedLocation" range] [])]
        [work]),
    ("textDocument/inlayHint",
      .record "InlayHintParams" [req "textDocument" document, req "range" range] [work]),
    ("inlayHint/resolve", inlayHint),
    ("textDocument/moniker", atPlace "MonikerParams" [] [work, partialResults]),
    ("textDocument/completion",
      atPlace "CompletionParams"
        [opt "context"
          (.record "CompletionContext"
            [req "triggerKind" .i32, opt "triggerCharacter" .string] [])]
        [work, partialResults]),
    ("completionItem/resolve", completionItem),
    ("textDocument/diagnostic",
      about "DocumentDiagnosticParams"
        [req "textDocument" document, opt "identifier" .string, opt "previousResultId" .string]),
    ("workspace/diagnostic",
      about "WorkspaceDiagnosticParams"
        [opt "identifier" .string,
          req "previousResultIds"
            (.list (.record "PreviousResultId" [req "uri" .uri, req "value" .string] []))]),
    ("textDocument/signatureHelp",
      atPlace "SignatureHelpParams"
        [opt "context"
          (.record "SignatureHelpContext"
            [req "triggerKind" .i32, opt "triggerCharacter" .string, req "isRetrigger" .bool,
              opt "activeSignatureHelp" signatures]
            [])]
        [work]),
    ("textDocument/codeAction",
      about "CodeActionParams"
        [req "textDocument" document, req "range" range,
          req "context"
            (.record "CodeActionContext"
              [req "diagnostics" (.list diagnostic), opt "only" (.list .string),
                opt "triggerKind" .i32]
              [])]),
    ("codeAction/resolve", codeAction),
    ("textDocument/documentColor", aboutDocument "DocumentColorParams"),
    ("textDocument/colorPresentation",
      about "ColorPresentationParams"
        [req "textDocument" document, req "color" color, req "range" range]),
    ("textDocument/formatting",
      .record "DocumentFormattingParams"
        [req "textDocument" document, req "options" formatting] [work]),
    ("textDocument/rangeFormatting",
      .record "DocumentRangeFormattingParams"
        [req "textDocument" document, req "range" range, req "options" formatting] [work]),
    ("textDocument/onTypeFormatting",
      .record "DocumentOnTypeFormattingParams"
        [req "ch" .string, req "options" formatting] [place]),
    ("textDocument/rename",
      .record "RenameParams" [req "newName" .string] [place, work]),
    ("textDocument/prepareRename", .record "TextDocumentPositionParams" place []),
    ("textDocument/linkedEditingRange", atPlace "LinkedEditingRangeParams" [] [work]),
    ("workspace/symbol",
      .record "WorkspaceSymbolParams" [req "query" .string] [partialResults, work]),
    ("workspaceSymbol/resolve", workspaceSymbol),
    ("workspace/willCreateFiles", files "CreateFilesParams" "FileCreate" ["uri"]),
    ("workspace/willRenameFiles", files "RenameFilesParams" "FileRename" ["oldUri", "newUri"]),
    ("workspace/willDeleteFiles", files "DeleteFilesParams" "FileDelete" ["uri"]),
    ("workspace/executeCommand",
      .record "ExecuteCommandParams"
        [req "command" .string, ("arguments", .omissible, .list .any)] [work])]

/-- The notices that the host ignores. -/
def notices : List String :=
  ["textDocument/didOpen", "textDocument/didChange", "textDocument/willSave",
    "textDocument/didSave", "textDocument/didClose", "workspace/didChangeConfiguration",
    "workspace/didChangeWorkspaceFolders", "workspace/didChangeWatchedFiles",
    "workspace/didCreateFiles", "workspace/didRenameFiles", "workspace/didDeleteFiles"]

/-- The method of a name, if the host knows it. -/
def ofName? (name : String) : Option Method :=
  match name with
  | "initialize" => some handshake
  | "initialized" => some completed
  | "shutdown" => some shutdown
  | "exit" => some exit
  | "$/cancelRequest" => some cancellation
  | _ =>
    match requests.find? fun r => r.1 = name with
    | some (_, shape) => some (request shape)
    | none => if notices.contains name then some notice else none

end Method

end SessionGate
