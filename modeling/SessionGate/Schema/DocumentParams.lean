import SessionGate.Schema.ServerCapabilities

/-!
# The shapes of document requests

What comes with the requests about documents and the workspace, of which the server answers none.
Their parameters are still read, so that a malformed request is told what is wrong with it.

- `DocumentShapes.position`, `DocumentShapes.range`: places in a document.
- `DocumentShapes.atPlace`, `DocumentShapes.about`: parameters about a place, about a document.
-/

namespace SessionGate

open Shape

namespace DocumentShapes

/-- A place in a document. -/
def position : Shape := .record "Position" [req "line" .u32, req "character" .u32] []

/-- A stretch of a document. -/
def range : Shape := .record "Range" [req "start" position, req "end" position] []

/-- A document. -/
def document : Shape := .record "TextDocumentIdentifier" [req "uri" .uri] []

/-- A stretch of a document that may not be open. -/
def location : Shape := .record "Location" [req "uri" .uri, req "range" range] []

/-- The name under which progress is reported. -/
def token : Shape := .oneOf "NumberOrString" [.i32, .string]

/-- A number or a text. -/
def code : Shape := token

/-- Members that say where progress is reported. -/
def work : Fields := [opt "workDoneToken" token]

/-- Members that say where partial results are reported. -/
def partialResults : Fields := [opt "partialResultToken" token]

/-- Members that name a place in a document. -/
def place : Fields := [req "textDocument" document, req "position" position]

/-- Parameters about a place in a document. -/
def atPlace (name : String) (own : Fields) (more : List Fields) : Shape :=
  .record name own (place :: more)

/-- Parameters about a whole document or the workspace. -/
def about (name : String) (own : Fields) : Shape :=
  .record name own [work, partialResults]

/-- Parameters about a whole document and nothing else. -/
def aboutDocument (name : String) : Shape :=
  about name [req "textDocument" document]

/-- A command with its arguments. -/
def command : Shape :=
  .record "Command" [req "title" .string, req "command" .string, opt "arguments" (.list .any)] []

/-- A change of a document. -/
def textEdit : Shape := .record "TextEdit" [req "range" range, req "newText" .string] []

/-- A text with its format. -/
def markup : Shape :=
  .record "MarkupContent" [req "kind" (.choice ["plaintext", "markdown"]), req "value" .string] []

/-- A text, with its format or without. -/
def textOrMarkup (name : String) : Shape := .oneOf name [.string, markup]

/-- What a signature, a parameter or a completion is about. -/
def documentation : Shape := textOrMarkup "Documentation"

/-- What is wrong at a place. -/
def diagnostic : Shape :=
  .record "Diagnostic"
    [req "range" range, opt "severity" .i32, opt "code" code,
      opt "codeDescription" (.record "CodeDescription" [req "href" .uri] []),
      opt "source" .string, req "message" .string,
      opt "relatedInformation"
        (.list (.record "DiagnosticRelatedInformation"
          [req "location" location, req "message" .string] [])),
      opt "tags" (.list .i32), opt "data" .any]
    []

/-- An entry of a hierarchy; `tags` is the shape of its tags. -/
def hierarchyItem (name : String) (tags : Shape) : Shape :=
  .record name
    [req "name" .string, req "kind" .i32, opt "tags" tags, opt "detail" .string,
      req "uri" .uri, req "range" range, req "selectionRange" range, opt "data" .any]
    []

/-- An entry of a hierarchy of calls. -/
def callItem : Shape := hierarchyItem "CallHierarchyItem" (.list .i32)

/-- An entry of a hierarchy of types, which has one tag at most. -/
def typeItem : Shape := hierarchyItem "TypeHierarchyItem" .i32

/-- A symbol that the client wants more about. -/
def workspaceSymbol : Shape :=
  .record "WorkspaceSymbol"
    [req "name" .string, req "kind" .i32, opt "tags" (.list .i32), opt "containerName" .string,
      req "location"
        (.oneOf "OneOf" [location, .record "WorkspaceLocation" [req "uri" .uri] []]),
      opt "data" .any]
    []

/-- A completion that the client wants more about. -/
def completionItem : Shape :=
  .record "CompletionItem"
    [req "label" .string,
      opt "labelDetails"
        (.record "CompletionItemLabelDetails" [opt "detail" .string, opt "description" .string] []),
      opt "kind" .i32, opt "detail" .string, opt "documentation" documentation,
      opt "deprecated" .bool, opt "preselect" .bool, opt "sortText" .string,
      opt "filterText" .string, opt "insertText" .string, opt "insertTextFormat" .i32,
      opt "insertTextMode" .i32,
      opt "textEdit"
        (.oneOf "CompletionTextEdit"
          [textEdit,
            .record "InsertReplaceEdit"
              [req "newText" .string, req "insert" range, req "replace" range] []]),
      opt "additionalTextEdits" (.list textEdit), opt "command" command,
      opt "commitCharacters" (.list .string), opt "data" .any, opt "tags" (.list .i32)]
    []

/-- Changes of one document, of a given version or of any. -/
def documentEdit : Shape :=
  .record "TextDocumentEdit"
    [req "textDocument"
        (.record "OptionalVersionedTextDocumentIdentifier"
          [req "uri" .uri, opt "version" .i32] []),
      req "edits"
        (.list (.oneOf "OneOf"
          [textEdit,
            .record "AnnotatedTextEdit" [req "annotationId" .string]
              [[req "range" range, req "newText" .string]]]))]
    []

/-- A file to make, to rename or to delete. -/
def fileOperation : Shape :=
  .tagged "kind"
    [("create",
        .record "CreateFile"
          [req "uri" .uri,
            opt "options"
              (.record "CreateFileOptions" [opt "overwrite" .bool, opt "ignoreIfExists" .bool] []),
            opt "annotationId" .string]
          []),
      ("rename",
        .record "RenameFile"
          [req "oldUri" .uri, req "newUri" .uri,
            opt "options"
              (.record "RenameFileOptions" [opt "overwrite" .bool, opt "ignoreIfExists" .bool] []),
            opt "annotationId" .string]
          []),
      ("delete",
        .record "DeleteFile"
          [req "uri" .uri,
            opt "options"
              (.record "DeleteFileOptions"
                [opt "recursive" .bool, opt "ignoreIfNotExists" .bool, opt "annotationId" .string]
                [])]
          [])]

/-- Changes of several documents. -/
def workspaceEdit : Shape :=
  .record "WorkspaceEdit"
    [("changes", .defaulted, .table "map" .uri (.list textEdit)),
      opt "documentChanges"
        (.oneOf "DocumentChanges"
          [.list documentEdit,
            .list (.oneOf "DocumentChangeOperation" [fileOperation, documentEdit])]),
      opt "changeAnnotations"
        (.table "a map" .string
          (.record "ChangeAnnotation"
            [req "label" .string, opt "needsConfirmation" .bool, opt "description" .string] []))]
    []

/-- A code action that the client wants more about. -/
def codeAction : Shape :=
  .record "CodeAction"
    [req "title" .string, opt "kind" .string, opt "diagnostics" (.list diagnostic),
      opt "edit" workspaceEdit, opt "command" command, opt "isPreferred" .bool,
      opt "disabled" (.record "CodeActionDisabled" [req "reason" .string] []), opt "data" .any]
    []

/-- A part of the label of a hint. -/
def labelPart : Shape :=
  .record "InlayHintLabelPart"
    [req "value" .string, opt "tooltip" (textOrMarkup "InlayHintLabelPartTooltip"),
      opt "location" location, opt "command" command]
    []

/-- A hint that the client wants more about. -/
def inlayHint : Shape :=
  .record "InlayHint"
    [req "position" position, req "label" (.oneOf "InlayHintLabel" [.string, .list labelPart]),
      opt "kind" .i32, opt "textEdits" (.list textEdit),
      opt "tooltip" (textOrMarkup "InlayHintTooltip"),
      opt "paddingLeft" .bool, opt "paddingRight" .bool, opt "data" .any]
    []

/-- A parameter of a signature. -/
def parameter : Shape :=
  .record "ParameterInformation"
    [req "label" (.oneOf "ParameterLabel" [.string, .vector 2 .u32]),
      opt "documentation" documentation]
    []

/-- The signatures that a client shows. -/
def signatures : Shape :=
  .record "SignatureHelp"
    [req "signatures"
        (.list (.record "SignatureInformation"
          [req "label" .string, opt "documentation" documentation,
            opt "parameters" (.list parameter), opt "activeParameter" .u32]
          [])),
      opt "activeSignature" .u32, opt "activeParameter" .u32]
    []

/-- A colour. -/
def color : Shape :=
  .record "Color" [req "red" .f32, req "green" .f32, req "blue" .f32, req "alpha" .f32] []

/-- How a document is to be formatted. Further members are left to the formatter. -/
def formatting : Shape :=
  .openRecord "FormattingOptions"
    [req "tabSize" .u32, req "insertSpaces" .bool, opt "trimTrailingWhitespace" .bool,
      opt "insertFinalNewline" .bool, opt "trimFinalNewlines" .bool]
    (.oneOf "FormattingProperty" [.bool, .i32, .string])

/-- Files that are about to change. -/
def files (name fileName : String) (keys : List String) : Shape :=
  .record name
    [req "files" (.list (.record fileName (keys.map fun k => req k .string) []))] []

end DocumentShapes

end SessionGate
