/-!
# Feature families

- `Feature`: the families a client and the server agree on, in the order they are announced.
- `Feature.key`: the key of a family in the capability document.
- `Feature.requiresOptions`: whether the entry of a family is a record of options and nothing else.
-/

namespace SessionGate

/-- An optional feature family of the protocol. -/
inductive Feature where
  | textDocumentSync
  | hover
  | completion
  | signatureHelp
  | definition
  | references
  | documentHighlight
  | documentSymbol
  | workspaceSymbol
  | codeAction
  | documentFormatting
  | documentRangeFormatting
  | foldingRange
  | implementation
  | executeCommand
  | codeLens
  | rename
  | callHierarchy
  deriving DecidableEq, Inhabited

namespace Feature

/-- Every family, in order. -/
def all : List Feature :=
  [textDocumentSync, hover, completion, signatureHelp, definition, references, documentHighlight,
    documentSymbol, workspaceSymbol, codeAction, documentFormatting, documentRangeFormatting,
    foldingRange, implementation, executeCommand, codeLens, rename, callHierarchy]

/-- No family is left out of the list. -/
theorem mem_all (f : Feature) : f ∈ all := by
  cases f <;> decide

/-- The place of a family in the order. -/
def position (f : Feature) : Nat :=
  all.idxOf f

/-- The key of a family in the capability document. -/
def key : Feature → String
  | textDocumentSync => "textDocumentSync"
  | hover => "hoverProvider"
  | completion => "completionProvider"
  | signatureHelp => "signatureHelpProvider"
  | definition => "definitionProvider"
  | references => "referencesProvider"
  | documentHighlight => "documentHighlightProvider"
  | documentSymbol => "documentSymbolProvider"
  | workspaceSymbol => "workspaceSymbolProvider"
  | codeAction => "codeActionProvider"
  | documentFormatting => "documentFormattingProvider"
  | documentRangeFormatting => "documentRangeFormattingProvider"
  | foldingRange => "foldingRangeProvider"
  | implementation => "implementationProvider"
  | executeCommand => "executeCommandProvider"
  | codeLens => "codeLensProvider"
  | rename => "renameProvider"
  | callHierarchy => "callHierarchyProvider"

/-- Different families have different keys. -/
theorem key_injective {f g : Feature} (h : f.key = g.key) : f = g := by
  cases f <;> cases g <;> simp_all [key]

/-- Whether the entry of a family has no truth-value form: a record of options, or no entry. -/
def requiresOptions : Feature → Bool
  | textDocumentSync | completion | signatureHelp | executeCommand | codeLens => true
  | _ => false

/-- Features in their order; equal ones stay. -/
def sort (features : List Feature) : List Feature :=
  features.mergeSort fun f g => f.position ≤ g.position

end Feature

end SessionGate
