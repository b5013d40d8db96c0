import SessionGate.Capability.Feature
import SessionGate.Json.Basic

/-!
# Providers

A provider answers for one family: whether it is to be announced, and with which options.

- `Provider`: the answers of a provider.
- `Provider.standard`: the providers the server comes with, one for each family.
- `taggedCommand`: a server command as the client is told it.
-/

namespace SessionGate

/-- The answers of a provider. -/
structure Provider where
  feature : Feature
  isEnabled : Bool := true
  options : Option Json := none

namespace Provider

/-- Announces a family without options. -/
def enabled (f : Feature) : Provider := { feature := f }

/-- Does not announce a family. -/
def disabled (f : Feature) : Provider := { feature := f, isEnabled := false }

/-- Announces a family with options. -/
def withOptions (f : Feature) (options : Json) : Provider :=
  { feature := f, options := some options }

end Provider

/-- A command under the tag of the process that offers it, so that several servers attached to one
client never claim the same command. -/
def taggedCommand (tag : String) (command : String) : String :=
  tag ++ ":" ++ command

/-- The commands the server executes. -/
def serverCommands : List String :=
  ["replace-lines", "server-info", "ct-run-test", "show-behaviour-usages", "suggest-spec"]

namespace Provider

/-- Characters after which a client asks for completions in Erlang sources. -/
def completionTriggers : List String := [":", "#", "?", ".", "-", "\""]

/-- Characters that open or advance signature help. -/
def signatureTriggers : List String := ["(", ",", ")"]

/-- Documents are opened, closed and changed incrementally; a save does not carry the text. -/
def syncOptions : Json :=
  .ofMembers [("openClose", .bool true), ("change", .int 2),
    ("save", .ofMembers [("includeText", .bool false)])]

/-- The providers the server comes with, for a process of this tag. -/
def standard (tag : String) : List Provider :=
  [withOptions .textDocumentSync syncOptions,
    enabled .hover,
    withOptions .completion
      (.ofMembers [("resolveProvider", .bool true),
        ("triggerCharacters", .strings completionTriggers)]),
    withOptions .signatureHelp
      (.ofMembers [("triggerCharacters", .strings signatureTriggers)]),
    enabled .definition,
    enabled .references,
    enabled .documentHighlight,
    enabled .documentSymbol,
    enabled .workspaceSymbol,
    enabled .codeAction,
    enabled .documentFormatting,
    enabled .documentRangeFormatting,
    enabled .foldingRange,
    enabled .implementation,
    withOptions .executeCommand
      (.ofMembers [("commands", .strings (serverCommands.map (taggedCommand tag)))]),
    withOptions .codeLens (.ofMembers [("resolveProvider", .bool false)]),
    enabled .rename,
    enabled .callHierarchy]

end Provider

end SessionGate
