import SessionGate.Schema.ClientCapabilities

/-!
# The shapes of handshake messages

- `handshakeParams`: what a client opens a session with.
- `exitParams`: what a client ends a session with.
- `completedParams`: what comes with the notice that the handshake is complete: nothing.
-/

namespace SessionGate

open Shape

/-- What a client opens a session with. Process and root are written even when there are none. -/
def handshakeParams : Shape :=
  .record "InitializeParams"
    [("processId", .kept, .u32),
      opt "rootPath" .string,
      ("rootUri", .keptDefaulted, .uri),
      opt "initializationOptions" .any,
      req "capabilities" clientCapabilities,
      ("trace", .defaulted, .choice ["off", "messages", "verbose"]),
      opt "workspaceFolders"
        (.list (.record "WorkspaceFolder" [req "uri" .uri, req "name" .string] [])),
      opt "clientInfo"
        (.record "ClientInfo" [req "name" .string, opt "version" .string] []),
      opt "locale" .string]
    []

/-- What a client ends a session with. -/
def exitParams : Shape :=
  .record "ExitParams" [req "status" .any] []

/-- What comes with the notice that the handshake is complete. -/
def completedParams : Shape :=
  .record "InitializedParams" [] []

end SessionGate
