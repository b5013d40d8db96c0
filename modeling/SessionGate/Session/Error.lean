/-!
# Session errors

- `SessionError`: why the session refuses a request.
- `SessionError.message`, `SessionError.code`: the wording of a refusal, and its code on the wire.
-/

namespace SessionGate

/-- Why the session refuses a request. -/
inductive SessionError where
  | notInitialized
  | invalidRequest (detail : String)
  | invalidParams (detail : String)
  | methodNotFound (method : String)
  | rootResolution (cause : String)
  | internal (detail : String)
  deriving DecidableEq

namespace SessionError

/-- The wording of a refusal. -/
def message : SessionError → String
  | notInitialized => "Server not initialized"
  | invalidRequest detail => "Invalid request: " ++ detail
  | invalidParams detail => "Invalid params: " ++ detail
  | methodNotFound method => "Method not found: " ++ method
  | rootResolution cause => "Failed to resolve workspace root: " ++ cause
  | internal detail => "Internal error: " ++ detail

/-- The code of a refusal on the wire. -/
def code : SessionError → Int
  | notInitialized => -32002
  | invalidRequest _ => -32600
  | invalidParams _ => -32602
  | methodNotFound _ => -32601
  | rootResolution _ | internal _ => -32603

end SessionError

end SessionGate
