import SessionGate.Json.Basic
import SessionGate.Session.Error

/-!
# Messages

- `Message`: what a client sends: a request if it has an id, a notification if it has none.
- `Response`: what the host answers to a request.
- `WireError`: the errors of responses.
-/

namespace SessionGate

/-- What a client sends. An id may be null; one that is absent makes a notification. -/
structure Message where
  method : String
  id : Option Json
  params : Option Json
  deriving DecidableEq

/-- The error of a response. -/
structure WireError where
  code : Int
  message : String
  data : Option Json
  deriving DecidableEq

namespace WireError

/-- The host has not been opened yet. -/
def notInitialized : WireError := ⟨-32002, "Server not initialized", none⟩

/-- The message does not fit the state of the host. -/
def invalidRequest : WireError := ⟨-32600, "Invalid request", none⟩

/-- The parameters are missing or malformed. -/
def invalidParams (detail : String) : WireError := ⟨-32602, detail, none⟩

/-- The host does not do this. -/
def declined : WireError := ⟨-32601, "Method not found", none⟩

/-- The host does not know this method. -/
def unknownMethod (method : String) : WireError :=
  ⟨-32601, "Method not found", some (.string method)⟩

/-- Something went wrong in the host. -/
def internal : WireError := ⟨-32603, "Internal error", none⟩

/-- A refusal by the session. -/
def ofSession (e : SessionError) : WireError := ⟨e.code, e.message, none⟩

/-- An error as the client is sent it. -/
def toJson (e : WireError) : Json :=
  .ofMembers ([("code", .int e.code), ("message", .string e.message)] ++
    match e.data with
    | some d => [("data", d)]
    | none => [])

end WireError

/-- What a request is answered with. -/
structure Response where
  id : Json
  content : Except WireError Json

namespace Response

/-- Whether it carries a result. -/
def isResult (r : Response) : Bool :=
  r.content.toBool

/-- A response as the client is sent it. -/
def toJson (r : Response) : Json :=
  .ofMembers [("jsonrpc", .string "2.0"), ("id", r.id),
    match r.content with
    | .ok v => ("result", v)
    | .error e => ("error", e.toJson)]

/-- The response to a message with this id, if it is a request. -/
def answering (id : Option Json) (content : Except WireError Json) : Option Response :=
  id.map fun i => ⟨i, content⟩

end Response

end SessionGate
