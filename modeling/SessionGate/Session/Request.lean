import SessionGate.Schema.HandshakeParams
import SessionGate.Session.Error

/-!
# Session requests

The four requests of a session's life, and the reading of them from a method and its parameters.

- `Request.ofMethod`: the request of a method; the parameters of a handshake are taken as they are.
- `ExitStatus`, `ExitStatus.code`: why a session ends, and the exit code that follows.
- `Reply`: what a request is answered with, and whether the process is to end.
-/

namespace SessionGate

/-- Why a session ends. -/
inductive ExitStatus where
  /-- A shutdown was acknowledged before. -/
  | shutdown
  /-- Anything else. -/
  | other (text : String)
  deriving DecidableEq

namespace ExitStatus

/-- The exit code of the process. -/
def code : ExitStatus → Int
  | shutdown => 0
  | other _ => 1

/-- The status a value stands for; what is no text counts by its JSON text. -/
def ofJson : Json → ExitStatus
  | .string s => if s = "shutdown" then shutdown else other s
  | v => other v.compact

end ExitStatus

/-- The parts of a handshake that the session keeps. -/
structure HandshakeRequest where
  root : Option String
  capabilities : Json
  options : Option Json
  deriving DecidableEq

/-- A request of a session's life. -/
inductive Request where
  | handshake (params : HandshakeRequest)
  | initialized
  | shutdown
  | exit (status : ExitStatus)
  deriving DecidableEq

namespace Request

/-- A handshake from its parameters. Capabilities must be there; a root must be a text or null. -/
def handshakeOf (params : Json) : Except SessionError Request :=
  match params with
  | .object members =>
    match (Json.Members.get? "capabilities" members).getD .null with
    | .null => .error (.invalidParams (ShapeError.missingField "capabilities").message)
    | capabilities =>
      let options := Json.Members.get? "initializationOptions" members
      match (Json.Members.get? "rootUri" members).getD .null with
      | .null => .ok (.handshake ⟨none, capabilities, options⟩)
      | .string root => .ok (.handshake ⟨some root, capabilities, options⟩)
      | other =>
        .error (.invalidParams ("rootUri must be a string or null, got " ++ other.compact))
  | _ => .error (.invalidParams "initialize params must be an object")

/-- An exit from its parameters: a record, or the array of its one member, with a status. -/
def exitOf (params : Json) : Except SessionError Request :=
  match exitParams.conform params with
  | .ok v => .ok (.exit (.ofJson ((v.get? "status").getD .null)))
  | .error e => .error (.invalidParams e.message)

/-- The request of a method with these parameters. -/
def ofMethod (method : String) (params : Json) : Except SessionError Request :=
  match method with
  | "initialize" => handshakeOf params
  | "initialized" => .ok .initialized
  | "shutdown" => .ok .shutdown
  | "exit" => exitOf params
  | other => .error (.methodNotFound other)

/-- The method of a request. -/
def method : Request → String
  | handshake _ => "initialize"
  | initialized => "initialized"
  | shutdown => "shutdown"
  | exit _ => "exit"

end Request

/-- What a request is answered with. -/
structure Reply where
  result : Json
  /-- The exit code, if the process is to end. -/
  terminate : Option Int
  deriving DecidableEq

namespace Reply

/-- Nothing but an acknowledgement. -/
def acknowledge : Reply := ⟨.null, none⟩

/-- A result. -/
def withResult (result : Json) : Reply := ⟨result, none⟩

/-- The end of the process. -/
def terminating (code : Int) : Reply := ⟨.null, some code⟩

end Reply

end SessionGate
