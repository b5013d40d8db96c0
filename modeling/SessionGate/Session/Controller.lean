import SessionGate.Capability.Document
import SessionGate.Node.Name
import SessionGate.Registration
import SessionGate.Session.Request
import SessionGate.Text.Quoted

/-!
# The session controller

The life of a session: a handshake, the notice that it is complete, a shutdown, an exit.

- `SessionState`: the stages of a session's life, in order.
- `Trigger`: what the controller asks of the rest of the server.
- `Controller`: stage and record of a session, and the document it announces.
- `Controller.handle`: one request; it answers the reply or error, the controller after it, and the
  triggers in order.
- `Controller.exitCode`: the exit code once the client has left.
-/

namespace SessionGate

/-- The stages of a session's life. -/
inductive SessionState where
  | uninitialized
  | initializing
  | initialized
  | shuttingDown
  | exited
  deriving DecidableEq, Inhabited

namespace SessionState

/-- The name of a stage. -/
def name : SessionState → String
  | uninitialized => "uninitialized"
  | initializing => "initializing"
  | initialized => "initialized"
  | shuttingDown => "shutting_down"
  | exited => "exited"

/-- The place of a stage in the order. -/
def rank : SessionState → Nat
  | uninitialized => 0
  | initializing => 1
  | initialized => 2
  | shuttingDown => 3
  | exited => 4

end SessionState

/-- What the controller asks of the rest of the server. -/
inductive Trigger where
  /-- Send the client these registrations in one request. -/
  | register (registrations : List Registration)
  /-- Start the analysis node under this name. -/
  | startNode (name : String)
  /-- Index the workspace of this session. -/
  | index (record : Record)
  deriving DecidableEq

/-- What the session finds outside itself: the working directory, which a system always gives as an
absolute path, or why it cannot be read. -/
structure Surroundings where
  workingDirectory : Except String Path
  isAbsolute : ∀ directory, workingDirectory = .ok directory → Path.isAbsolute directory = true

namespace Surroundings

/-- Surroundings with a working directory. -/
def inside (directory : Path) (h : Path.isAbsolute directory = true) : Surroundings where
  workingDirectory := .ok directory
  isAbsolute _ heq := Except.ok.inj heq ▸ h

/-- Surroundings without one. -/
def lost (cause : String) : Surroundings where
  workingDirectory := .error cause
  isAbsolute := nofun

end Surroundings

/-- The root that a handshake names, or that of a working directory. One that is not absolute has
none. -/
def resolveRootWith (workingDirectory : Except String Path) :
    Option String → Except SessionError String
  | some root => .ok root
  | none =>
    match workingDirectory with
    | .error cause => .error (.rootResolution cause)
    | .ok directory =>
      if Path.isAbsolute directory then .ok (Root.ofDirectory directory)
      else .error (.internal (Quoted.path directory ++ " is not an absolute path"))

/-- The root that a handshake names, or that of the working directory. -/
def resolveRoot (surroundings : Surroundings) (named : Option String) :
    Except SessionError String :=
  resolveRootWith surroundings.workingDirectory named

/-- A session's stage and record, and the document it announces. -/
structure Controller where
  state : SessionState
  record? : Option Record
  document : Document

/-- What one call of the controller comes to. -/
structure Outcome where
  reply : Except SessionError Reply
  controller : Controller
  triggers : List Trigger

namespace Controller

/-- A controller before its handshake. -/
def new (document : Document) : Controller := ⟨.uninitialized, none, document⟩

/-- A refusal that leaves everything as it was. -/
def refuse (c : Controller) (e : SessionError) : Outcome := ⟨.error e, c, []⟩

/-- The background work of a session: registrations if there are any, the node, the index. -/
def startUp (r : Record) : List Trigger :=
  (match Registration.all r with
    | [] => []
    | registrations => [.register registrations]) ++
  [.startNode (NodeName.forRoot applicationName r.root), .index r]

/-- Opens the session. It is opened once; the root is found before anything changes. -/
def handshake (s : Surroundings) (c : Controller) (params : HandshakeRequest) : Outcome :=
  if c.state ≠ .uninitialized then
    c.refuse (.invalidRequest ("initialize received while " ++ c.state.name))
  else
    match resolveRoot s params.root with
    | .error e => c.refuse e
    | .ok root =>
      let record := Record.ofHandshake root params.capabilities params.options
      ⟨.ok (.withResult (handshakeResult c.document)),
        { c with state := .initializing, record? := some record }, []⟩

/-- Takes note that the handshake is complete and starts the background work. After that it changes
nothing. -/
def initialized (c : Controller) : Outcome :=
  match c.state with
  | .uninitialized => c.refuse .notInitialized
  | .initializing =>
    match c.record? with
    | none => c.refuse (.internal "session record missing")
    | some record => ⟨.ok .acknowledge, { c with state := .initialized }, startUp record⟩
  | _ => ⟨.ok .acknowledge, c, []⟩

/-- Announces the end of the session. It is accepted in every stage. -/
def shutdown (c : Controller) : Outcome :=
  ⟨.ok .acknowledge, { c with state := .shuttingDown }, []⟩

/-- Ends the session. It is accepted in every stage. -/
def exit (c : Controller) (status : ExitStatus) : Outcome :=
  ⟨.ok (.terminating status.code), { c with state := .exited }, []⟩

/-- One request. -/
def handle (s : Surroundings) (c : Controller) : Request → Outcome
  | .handshake params => c.handshake s params
  | .initialized => c.initialized
  | .shutdown => c.shutdown
  | .exit status => c.exit status

/-- The status of a session whose client has left: a shutdown only if one was announced. -/
def exitStatus (c : Controller) : ExitStatus :=
  if c.state = .shuttingDown then .shutdown else .other c.state.name

/-- Ends the session of a client that has left: the exit code, and the controller after it. -/
def exitCode (c : Controller) : Int × Controller :=
  (c.exitStatus.code, (c.exit c.exitStatus).controller)

end Controller

end SessionGate
