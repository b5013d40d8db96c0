import SessionGate.Host.Message
import SessionGate.Host.Method
import SessionGate.Session.Controller

/-!
# The host

The host stands between a client and the session controller. A gate of its own refuses messages that
do not fit its state; what passes is read against its shape and handed to the controller.

- `Gate`: the states of the gate.
- `RawParams`: the parameters of a handshake as they were sent.
- `Host`: gate, controller and raw parameters.
- `Host.neutral`: the copy of those parameters that the gate's reader is shown.
- `Host.step`: one message; it answers the host after it and everything the step gave out.
- `Host.run`: messages one after another.

The reader would change the root and refuse capabilities of an unexpected form. A host that keeps
the raw parameters (`keepsRaw`) shows the reader neutral values in their place and hands the raw
ones to the controller; one that does not hands over what the reader makes of them.
-/

namespace SessionGate

/-- The states of the gate. -/
inductive Gate where
  | uninitialized
  | initialized
  | shutDown
  | exited
  deriving DecidableEq, Inhabited

/-- The parameters of a handshake as they were sent, kept until the controller sees them. -/
structure RawParams where
  kept : Option Json
  deriving DecidableEq

namespace RawParams

/-- Nothing is kept. -/
def none : RawParams := ⟨Option.none⟩

/-- Keeps parameters in place of what was kept before. -/
def store (_ : RawParams) (params : Json) : RawParams := ⟨some params⟩

/-- What is kept, and then no longer. -/
def take (r : RawParams) : Option Json × RawParams := (r.kept, none)

end RawParams

/-- Gate, controller, and the raw parameters of a handshake that the controller has not seen. -/
structure Host where
  gate : Gate
  controller : Controller
  raw : RawParams

/-- What a step gives out: the response, the log notices for the client, the registrations it is
asked for, and the work that is started. -/
structure Emission where
  response : Option Response
  notices : List String
  registrations : List (List Registration)
  triggers : List Trigger

namespace Emission

/-- Nothing at all. -/
def silent : Emission := ⟨none, [], [], []⟩

/-- Nothing but the response, if the message is a request. -/
def answer (id : Option Json) (content : Except WireError Json) : Emission :=
  { silent with response := Response.answering id content }

/-- Nothing but an error, if the message is a request. -/
def refusal (id : Option Json) (e : WireError) : Emission :=
  answer id (.error e)

end Emission

/-- The registrations among triggers; the host sends them itself. -/
def Trigger.registrations? : Trigger → Option (List Registration)
  | .register rs => some rs
  | _ => none

/-- Where a host runs, and whether it keeps raw parameters. -/
structure HostSetting where
  surroundings : Surroundings
  keepsRaw : Bool := true

namespace Host

/-- A host before any message. -/
def new (document : Document) : Host := ⟨.uninitialized, .new document, .none⟩

/-- A value with a neutral one in its place, unless it is null. -/
def neutralMember (key : String) (neutral : Json) (members : Json.Members) : Json.Members :=
  match Json.Members.get? key members with
  | some v => if v.isNull then members else Json.Members.insert key neutral members
  | none => members

/-- The parameters of a handshake with neutral values for the members that the session keeps raw.
Absent and null ones stay as they are, and so do parameters that are no object. -/
def neutral : Json → Json
  | .object members =>
    .object (neutralMember "capabilities" .empty (neutralMember "rootUri" .null members))
  | params => params

/-- The answer to a message that does not fit the gate. -/
def closed (h : Host) (id : Option Json) : Host × Emission :=
  match h.gate with
  | .uninitialized => (h, .refusal id .notInitialized)
  | _ => (h, .refusal id .invalidRequest)

/-- The result of a handshake in its normal form. -/
def typedResult (result : Json) : Except WireError Json :=
  match handshakeResultShape.conform result with
  | .ok v => .ok v
  | .error _ => .error .internal

/-- The controller's part of a handshake whose parameters have been read. -/
def openSession (s : Surroundings) (typed : Json) (h : Host) : Except WireError Json × Host :=
  let (raw, left) := h.raw.take
  let taken := { h with raw := left }
  match Request.ofMethod "initialize" (raw.getD typed) with
  | .error e => (.error (.ofSession e), taken)
  | .ok request =>
    let o := h.controller.handle s request
    let after := { taken with controller := o.controller }
    match o.reply with
    | .error e => (.error (.ofSession e), after)
    | .ok reply => (typedResult reply.result, after)

/-- A handshake. It opens the gate if it is answered with a result. -/
def handshake (setting : HostSetting) (h : Host) (m : Message) : Host × Emission :=
  let h :=
    match m.params with
    | some p => if setting.keepsRaw then { h with raw := h.raw.store p } else h
    | none => h
  let shown := m.params.map fun p => if setting.keepsRaw then neutral p else p
  match h.gate with
  | .uninitialized =>
    match m.id, shown with
    | none, _ => (h, .silent)
    | some _, none => (h, .refusal m.id (.invalidParams "Missing params field"))
    | some _, some p =>
      match handshakeParams.conform p with
      | .error e => (h, .refusal m.id (.invalidParams e.message))
      | .ok typed =>
        let (content, h) := openSession setting.surroundings typed h
        let gate := if content.toBool then .initialized else .uninitialized
        ({ h with gate := gate },
          { Emission.answer m.id content with notices := ["LSP server initializing"] })
  | _ => (h, .refusal m.id .invalidRequest)

/-- The notice that the handshake is complete. -/
def completed (h : Host) (m : Message) : Host × Emission :=
  match h.gate with
  | .initialized =>
    match m.id, m.params with
    | some _, _ => (h, .refusal m.id .invalidRequest)
    | none, none => (h, .silent)
    | none, some p =>
      match completedParams.conform p with
      | .error _ => (h, .silent)
      | .ok _ =>
        let o := h.controller.initialized
        let h := { h with controller := o.controller }
        match o.reply with
        | .error _ => (h, .silent)
        | .ok _ =>
          (h,
            { response := none
              notices := ["LSP server initialized"]
              registrations := o.triggers.filterMap Trigger.registrations?
              triggers := o.triggers.filter fun t => t.registrations?.isNone })
  | _ => h.closed m.id

/-- The announcement of the end. The gate closes before the message is looked at. -/
def shutdown (h : Host) (m : Message) : Host × Emission :=
  match h.gate with
  | .initialized =>
    let h := { h with gate := .shutDown }
    match m.id, m.params with
    | none, _ => (h, .silent)
    | some _, some p => (h, .refusal m.id (.invalidParams ("Unexpected params: " ++ p.compact)))
    | some _, none =>
      ({ h with controller := h.controller.shutdown.controller },
        { Emission.answer m.id (.ok .null) with notices := ["LSP server shutting down"] })
  | _ => h.closed m.id

/-- A request that the host reads and declines. -/
def decline (shape : Shape) (h : Host) (m : Message) : Host × Emission :=
  match h.gate with
  | .initialized =>
    match m.params with
    | none => (h, .refusal m.id (.invalidParams "Missing params field"))
    | some p =>
      match shape.conform p with
      | .error e => (h, .refusal m.id (.invalidParams e.message))
      | .ok _ => (h, .refusal m.id .declined)
  | _ => h.closed m.id

/-- A notice that the host ignores; as a request it is refused. -/
def ignore (h : Host) (m : Message) : Host × Emission :=
  match h.gate with
  | .initialized => (h, .refusal m.id .invalidRequest)
  | _ => h.closed m.id

/-- The notice that an answer is no longer wanted: there is never one under way. As a request it is
refused. -/
def cancel (h : Host) (m : Message) : Host × Emission :=
  (h, .refusal m.id .invalidRequest)

/-- A message with a method that the host does not know. Methods that begin with `$/` may be
ignored, and are. -/
def unknown (h : Host) (m : Message) : Host × Emission :=
  if m.method.startsWith "$/" then (h, .silent) else (h, .refusal m.id (.unknownMethod m.method))

/-- One message to a host that has not been ended. -/
def dispatch (setting : HostSetting) (h : Host) (m : Message) : Host × Emission :=
  match Method.ofName? m.method with
  | some .handshake => h.handshake setting m
  | some .completed => h.completed m
  | some .shutdown => h.shutdown m
  | some .exit => ({ h with gate := .exited }, .silent)
  | some .cancellation => h.cancel m
  | some (.request shape) => h.decline shape m
  | some .notice => h.ignore m
  | none => h.unknown m

/-- One message. A host that has been ended takes none: the emission is absent. -/
def step (setting : HostSetting) (h : Host) (m : Message) : Host × Option Emission :=
  match h.gate with
  | .exited => (h, none)
  | _ =>
    let (h, e) := h.dispatch setting m
    (h, some e)

/-- Messages one after another, with the host after each. -/
def run (setting : HostSetting) (h : Host) : List Message → List (Option Emission × Host) × Host
  | [] => ([], h)
  | m :: rest =>
    let (h, e) := h.step setting m
    let (steps, last) := h.run setting rest
    ((e, h) :: steps, last)

end Host

/-- What a client is told by a host that has been ended. -/
def exitedMessage : String := "language server has exited"

/-- A log notice as the client is sent it. -/
def logNotice (text : String) : Json :=
  .ofMembers [("jsonrpc", .string "2.0"), ("method", .string "window/logMessage"),
    ("params", .ofMembers [("type", .int 3), ("message", .string text)])]

/-- The request for registrations as the client is sent it, the only request the host makes. -/
def registrationRequest (registrations : List Registration) : Json :=
  .ofMembers [("jsonrpc", .string "2.0"), ("id", .int 0),
    ("method", .string "client/registerCapability"),
    ("params",
      .ofMembers [("registrations", .array (registrations.map Registration.toJson))])]

end SessionGate
