import SessionGate.Session.Record

/-!
# Dynamic registration

Once the handshake is complete, the server registers for workspace events that the client lets it
register for.

- `Registration`: one registration, as the client is sent it.
- `Registration.isSupported`: whether the client lets the server register for an event.
- `Registration.sourceGlob`: the pattern of the files that are watched.
- `Registration.all`: the registrations of a session.
- `Registration.send`: what the client is sent of them.
-/

namespace SessionGate

/-- A registration. -/
structure Registration where
  id : String
  method : String
  options : Json
  deriving DecidableEq

namespace Registration

/-- The workspace events that the server registers for. -/
def events : List String := ["didChangeWatchedFiles"]

/-- Whether the client declares that registration for an event is dynamic. -/
def isSupported (r : Record) (event : String) : Bool :=
  r.clientCapability? ["workspace", event, "dynamicRegistration"] = some (.bool true)

/-- What the pattern of a session begins with: the root's path, or the root itself. -/
def globBase (r : Record) : List Char :=
  match r.rootPath? with
  | some p => Utf8.decodeLossy p
  | none => r.root.toList

/-- The pattern of Erlang sources and headers below a directory. -/
def sourcePattern : String := "/**/*.\x7be,h\x7drl"

/-- The pattern of the files that are watched: all sources and headers below the root. -/
def sourceGlob (r : Record) : String :=
  String.ofList (trimEnd (fun c => c = '/') (globBase r)) ++ sourcePattern

/-- The registration for an event. -/
def forEvent (r : Record) (event : String) : Registration :=
  let method := "workspace/" ++ event
  { id := method
    method := method
    options := .ofMembers
      [("watchers", .array [.ofMembers [("globPattern", .string (sourceGlob r))]])] }

/-- The registrations of a session, in the order of the events. -/
def all (r : Record) : List Registration :=
  (events.filter (isSupported r)).map (forEvent r)

/-- Sends the registrations of a session in one request, or nothing at all if there are none: the
requests that are made, and how many registrations are in them. -/
def send (r : Record) : List (List Registration) × Nat :=
  if (all r).isEmpty then ([], 0) else ([all r], (all r).length)

/-- A registration as the client is sent it. -/
def toJson (g : Registration) : Json :=
  .ofMembers [("id", .string g.id), ("method", .string g.method), ("registerOptions", g.options)]

end Registration

end SessionGate
