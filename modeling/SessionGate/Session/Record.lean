import SessionGate.Json.Basic
import SessionGate.Session.Root

/-!
# The session record

What the server keeps of a handshake. Root and capabilities are kept as the client sent them; only
the views of them are read.

- `Record`: root, client capabilities, and the members of the options object.
- `Record.ofHandshake`: the record of a handshake; options that are no object count as empty.
- `Record.rootPath?`, `Record.indexingEnabled`, `Record.clientCapability?`: the views.
-/

namespace SessionGate

/-- What the server keeps of a handshake. -/
structure Record where
  root : String
  clientCapabilities : Json
  options : Json.Members
  deriving DecidableEq

namespace Record

/-- The members of the options, none if they are no object. -/
def optionMembers : Option Json → Json.Members
  | some (.object members) => members
  | _ => []

/-- The record of a handshake. -/
def ofHandshake (root : String) (capabilities : Json) (options : Option Json) : Record :=
  ⟨root, capabilities, optionMembers options⟩

/-- The local directory of the root, if it names one. -/
def rootPath? (r : Record) : Option Path :=
  Root.filePath? r.root

/-- Whether the client lets the server index: unless `indexingEnabled` is false. -/
def indexingEnabled (r : Record) : Bool :=
  (((Json.Members.get? "indexingEnabled" r.options).bind Json.bool?).getD true)

/-- The client capability at the end of a path of keys. -/
def clientCapability? (r : Record) (path : List String) : Option Json :=
  r.clientCapabilities.lookup path

end Record

end SessionGate
