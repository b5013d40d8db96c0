import SessionGate.Settings

/-!
# The analysis node

- `NodeManager`: the node of the server, if it has one: the program and whether it runs.
- `NodeManager.start`, `NodeManager.stop`: one attempt to start it, and its end.
- `NodeEvent`: what each of them did.
-/

namespace SessionGate

/-- What happened to a node. -/
inductive NodeEvent where
  /-- A process was started under this name. -/
  | spawned (name : String)
  /-- The process of this name was stopped. -/
  | stopped (name : String)
  deriving DecidableEq

/-- The node of the server: the program that starts it, none where the server does without, and the
name it runs under. -/
structure NodeManager where
  program : Option String
  running : Option String
  deriving DecidableEq

namespace NodeManager

/-- A manager that has started nothing. -/
def new (program : String) : NodeManager := ⟨some program, none⟩

/-- The manager that settings ask for. -/
def ofSetting (s : NodeSetting) : NodeManager :=
  if s.isEnabled then new s.program else ⟨none, none⟩

/-- Whether a node has been started and not stopped. -/
def isRunning (m : NodeManager) : Bool :=
  m.running.isSome

/-- An attempt to start the node; `succeeds` says whether its program can be started. A node that
runs is left alone. -/
def start (m : NodeManager) (name : String) (succeeds : Bool) : NodeManager × List NodeEvent :=
  if m.isRunning || m.program.isNone || !succeeds then (m, [])
  else ({ m with running := some name }, [.spawned name])

/-- Stops the node, if it runs. -/
def stop (m : NodeManager) : NodeManager × List NodeEvent :=
  match m.running with
  | some name => ({ m with running := none }, [.stopped name])
  | none => (m, [])

end NodeManager

end SessionGate
