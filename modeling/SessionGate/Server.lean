import SessionGate.Host.Basic
import SessionGate.Index.Indexer
import SessionGate.Node.Manager

/-!
# The server

The host, and who does the work that a session asks for. What the session asks for is handed on as
it is asked; registrations the host has sent to the client itself.

- `World`: what the server finds outside itself; `Arrival`: a message, and the world it arrives in.
- `Server`: host, indexer and manager of the node; `Server.new`: before any message.
- `Server.hand`, `Server.handAll`: triggers handed to whom they concern.
- `Server.take`, `Server.run`: one message, and messages one after another.
- `Server.close`: the end, once the client has left: the node is stopped, and the session tells the
  exit code.

An index is made on the side, while messages are taken. Here it is complete as soon as it is asked
for; nothing that the server answers depends on it.
-/

namespace SessionGate

/-- What the server finds outside itself. -/
structure World where
  surroundings : Surroundings
  files : FileTree
  /-- The names of the working directory. -/
  working : List Bytes
  /-- Whether the program of the node can be started. -/
  startsNode : Bool

/-- A message, and the world it arrives in. The world may be another for the next message. -/
structure Arrival where
  message : Message
  world : World

/-- The host, and who does the work that a session asks for. -/
structure Server where
  host : Host
  indexer : Indexer
  node : NodeManager

namespace Server

/-- A server before any message. -/
def new (host : Host) (setting : NodeSetting) : Server :=
  ⟨host, .new, .ofSetting setting⟩

/-- Hands a trigger to whom it concerns: the server after it, and what happened to the node. -/
def hand (w : World) (s : Server) : Trigger → Server × List NodeEvent
  | .register _ => (s, [])
  | .startNode name =>
    let (node, events) := s.node.start name w.startsNode
    ({ s with node := node }, events)
  | .index record => ({ s with indexer := s.indexer.start w.files w.working record }, [])

/-- Hands on triggers one after another. -/
def handAll (w : World) (s : Server) : List Trigger → Server × List NodeEvent
  | [] => (s, [])
  | t :: rest =>
    let (s, first) := s.hand w t
    let (s, more) := s.handAll w rest
    (s, first ++ more)

/-- What can be seen of a message: what the host gave out, and what happened to the node. -/
structure Step where
  emission : Option Emission
  events : List NodeEvent

/-- One message. -/
def take (s : Server) (a : Arrival) : Step × Server :=
  let (host, emission) := s.host.step ⟨a.world.surroundings, true⟩ a.message
  let (s, events) :=
    handAll a.world { s with host := host } (emission.elim [] Emission.triggers)
  (⟨emission, events⟩, s)

/-- Messages one after another, and the server after them. -/
def run (s : Server) : List Arrival → List Step × Server
  | [] => ([], s)
  | a :: rest =>
    let (step, s) := s.take a
    let (steps, last) := s.run rest
    (step :: steps, last)

/-- How a server ends: the exit code, what happened to the node, and the server after it. -/
structure Ending where
  exitCode : Int
  events : List NodeEvent
  server : Server

/-- Ends a server whose client has left. -/
def close (s : Server) : Ending :=
  let (node, events) := s.node.stop
  let (code, controller) := s.host.controller.exitCode
  ⟨code, events, { s with node := node, host := { s.host with controller := controller } }⟩

end Server

end SessionGate
