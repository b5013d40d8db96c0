import SessionGate.Index.Walk
import SessionGate.Session.Record

/-!
# The indexer

- `Indexer`: whether indexing has started, and the files it found.
- `Indexer.start`: indexes the workspace of a session, once: the first session that lets the server
  index and has a local root counts, whatever comes later.
-/

namespace SessionGate

/-- Whether indexing has started, and the files it found. -/
structure Indexer where
  isStarted : Bool
  files : List Path
  deriving DecidableEq

namespace Indexer

/-- An indexer that has not started. -/
def new : Indexer := ⟨false, []⟩

/-- Indexes the workspace of a session in the files as they are. -/
def start (root : FileTree) (working : List Bytes) (i : Indexer) (r : Record) : Indexer :=
  if !r.indexingEnabled then i
  else
    match r.rootPath? with
    | none => i
    | some path =>
      if i.isStarted then i
      else
        match sourceFiles root working path with
        | .ok files => ⟨true, files⟩
        | .error _ => ⟨true, []⟩

end Indexer

end SessionGate
