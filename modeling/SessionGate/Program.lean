import SessionGate.CommandLine.Help
import SessionGate.DataDirectory
import SessionGate.Server

/-!
# The program

- `LogError`: why there is no log file, and the exit code that follows.
- `Program.hostOf`, `Program.serverOf`: the host and the server of some settings.
- `Program.start`: what the program does with its arguments: it says something and ends, or serves.
- `Program.serve`: the responses to the messages of a client, and the exit code.
- `FileTree.makeDirectories?`: the directories on the way to the log file.
- `FileTree.openPlace?`: where a file is when it has been opened for writing.
-/

namespace SessionGate

/-- The greatest number of octets in a name. -/
def FileTree.nameLimit : Nat := 255

/-- The greatest number of octets in a path. -/
def FileTree.pathLimit : Nat := 4095

/-- Makes the directories along names, seen from a place; what is there already must be a directory.
The tree after it, and the place. -/
def FileTree.makeFrom? (root : FileTree) (here : List Bytes) :
    List Bytes → Option (FileTree × List Bytes)
  | [] => some (root, here)
  | name :: rest =>
    match FileTree.resolve? root here name with
    | some (place, .directory _) => makeFrom? root place rest
    | some _ => none
    | none =>
      if (root.at? (here ++ [name])).isSome || nameLimit < name.length then none
      else makeFrom? (FileTree.put (.directory []) (here ++ [name]) root) (here ++ [name]) rest

/-- Makes the directories of a path, seen from a directory. -/
def FileTree.makeDirectories? (root : FileTree) (working : List Bytes) (p : Path) :
    Option (FileTree × List Bytes) :=
  if pathLimit < p.length then none
  else makeFrom? root (if Path.isAbsolute p then [] else working) (Path.names p)

/-- Where a file is when it has been opened for writing, seen from a directory: at the end of the
links that its path leads to, in a directory that is there. The number bounds how many links. -/
def FileTree.openPlace? (root : FileTree) : Nat → List Bytes → Path → Option (List Bytes)
  | 0, _, _ => none
  | links + 1, here, p =>
    let last := (List.splitOn Path.slash p).getLastD []
    let start := if Path.isAbsolute p then [] else here.reverse
    match follow root linkLimit start ((Path.names p).dropLast) with
    | none => none
    | some reversed =>
      let directory := reversed.reverse
      if (Path.names p).getLast? != some last || last = [Path.dot, Path.dot] then none
      else if !((root.at? directory).any FileTree.isDirectory) then none
      else
        match root.at? (directory ++ [last]) with
        | some (.link target) => openPlace? root links directory target
        | some (.directory _) => none
        | some (.file _) => some (directory ++ [last])
        | none => if nameLimit < last.length then none else some (directory ++ [last])

/-- Why there is no log file. -/
inductive LogError where
  /-- Its directory cannot be made. -/
  | noDirectory
  /-- It cannot be opened. -/
  | notAFile
  deriving DecidableEq

/-- The exit code that follows. -/
def LogError.exitCode : LogError → Int
  | noDirectory => 1
  | notAFile => 101

namespace Program

/-- What the program finds when it starts. -/
structure Environment where
  dataHome : Option Path
  home : Option Path
  files : FileTree
  working : List Bytes
  surroundings : Surroundings
  /-- The tag of the process. -/
  tag : String

/-- What the program does with its arguments. -/
inductive Opening where
  /-- It writes a text and ends. -/
  | ends (output : String) (exitCode : Int)
  /-- It serves a client; the log file is among the files. -/
  | serves (files : FileTree) (server : Server)

/-- The host of these settings in a process of this tag. -/
def hostOf (tag : String) (settings : Settings) : Host :=
  .new (Document.build (Provider.standard tag) settings.overrides)

/-- The server of these settings in a process of this tag. -/
def serverOf (tag : String) (settings : Settings) : Server :=
  .new (hostOf tag settings) settings.node

/-- The files with the log file in place. -/
def withLog (e : Environment) (options : Options) : Except LogError FileTree :=
  let directory :=
    (options.logDirectory.map textBytes).getD (dataDirectory e.dataHome e.home)
  match FileTree.makeDirectories? e.files e.working directory with
  | none => .error .noDirectory
  | some (files, place) =>
    if FileTree.pathLimit < (Path.join directory logName).length then .error .notAFile
    else
      match FileTree.openPlace? files FileTree.linkLimit place logName with
      | none => .error .notAFile
      | some file =>
        if (files.at? file).isSome then .ok files
        else .ok (FileTree.put (.file "") file files)

/-- What the program does with its arguments. Without a log file it ends. -/
def start (e : Environment) (arguments : List String) : Opening :=
  match Options.parse arguments with
  | .error r => .ends r.output r.exitCode
  | .ok options =>
    match withLog e options with
    | .error reason => .ends "" reason.exitCode
    | .ok files => .serves files (serverOf e.tag options.settings)

/-- The responses to messages, and the exit code once the client has left. -/
def serve (server : Server) (arrivals : List Arrival) : List Response × Int :=
  let (steps, last) := server.run arrivals
  (steps.filterMap fun s => s.emission.bind Emission.response, last.close.exitCode)

end Program

end SessionGate
