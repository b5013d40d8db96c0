import SessionGate.Host.Frame
import SessionGate.Json.Reader
import SessionGate.Program

/-!
# The command

Serves a client over standard input and output: reads frames, hands messages to the host, and writes
what each step gives out. It ends with the exit code of the session once the client has left. The
node and the index serve no message, and the command starts neither; a `Server` has them.
-/

namespace SessionGate

/-- The tag of this process. -/
def processTag : IO String := do
  let line ← IO.FS.readFile "/proc/self/stat"
  return String.ofList (line.toList.takeWhile Char.isDigit)

/-- Where this process runs. -/
def processSurroundings : IO Surroundings := do
  try
    let directory := textBytes (← IO.currentDir).toString
    if h : Path.isAbsolute directory = true then return .inside directory h
    else return .lost "the working directory is not absolute"
  catch e =>
    return .lost e.toString

/-- The header of the next frame: the length of its body, or none at the end of the input. -/
partial def readHeader (input : IO.FS.Stream) (length : Option Nat) : IO (Option Nat) := do
  let line ← input.getLine
  if line.isEmpty then return none
  else if Frame.endsHeader line.toList then
    match length with
    | some n => return some n
    | none => readHeader input none
  else readHeader input ((Frame.length? line.toList).or length)

/-- The next octets of the input, fewer at its end. -/
partial def readOctets (input : IO.FS.Stream) (count : Nat) (read : ByteArray) : IO ByteArray := do
  if count ≤ read.size then return read
  let piece ← input.read (count - read.size).toUSize
  if piece.isEmpty then return read
  readOctets input count (read ++ piece)

/-- The message in the body of a frame. -/
def messageOf? (body : ByteArray) : Option Message := do
  let text ← Utf8.decode? body.toList
  let value ← Json.parse? text
  Message.ofJson? value

/-- Writes a frame. -/
def writeFrame (output : IO.FS.Stream) (body : Json) : IO Unit := do
  output.putStr (Frame.ofBody body.compact)
  output.flush

/-- Writes what a step gave out. -/
def writeEmission (output : IO.FS.Stream) (e : Emission) : IO Unit := do
  for text in e.notices do
    writeFrame output (logNotice text)
  for registrations in e.registrations do
    writeFrame output (registrationRequest registrations)
  match e.response with
  | some r => writeFrame output r.toJson
  | none => return

/-- Serves messages until the input ends or the host takes no more; the host after them. -/
partial def serveStream (setting : HostSetting) (input output : IO.FS.Stream) (host : Host) :
    IO Host := do
  match ← readHeader input none with
  | none => return host
  | some count =>
    match messageOf? (← readOctets input count ByteArray.empty) with
    | none => serveStream setting input output host
    | some m =>
      match host.step setting m with
      | (host, none) => return host
      | (host, some e) =>
        writeEmission output e
        serveStream setting input output host

/-- Makes the directory of the log file and the file, if it is not there. -/
def prepareLog (options : Options) : IO (Except LogError Unit) := do
  let dataHome ← IO.getEnv "XDG_DATA_HOME"
  let home ← IO.getEnv "HOME"
  let directory := (options.logDirectory.map textBytes).getD
    (dataDirectory (dataHome.map textBytes) (home.map textBytes))
  try
    IO.FS.createDirAll (lossyText directory)
  catch _ =>
    return .error .noDirectory
  try
    let _ ← IO.FS.Handle.mk (lossyText (logPath (some directory) directory)) .append
    return .ok ()
  catch _ =>
    return .error .notAFile

/-- Serves a client with these options; the exit code. -/
def serveClient (options : Options) : IO Int := do
  match ← prepareLog options with
  | .error reason => return reason.exitCode
  | .ok () =>
    let host := Program.hostOf (← processTag) options.settings
    let setting : HostSetting := ⟨← processSurroundings, true⟩
    let last ← serveStream setting (← IO.getStdin) (← IO.getStdout) host
    return last.controller.exitCode.1

end SessionGate

/-- Runs the command. -/
def main (arguments : List String) : IO UInt32 := do
  let code ←
    match SessionGate.Options.parse arguments with
    | .error r => do
      IO.print r.output
      pure r.exitCode
    | .ok options => SessionGate.serveClient options
  return code.toNat.toUInt32
