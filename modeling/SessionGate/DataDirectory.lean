import SessionGate.Path

/-!
# Where the server keeps its data

- `dataDirectory`: the directory of the server's data: below the user's directory for data if one is
  set, else below the home directory, else below the working directory.
- `logPath`: the path of the log file.
-/

namespace SessionGate

/-- The directory of the server's data. -/
def dataDirectory (dataHome home : Option Path) : Path :=
  let parent :=
    match dataHome, home with
    | some d, _ => d
    | none, some h => Path.join h (textBytes ".local/share")
    | none, none => textBytes "."
  Path.join parent (textBytes "erlang-ls")

/-- The name of the log file. -/
def logName : Path := textBytes "erlang-ls.log"

/-- The path of the log file: in the directory that is named, else in that of the data. -/
def logPath (directory : Option Path) (dataDirectory : Path) : Path :=
  Path.join (directory.getD dataDirectory) logName

end SessionGate
