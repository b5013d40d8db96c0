import SessionGate.Path
import SessionGate.Uri.Parser

/-!
# File URIs and file paths

- `Uri.filePath?`: the path that a file URI on this host names.
- `Uri.ofFilePath`: the file URI of an absolute path.
-/

namespace SessionGate

namespace Uri

/-- Whether a host is the one the program runs on. -/
def isLocalHost : Option Host → Bool
  | none => true
  | some h => h = .empty || h = .domain ['l', 'o', 'c', 'a', 'l', 'h', 'o', 's', 't']

/-- Whether a path ends in a letter followed by a colon or bar and is longer than that. -/
def endsInDrive (p : Path) : Bool :=
  match p.reverse with
  | mark :: letter :: _ :: _ =>
    (mark = 0x3A || mark = 0x7C) && (Char.ofNat letter.toNat).isAlpha
  | _ => false

/-- The segments of a path, percent-decoded, with a slash before each. A drive letter at the end is
followed by a slash. -/
def segmentsPath (segments : List (List Char)) : Path :=
  let p := segments.flatMap fun s => Path.slash :: Percent.decodeText s
  if endsInDrive p then p ++ [Path.slash] else p

/-- The path that a file URI on this host names. -/
def filePath? (u : Uri) : Option Path :=
  if u.scheme = ['f', 'i', 'l', 'e'] && isLocalHost u.host? then
    match u.path with
    | .segments items => some (segmentsPath items)
    | .rootless _ => none
  else none

/-- The file URI of an absolute path: its names, percent-encoded. -/
def ofFilePath (p : Path) : Uri :=
  let names := (Path.names p).map (Percent.encode Percent.pathName)
  { scheme := ['f', 'i', 'l', 'e']
    authority := some noHost
    path := .segments (if names.isEmpty then [[]] else names)
    query := none
    fragment := none }

end Uri

end SessionGate
