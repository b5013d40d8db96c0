import SessionGate.Uri.FilePath

/-!
# The workspace root

The root of a workspace is the text the client named it by: a URI of any scheme, a bare path, or
anything else. It is kept as it is; only the views of it are read.

- `Root.filePath?`: the local directory it names, if any.
- `Root.basename`: the last name in it.
- `Root.ofDirectory`: the root that stands for a directory, where the client named none.
-/

namespace SessionGate

namespace Root

/-- The local directory a root names: a file URI is decoded, an absolute path stands for itself. -/
def filePath? (root : String) : Option Path :=
  match Uri.parse root with
  | .ok u => u.filePath?
  | .error _ =>
    let p := textBytes root
    if Path.isAbsolute p then some p else none

/-- The path part of a root that names no local file: of a URI its path, of any other text all. -/
def pathText (root : String) : List Char :=
  match Uri.parse root with
  | .ok u => u.pathText
  | .error _ => root.toList

/-- The last piece of a text between slashes, final slashes apart. -/
def lastPiece (text : List Char) : List Char :=
  ((List.splitOn '/' (trimEnd (fun c => c = '/') text)).getLast?).getD []

/-- The last name in a root; empty where there is none. -/
def basename (root : String) : List Char :=
  match (filePath? root).bind Path.fileName? with
  | some name => Utf8.decodeLossy name
  | none => lastPiece (pathText root)

/-- The root that stands for a directory. -/
def ofDirectory (directory : Path) : String :=
  String.ofList (Uri.ofFilePath directory).text

end Root

end SessionGate
