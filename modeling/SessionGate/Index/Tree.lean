import SessionGate.Path

/-!
# File trees

The files a program sees, as a value: directories with named entries, regular files with their text,
and symbolic links.

- `FileTree`: a file, a link, or a directory.
- `FileTree.at?`: what stands at the end of a list of names, links not followed.
- `FileTree.locate?`: where a path leads when links are followed.
- `FileTree.put`: a tree with something added, the directories above it included.
-/

namespace SessionGate

/-- A file, a symbolic link, or a directory with its entries. -/
inductive FileTree where
  | file (text : String)
  | link (target : Path)
  | directory (entries : List (Bytes × FileTree))
  deriving Inhabited

namespace FileTree

/-- The entries of a directory. -/
def entries : FileTree → List (Bytes × FileTree)
  | directory es => es
  | _ => []

/-- Whether it is a directory. -/
def isDirectory : FileTree → Bool
  | directory _ => true
  | _ => false

/-- The entry of a name in a list of entries. -/
def find? (name : Bytes) (es : List (Bytes × FileTree)) : Option FileTree :=
  (es.find? fun e => e.1 = name).map Prod.snd

/-- What stands at the end of a list of names. -/
def at? : FileTree → List Bytes → Option FileTree
  | t, [] => some t
  | t, name :: rest => (find? name t.entries).bind fun c => c.at? rest

/-- Follows names from a place, which is in reverse, to the place where they lead. Only so many
links are followed; a file ends the way. -/
def follow (root : FileTree) : Nat → List Bytes → List Bytes → Option (List Bytes)
  | _, here, [] => some here
  | links, here, name :: rest =>
    if name = [Path.dot, Path.dot] then follow root links here.tail rest
    else
      match root.at? (name :: here).reverse with
      | none => none
      | some (directory _) => follow root links (name :: here) rest
      | some (file _) => if rest.isEmpty then some (name :: here) else none
      | some (link target) =>
        match links with
        | 0 => none
        | links + 1 =>
          let start := if Path.isAbsolute target then [] else here
          if target.isEmpty then none else follow root links start (Path.names target ++ rest)
  termination_by links _ names => (links, names.length)

/-- How many links a path may lead through. -/
def linkLimit : Nat := 40

/-- The names of the place where a path leads, seen from a directory. -/
def locate? (root : FileTree) (working : List Bytes) (p : Path) : Option (List Bytes) :=
  if p.isEmpty then none
  else
    let start := if Path.isAbsolute p then [] else working.reverse
    (follow root linkLimit start (Path.names p)).map List.reverse

/-- What a path leads to, and where. -/
def resolve? (root : FileTree) (working : List Bytes) (p : Path) :
    Option (List Bytes × FileTree) :=
  (locate? root working p).bind fun place => (root.at? place).map fun t => (place, t)

/-- The text of the file that a path leads to. -/
def text? (root : FileTree) (working : List Bytes) (p : Path) : Option String :=
  match resolve? root working p with
  | some (_, file text) => some text
  | _ => none

/-! ## Building trees -/

/-- Replaces or adds an entry. -/
def setEntry (name : Bytes) (t : FileTree) : List (Bytes × FileTree) → List (Bytes × FileTree)
  | [] => [(name, t)]
  | (n, old) :: rest => if n = name then (name, t) :: rest else (n, old) :: setEntry name t rest

/-- A tree with something at the end of a list of names. Directories above it are made; what is a
directory already stays one. -/
def put (new : FileTree) : List Bytes → FileTree → FileTree
  | [], old => if old.isDirectory && new.isDirectory then old else new
  | name :: rest, old =>
    let below := (find? name old.entries).getD (directory [])
    let child := if rest.isEmpty && (find? name old.entries).isNone then new else put new rest below
    directory (setEntry name child old.entries)

end FileTree

end SessionGate
