import SessionGate.Index.IgnoreRules
import SessionGate.Index.Tree
import SessionGate.Text.Quoted

/-!
# Source files of a workspace

- `Walk.Level`: a directory on the way to an entry, with the ignore files that lie in it.
- `Walk.Level.view`: the path of an entry as the ignore files of a directory see it.
- `Walk.verdict?`: what the ignore files on the way say of an entry.
- `Walk.isSkipped`: whether an entry is left out: as they say, else if its name begins with a dot.
- `sourceFiles`: the Erlang sources and headers below a directory, in order.

An ignore file of its own kind is looked at before those of the version control, and of one kind the
nearest file that says anything decides. The rules of a repository reach up to its root directory
and no further, and they count only inside a repository.
-/

namespace SessionGate

namespace Walk

/-- An entry that is asked about. -/
structure Candidate where
  isDirectory : Bool
  /-- Its path as the walk names it, which begins with the path of the start. -/
  path : Path
  /-- Its absolute path. -/
  absolute : Path

/-- A directory on the way to an entry. -/
structure Level where
  /-- Its path: as the walk names it, but absolute for a directory above the start. -/
  path : Path
  /-- Whether it lies above the start of the walk. -/
  isAbove : Bool
  /-- The rules for tools of every kind. -/
  general : List Rule
  /-- The rules of the repository. -/
  repository : List Rule
  /-- The rules of this copy of the repository. -/
  copy : List Rule
  /-- Whether a repository begins here. -/
  isRepositoryRoot : Bool

/-- The path of an entry as the ignore files of a directory see it: without the path of the
directory, if it begins with that text. One `./` at the start of each does not count, and of a path
as the walk names it, two do not. -/
def Level.view (level : Level) (c : Candidate) : Path :=
  let base := level.path.withoutDot
  let path := (if level.isAbove then c.absolute else c.path.withoutDot).withoutDot
  if base.isHere || !path.contains Path.slash then path
  else
    match base.isPrefixOf? path with
    | none => path
    | some (b :: rest) => if b = Path.slash then rest else b :: rest
    | some [] => []

/-- What rules of one kind say of an entry: the nearest directory that says anything decides. -/
def kindVerdict? (kind : Level → List Rule) (levels : List Level) (c : Candidate) :
    Option Verdict :=
  levels.findSome? fun level => IgnoreRules.verdict? (kind level) c.isDirectory (level.view c)

/-- The directories from the nearest one up to the root of its repository. -/
def upToRepository : List Level → List Level
  | [] => []
  | level :: above =>
    if level.isRepositoryRoot then [level] else level :: upToRepository above

/-- The directories whose repository rules count. Outside a repository there are none. -/
def repositoryLevels (levels : List Level) : List Level :=
  if levels.any Level.isRepositoryRoot then upToRepository levels else []

/-- What the ignore files on the way say of an entry. -/
def verdict? (levels : List Level) (c : Candidate) : Option Verdict :=
  let inside := repositoryLevels levels
  (kindVerdict? Level.general levels c).or
    ((kindVerdict? Level.repository inside c).or (kindVerdict? Level.copy inside c))

/-- Whether a name is hidden. -/
def isHidden (name : Bytes) : Bool :=
  name.head? = some Path.dot

/-- Whether an entry of a name is left out. -/
def isSkipped (levels : List Level) (name : Bytes) (c : Candidate) : Bool :=
  match verdict? levels c with
  | some .ignore => true
  | some .keep => false
  | none => isHidden name

/-- The directory of build results, which is never entered. -/
def buildDirectory : Bytes := textBytes "_build"

/-- The extensions of sources and headers. -/
def sourceExtensions : List Bytes := [textBytes "erl", textBytes "hrl"]

/-- Whether a name is that of a source or header. -/
def isSourceName (name : Bytes) : Bool :=
  match Path.extension? name with
  | some e => sourceExtensions.contains e
  | none => false

/-! ## The ignore files of a directory -/

/-- The text of a file below a directory. -/
def textBelow? (root : FileTree) (directory : List Bytes) (name : String) : Option String :=
  FileTree.text? root directory (textBytes name)

/-- The rules of a file below a directory; none if there is no such file. -/
def rulesBelow (root : FileTree) (directory : List Bytes) (name : String) : List Rule :=
  ((textBelow? root directory name).map IgnoreRules.ofText).getD []

/-- The first line of a text, if it has any. -/
def firstLine? (text : String) : Option (List Char) :=
  (IgnoreRules.lines text.toList).head?

/-- The directory that a repository shares among its copies, for a directory whose `.git` is a file
that points elsewhere. -/
def sharedDirectory? (root : FileTree) (working : List Bytes) (pointer : String) : Option Path :=
  match (firstLine? pointer).bind fun line => "gitdir: ".toList.isPrefixOf? line with
  | none => none
  | some target =>
    let own := Utf8.encode target
    match (FileTree.text? root working (Path.join own (textBytes "commondir"))).bind firstLine? with
    | none => none
    | some line =>
      let shared := Utf8.encode line
      if shared.head? = some Path.dot then some (Path.join own shared) else some shared

/-- The rules of this copy of the repository that begins at a directory. -/
def copyRules (root : FileTree) (working directory : List Bytes) : List Rule :=
  match textBelow? root directory ".git" with
  | none => rulesBelow root directory ".git/info/exclude"
  | some pointer =>
    match sharedDirectory? root working pointer with
    | none => []
    | some shared =>
      match FileTree.text? root working (Path.join shared (textBytes "info/exclude")) with
      | some text => IgnoreRules.ofText text
      | none => []

/-- What lies in the root directory of a repository. -/
def repositoryMarks : List String := [".git", ".jj"]

/-- The ignore files that lie in a directory, which the walk names by a path. -/
def level (root : FileTree) (working directory : List Bytes) (path : Path) (isAbove : Bool) :
    Level where
  path := path
  isAbove := isAbove
  general := rulesBelow root directory ".ignore"
  repository := rulesBelow root directory ".gitignore"
  copy := copyRules root working directory
  isRepositoryRoot :=
    repositoryMarks.any fun mark => (FileTree.locate? root directory (textBytes mark)).isSome

/-- The levels of the directory where a walk starts and of all directories above it, the nearest
first. -/
def levelsUp (root : FileTree) (working directory : List Bytes) (path : Path) : List Level :=
  level root working directory path false ::
    (List.range directory.length).reverse.map fun n =>
      level root working (directory.take n) (Path.absolute (directory.take n)) true

/-! ## Walking -/

mutual

/-- The source files below an entry, given its path, the place of the directory it is in, and the
levels there. -/
def ofEntry (root : FileTree) (working : List Bytes) (levels : List Level)
    (place : List Bytes) (path : Path) (name : Bytes) : FileTree → List Path
  | .file _ =>
    let full := Path.join path name
    if isSkipped levels name ⟨false, full, Path.absolute (place ++ [name])⟩ || !isSourceName name
    then [] else [full]
  | .link _ => []
  | .directory es =>
    let full := Path.join path name
    let below := place ++ [name]
    if isSkipped levels name ⟨true, full, Path.absolute below⟩ || name = buildDirectory then []
    else ofEntries root working (level root working below full false :: levels) below full es

/-- The source files below the entries of a directory. -/
def ofEntries (root : FileTree) (working : List Bytes) (levels : List Level)
    (place : List Bytes) (path : Path) : List (Bytes × FileTree) → List Path
  | [] => []
  | (name, t) :: rest =>
    ofEntry root working levels place path name t ++
      ofEntries root working levels place path rest

end

end Walk

/-- Why the files of a workspace cannot be listed. -/
inductive WalkError where
  | notDirectory (path : Path)
  deriving DecidableEq

/-- The wording of the cause. -/
def WalkError.message : WalkError → String
  | notDirectory path => Quoted.path path ++ " is not a directory"

/-- The sources and headers below a directory, in the order of their paths. Hidden entries, ignored
ones and build results are left out; links are not followed, but the directory may be one. A path
that means the standard input is not walked, even if a directory is called so. -/
def sourceFiles (root : FileTree) (working : List Bytes) (path : Path) :
    Except WalkError (List Path) :=
  match FileTree.resolve? root working path with
  | some (place, .directory es) =>
    if path.isStandardInput then .ok []
    else
      .ok ((Walk.ofEntries root working (Walk.levelsUp root working place path) place path
        es).mergeSort Path.le)
  | _ => .error (.notDirectory path)

end SessionGate
