import SessionGate.Text.Utf8

/-!
# File paths

A path is an octet string; slashes separate names. Nothing is normalised: the text a path was
given with is kept.

- `Path.names`: the names along a path; empty ones and `.` count for nothing.
- `Path.fileName?`, `Path.extension?`: the last name, and what follows its last dot.
- `Path.join`: a path continued by a name or another path.
- `Path.withoutDot`, `Path.isHere`: a leading `./`, and paths that are nothing else.
- `Path.isStandardInput`: the paths that a walk takes for the standard input.
- `Path.le`: the order of paths, name by name, each by its octets.
-/

namespace SessionGate

/-- A file path. -/
abbrev Path := Bytes

namespace Path

/-- The octet of a slash. -/
def slash : UInt8 := 0x2F

/-- The octet of a dot. -/
def dot : UInt8 := 0x2E

/-- Whether a path starts at the root. -/
def isAbsolute (p : Path) : Bool :=
  p.head? = some slash

/-- The names along a path. -/
def names (p : Path) : List Bytes :=
  (List.splitOn slash p).filter fun n => n != [] && n != [dot]

/-- The last name of a path, unless it points to a parent directory. -/
def fileName? (p : Path) : Option Bytes :=
  match (names p).getLast? with
  | some n => if n = [dot, dot] then none else some n
  | none => none

/-- What follows the last dot of a name, if anything precedes it. -/
def nameExtension? (name : Bytes) : Option Bytes :=
  let after := (name.reverse.takeWhile fun b => b != dot).reverse
  let before := name.length - after.length
  if before ≤ 1 then none else some after

/-- The extension of the last name of a path. -/
def extension? (p : Path) : Option Bytes :=
  (fileName? p).bind nameExtension?

/-- A path continued by another, which replaces it if it is absolute. -/
def join (base more : Path) : Path :=
  if isAbsolute more then more
  else if base = [] || base.getLast? = some slash then base ++ more
  else base ++ slash :: more

/-- A path without one `./` at its start. -/
def withoutDot : Path → Path
  | a :: b :: rest => if a = dot && b = slash then rest else a :: b :: rest
  | p => p

/-- Whether a path is that of the working directory: a dot, and after it dots and slashes only that
lead nowhere else. -/
def isHere (p : Path) : Bool :=
  p.head? = some dot && (names p).isEmpty

/-- The octet of a hyphen. -/
def hyphen : UInt8 := 0x2D

/-- Whether a path is what stands for the standard input: a hyphen, and after it slashes and dots
only that lead nowhere else. -/
def isStandardInput (p : Path) : Bool :=
  p.head? = some hyphen && names p = [[hyphen]]

theorem isStandardInput_of_isAbsolute {p : Path} (h : isAbsolute p = true) :
    p.isStandardInput = false := by
  have hslash : p.head? = some slash := of_decide_eq_true h
  have hne : p.head? ≠ some hyphen := by
    rw [hslash]
    decide
  rw [isStandardInput, decide_eq_false hne, Bool.false_and]

/-- The absolute path of names. -/
def absolute (names : List Bytes) : Path :=
  slash :: List.intercalate [slash] names

/-- The order of octet strings. -/
def bytesLe : Bytes → Bytes → Bool
  | [], _ => true
  | _ :: _, [] => false
  | a :: as, b :: bs => if a = b then bytesLe as bs else a < b

/-- The order of lists of names. -/
def namesLe : List Bytes → List Bytes → Bool
  | [], _ => true
  | _ :: _, [] => false
  | a :: as, b :: bs => if a = b then namesLe as bs else bytesLe a b

/-- The order of paths. -/
def le (p q : Path) : Bool :=
  namesLe (names p) (names q)

end Path

end SessionGate
