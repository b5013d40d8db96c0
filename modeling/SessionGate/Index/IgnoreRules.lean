import SessionGate.Index.Glob
import SessionGate.Text.Trim

/-!
# Ignore files

An ignore file is a list of rules, one a line. The last rule that matches an entry decides.

- `Rule`: a pattern, whether it applies to directories only, and whether it keeps what it matches.
- `Rule.ofLine?`: the rule on a line; blank lines, comments and malformed patterns hold none.
- `IgnoreRules.ofText`: the rules of a file.
- `IgnoreRules.verdict?`: what the rules say of an entry.
-/

namespace SessionGate

/-- A rule of an ignore file. -/
structure Rule where
  pattern : List Glob.Token
  keeps : Bool
  directoriesOnly : Bool

/-- What rules say of an entry. -/
inductive Verdict where
  | ignore
  | keep
  deriving DecidableEq

namespace Rule

/-- Blanks at the end of a line. -/
def isBlank (c : Char) : Bool :=
  let n := c.toNat
  (9 ≤ n && n ≤ 13) || n = 0x20 || n = 0x85 || n = 0xA0 || n = 0x1680 ||
    (0x2000 ≤ n && n ≤ 0x200A) || n = 0x2028 || n = 0x2029 || n = 0x202F || n = 0x205F || n = 0x3000

/-- A line without the blanks at its end, unless the last one is escaped. -/
def trimLine (line : List Char) : List Char :=
  match line.reverse with
  | ' ' :: '\\' :: _ => line
  | _ => trimEnd isBlank line

/-- The marks at the start of a line: whether the rule keeps what it matches, whether its pattern
begins at the directory of the file, and the pattern. -/
def splitMarks (line : List Char) : Bool × Bool × List Char :=
  match line with
  | '\\' :: '!' :: rest => (false, false, '!' :: rest)
  | '\\' :: '#' :: rest => (false, false, '#' :: rest)
  | _ =>
    let (keeps, rest) :=
      match line with
      | '!' :: rest => (true, rest)
      | rest => (false, rest)
    match rest with
    | '/' :: rest => (keeps, true, rest)
    | rest => (keeps, false, rest)

/-- A pattern without the slash at its end that restricts it to directories. -/
def splitSlash (pattern : List Char) : Bool × List Char :=
  match pattern.reverse with
  | '/' :: '\\' :: rest => (true, rest.reverse)
  | '/' :: rest => (true, rest.reverse)
  | _ => (false, pattern)

/-- Whether a pattern begins with any number of names. -/
def startsAnywhere (pattern : List Char) : Bool :=
  match pattern with
  | ['*', '*'] => true
  | '*' :: '*' :: '/' :: _ => true
  | _ => false

/-- The pattern to match with. One without a slash matches in every directory below; one that ends
in `/**` matches what is in the directory but not the directory. -/
def complete (anchored : Bool) (pattern : List Char) : List Char :=
  let p :=
    if !anchored && !pattern.contains '/' && !startsAnywhere pattern then
      ['*', '*', '/'] ++ pattern
    else pattern
  match p.reverse with
  | '*' :: '*' :: '/' :: _ => p ++ ['/', '*']
  | _ => p

/-- The rule on a line. -/
def ofLine? (line : List Char) : Option Rule :=
  if line.head? = some '#' then none
  else
    let line := trimLine line
    if line.isEmpty then none
    else
      let (keeps, anchored, rest) := splitMarks line
      let (directoriesOnly, pattern) := splitSlash rest
      (Glob.parse? (complete anchored pattern)).map fun tokens => ⟨tokens, keeps, directoriesOnly⟩

/-- Whether a rule applies to an entry. -/
def applies (r : Rule) (isDirectory : Bool) (path : Bytes) : Bool :=
  (isDirectory || !r.directoriesOnly) && Glob.isMatch r.pattern path

/-- What a rule says of an entry that it applies to. -/
def verdict (r : Rule) : Verdict :=
  if r.keeps then .keep else .ignore

end Rule

namespace IgnoreRules

/-- A line without the carriage return at its end. -/
def withoutReturn (line : List Char) : List Char :=
  match line.reverse with
  | '\r' :: rest => rest.reverse
  | _ => line

/-- The lines of a text. A carriage return before a line break belongs to it; at the end of the text
it does not, and an empty last line is none. -/
def lines (text : List Char) : List (List Char) :=
  match (text.splitOn '\n').reverse with
  | [] => []
  | last :: ended =>
    ended.reverse.map withoutReturn ++ (if last.isEmpty then [] else [last])

/-- The rules of a file. A mark of the byte order at its start does not count. -/
def ofText (text : String) : List Rule :=
  (lines (text.toList.dropWhile fun c => c = '\uFEFF')).filterMap Rule.ofLine?

/-- What the rules say of an entry: the last one that applies decides. -/
def verdict? (rules : List Rule) (isDirectory : Bool) (path : Bytes) : Option Verdict :=
  (rules.reverse.find? fun r => r.applies isDirectory path).map Rule.verdict

end IgnoreRules

end SessionGate
