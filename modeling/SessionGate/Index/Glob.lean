import SessionGate.Text.Utf8

/-!
# Glob patterns

The patterns of ignore files. `?` and `*` stay within a name, `**` between slashes stands for any
number of names, `[...]` for one octet of a class, `{a,b}` for alternatives, and a backslash makes
the next character stand for itself.

- `Glob.Token`: the parts of a pattern.
- `Glob.parse?`: the parts of a pattern text, if it is well-formed.
- `Glob.isMatch`: whether a pattern matches a path.
-/

namespace SessionGate

namespace Glob

/-- A part of a pattern. -/
inductive Token where
  /-- A character. -/
  | literal (c : Char)
  /-- One octet but a slash. -/
  | any
  /-- Any octets but slashes. -/
  | star
  /-- Any number of names at the start. -/
  | anyStart
  /-- Anything below. -/
  | anyEnd
  /-- A slash, or any number of names between two of them. -/
  | anyBetween
  /-- An octet of a class. -/
  | oneOf (negated : Bool) (ranges : List (Char × Char))
  /-- One of some patterns. -/
  | alternatives (branches : List (List Token))

/-! ## Reading -/

/-- The class after an opening bracket: its ranges in reverse, and the rest. -/
inductive ClassReading where
  | class (ranges : List (Char × Char)) (rest : List Char)
  /-- The bracket is never closed. -/
  | unclosed
  /-- A range with its ends the wrong way round. -/
  | backwards

/-- Goes on reading a class. `isFirst` says that nothing of it has been read, `inRange` that a
hyphen was read last, and the ranges so far are in reverse. -/
def readClass (isFirst inRange : Bool) (ranges : List (Char × Char)) : List Char → ClassReading
  | [] => .unclosed
  | c :: rest =>
    if c = ']' && !isFirst then
      .class (if inRange then ('-', '-') :: ranges else ranges).reverse rest
    else if c = '-' && !isFirst && !inRange then readClass false true ranges rest
    else if inRange then
      match ranges with
      | (a, _) :: more =>
        if c < a then .backwards else readClass false false ((a, c) :: more) rest
      | [] => readClass false false [(c, c)] rest
    else readClass false false ((c, c) :: ranges) rest

/-- The class after an opening bracket, and whether it is negated. -/
def startClass (text : List Char) : Bool × ClassReading :=
  match text with
  | '!' :: rest => (true, readClass true false [] rest)
  | '^' :: rest => (true, readClass true false [] rest)
  | rest => (false, readClass true false [] rest)

/-- What has been read of a pattern: the current branch in reverse, and around it the branches in
reverse and finished alternatives of every group that is open. -/
structure Reading where
  current : List Token
  groups : List (List Token × List (List Token))
  /-- The last character read. -/
  previous : Option Char
  /-- A bracket was never closed, so brackets stand for themselves. -/
  plainBrackets : Bool

/-- One more part. -/
def Reading.push (r : Reading) (t : Token) : Reading :=
  { r with current := t :: r.current }

/-- Opens a group of alternatives. -/
def Reading.openGroup (r : Reading) : Reading :=
  { r with current := [], groups := (r.current, []) :: r.groups }

/-- Ends a branch. Outside a group a comma stands for itself. -/
def Reading.comma (r : Reading) : Reading :=
  match r.groups with
  | [] => r.push (.literal ',')
  | (outer, done) :: more =>
    { r with current := [], groups := (outer, done ++ [r.current.reverse]) :: more }

/-- Closes a group, if one is open. -/
def Reading.closeGroup (r : Reading) : Option Reading :=
  match r.groups with
  | [] => none
  | (outer, done) :: more =>
    some { r with
      current := .alternatives (done ++ [r.current.reverse]) :: outer
      groups := more }

/-- Two stars that stand for no more than one. -/
def Reading.plainStars (r : Reading) : Reading :=
  (r.push .star).push .star

/-- Puts `t` in the place of the last part, unless that already stands for any names. -/
def Reading.widen (r : Reading) (t : Token) : Reading :=
  match r.current with
  | .anyStart :: _ => r
  | .anyEnd :: _ => r
  | _ :: more => { r with current := t :: more }
  | [] => r.push t

/-- Whether the last character could begin a branch, as one that stands for itself. -/
def Reading.afterBranch (r : Reading) : Bool :=
  r.previous = some ',' || r.previous = some '\x7b'

/-- Two stars, and how many of the characters after them they use up. Between slashes, or a slash
and an end, they stand for any number of names. -/
def Reading.doubleStar (r : Reading) (next : Option Char) : Reading × Nat :=
  if r.current.isEmpty then
    match next with
    | none => (r.push .anyStart, 0)
    | some '/' => (r.push .anyStart, 1)
    | some _ => (r.plainStars, 0)
  else if r.previous != some '/' && (r.groups.isEmpty || !r.afterBranch) then (r.plainStars, 0)
  else
    match next with
    | none => (r.widen .anyEnd, 0)
    | some '/' => (r.widen .anyBetween, 1)
    | some c =>
      if (c = ',' || c = '\x7d') && !r.groups.isEmpty then (r.widen .anyEnd, 0)
      else (r.plainStars, 0)

/-- Reads a pattern text. The fuel is at least its length. -/
def readFrom : Nat → Reading → List Char → Option Reading
  | 0, _, _ => none
  | _ + 1, r, [] => some r
  | fuel + 1, r, c :: rest =>
    let seen (r : Reading) (last : Char) : Reading := { r with previous := some last }
    if c = '?' then readFrom fuel (seen (r.push .any) c) rest
    else if c = '*' then
      match rest with
      | '*' :: after =>
        let (r, used) := r.doubleStar after.head?
        let last := if used = 0 then '*' else '/'
        readFrom fuel (seen r last) (after.drop used)
      | _ => readFrom fuel (seen (r.push .star) c) rest
    else if c = '[' && !r.plainBrackets then
      match startClass rest with
      | (negated, .class ranges after) =>
        readFrom fuel (seen (r.push (.oneOf negated ranges)) ']') after
      | (_, .unclosed) =>
        readFrom fuel (seen { r.push (.literal '[') with plainBrackets := true } c) rest
      | (_, .backwards) => none
    else if c = '\x7b' then readFrom fuel (seen r.openGroup c) rest
    else if c = '\x7d' then
      match r.closeGroup with
      | some r => readFrom fuel (seen r c) rest
      | none => none
    else if c = ',' then readFrom fuel (seen r.comma c) rest
    else if c = '\\' then
      match rest with
      | e :: after => readFrom fuel (seen (r.push (.literal e)) e) after
      | [] => none
    else readFrom fuel (seen (r.push (.literal c)) c) rest

/-- The parts of a pattern text. Groups must be closed, and a backslash needs a character. -/
def parse? (text : List Char) : Option (List Token) :=
  match readFrom (text.length + 1) ⟨[], [], none, false⟩ text with
  | some r => if r.groups.isEmpty then some r.current.reverse else none
  | none => none

/-! ## Matching -/

/-- The octet of a slash. -/
def slash : UInt8 := 0x2F

/-- What the rest of a pattern makes of the rest of a path. -/
abbrev Rest := Bytes → Bool

/-- The rest after some octets of a set. -/
def afterSome (among : UInt8 → Bool) (k : Rest) : Bytes → Bool
  | [] => k []
  | b :: bs => k (b :: bs) || (among b && afterSome among k bs)

/-- The rest after some slash. -/
def afterSlash (k : Rest) : Bytes → Bool
  | [] => false
  | b :: bs => (b = slash && k bs) || afterSlash k bs

/-- The rest after these octets. -/
def afterBytes : Bytes → Rest → Bytes → Bool
  | [], k, s => k s
  | a :: as, k, b :: bs => a = b && afterBytes as k bs
  | _ :: _, _, [] => false

/-- The octets from one to another. -/
def between (low high : UInt8) : UInt8 → Bool :=
  fun b => low ≤ b && b ≤ high

/-- The octets of a range of characters: those of its ends, and between the last octet of the one
and the first of the other. -/
def inRange (r : Char × Char) (b : UInt8) : Bool :=
  let first := Utf8.encodeChar r.1
  let last := Utf8.encodeChar r.2
  if r.1 = r.2 then first.contains b
  else
    first.dropLast.contains b || last.tail.contains b ||
      between (first.getLast?.getD 0) (last.head?.getD 0) b

/-- Whether an octet is in a class. -/
def inClass (negated : Bool) (ranges : List (Char × Char)) (b : UInt8) : Bool :=
  ranges.any (fun r => inRange r b) != negated

mutual

/-- Whether a part stands for nothing at all, whatever the path. -/
def Token.isBlank : Token → Bool
  | .alternatives branches => allBlank branches
  | _ => false

/-- Whether all parts stand for nothing. -/
def areBlank : List Token → Bool
  | [] => true
  | t :: ts => t.isBlank && areBlank ts

/-- Whether all branches stand for nothing. -/
def allBlank : List (List Token) → Bool
  | [] => true
  | b :: bs => areBlank b && allBlank bs

end

mutual

/-- Whether a path is matched by a part and the rest. -/
def Token.run : Token → Rest → Bytes → Bool
  | .literal c, k, s => afterBytes (Utf8.encodeChar c) k s
  | .any, k, s =>
    match s with
    | b :: bs => b != slash && k bs
    | [] => false
  | .star, k, s => afterSome (fun b => b != slash) k s
  | .anyStart, k, s => k s || afterSlash k s
  | .anyEnd, k, s =>
    match s with
    | b :: bs => b = slash && afterSome (fun _ => true) k bs
    | [] => false
  | .anyBetween, k, s =>
    match s with
    | b :: bs => b = slash && (k bs || afterSlash k bs)
    | [] => false
  | .oneOf negated ranges, k, s =>
    match s with
    | b :: bs => inClass negated ranges b && k bs
    | [] => false
  | .alternatives branches, k, s =>
    if allBlank branches then k s else runAny branches k s

/-- Whether a path is matched by parts one after another and the rest. -/
def runAll : List Token → Rest → Bytes → Bool
  | [], k, s => k s
  | t :: ts, k, s => t.run (fun s => runAll ts k s) s

/-- Whether a path is matched by a branch that stands for something, and the rest. -/
def runAny : List (List Token) → Rest → Bytes → Bool
  | [], _, _ => false
  | b :: bs, k, s => (!areBlank b && runAll b k s) || runAny bs k s

end

/-- Whether a pattern matches a path. Two stars alone match every path. -/
def isMatch (pattern : List Token) (path : Bytes) : Bool :=
  match pattern with
  | [.anyStart] => true
  | _ => runAll pattern List.isEmpty path

end Glob

end SessionGate
