import SessionGate.Uri.Basic

/-!
# Resolving the segments of a path

- `Segments.isSingleDot`, `Segments.isDoubleDot`: the two dot segments, dots encoded or not.
- `Segments.isDriveLetter`: a letter and a colon or bar.
- `Segments.isFixed`: what `..` does not remove: a drive letter, also before a backslash.
- `Segments.withColon`: a drive letter as it is written at the start of a file's path.
- `Segments.Piece`: a part of a path between slashes.
- `Segments.resolve`: the segments of a path without dot segments. One at the end leaves an empty
  segment, that is, a final slash.
-/

namespace SessionGate

namespace Segments

/-- A dot or its encoded form at the start of a text, and the rest. -/
def afterDot? : List Char → Option (List Char)
  | '.' :: rest => some rest
  | '%' :: '2' :: 'e' :: rest => some rest
  | '%' :: '2' :: 'E' :: rest => some rest
  | _ => none

/-- Whether a segment stands for the place it is in. -/
def isSingleDot (segment : List Char) : Bool :=
  afterDot? segment = some []

/-- Whether a segment stands for the place above. -/
def isDoubleDot (segment : List Char) : Bool :=
  (afterDot? segment).any isSingleDot

/-- Whether a segment is a drive letter. -/
def isDriveLetter : List Char → Bool
  | [a, b] => a.isAlpha && (b = ':' || b = '|')
  | _ => false

/-- A drive letter with a colon; other segments as they are. -/
def withColon : List Char → List Char
  | [a, '|'] => if a.isAlpha then [a, ':'] else [a, '|']
  | segment => segment

/-- Whether a segment stays where it is: a drive letter, or one and a backslash at the start. -/
def isFixed (segment : List Char) : Bool :=
  isDriveLetter (segment.take 2) && ((segment.drop 2).isEmpty || (segment.drop 2).head? = some '\\')

/-- Removes the last of the segments read so far, which are in reverse, unless it stays. -/
def goUp : List (List Char) → List (List Char)
  | [] => []
  | last :: before => if isFixed last then last :: before else before

/-! ## Pieces -/

/-- A text with its breaks: each character with whether characters that do not count precede it. -/
abbrev Broken := List (Char × Bool)

/-- The characters of a text with its breaks. -/
def plain (text : Broken) : List Char :=
  text.map Prod.fst

/-- A drive letter and the rest of a text, if a break stands between them. -/
def splitAtBreak? : Broken → Option (List Char × List Char)
  | (a, _) :: (b, _) :: (c, true) :: rest =>
    if a.isAlpha && b = ':' then some ([a, b], c :: plain rest) else none
  | _ => none

/-- A part of a path between slashes. -/
structure Piece where
  /-- Its encoded text. -/
  text : List Char
  /-- The drive letter and the encoded rest that it counts as at the start of a file's path, if it
  does not count as one segment there. -/
  split : Option (List Char × List Char)

/-- The piece of a text. -/
def Piece.ofText (text : Broken) : Piece where
  text := Percent.encodeText Percent.path (plain text)
  split := (splitAtBreak? text).map fun (drive, rest) =>
    (drive, Percent.encodeText Percent.path rest)

/-! ## Resolving -/

/-- What has been read of a path. -/
structure Progress where
  /-- Its segments, in reverse. -/
  done : List (List Char)
  /-- Whether a drive letter alone was its first segment. -/
  hasDrive : Bool

/-- Adds a piece to what has been read. At the start of a file's path a drive letter is written with
a colon. -/
def add (kind : Uri.Kind) (p : Progress) (piece : Piece) : Progress :=
  if kind = .file && p.done.isEmpty then
    match piece.split with
    | some (drive, rest) => { p with done := [rest, drive] }
    | none => ⟨[withColon piece.text], p.hasDrive || isDriveLetter piece.text⟩
  else { p with done := piece.text :: p.done }

/-- Goes on from what has been read. -/
def resolveFrom (kind : Uri.Kind) (p : Progress) : List Piece → Progress
  | [] => p
  | piece :: rest =>
    let isLast := rest.isEmpty
    let close (done : List (List Char)) := if isLast then [] :: done else done
    if isDoubleDot piece.text then
      resolveFrom kind { p with done := close (goUp p.done) } rest
    else if isSingleDot piece.text then
      resolveFrom kind { p with done := close p.done } rest
    else resolveFrom kind (add kind p piece) rest

/-- What there is to a path, dot segments resolved. -/
def resolve (kind : Uri.Kind) (path : List Piece) : Progress :=
  resolveFrom kind ⟨[], false⟩ path

/-- What there is to a path text. -/
def ofBroken (kind : Uri.Kind) (text : Broken) : Progress :=
  resolve kind ((text.splitOnP fun c => kind.isSlash c.1).map Piece.ofText)

/-- The segments of a path. -/
def Progress.segments (p : Progress) : List (List Char) :=
  p.done.reverse

/-- The segments of a path text without breaks, each encoded, dot segments resolved. -/
def ofText (kind : Uri.Kind) (text : List Char) : List (List Char) :=
  (ofBroken kind (text.map fun c => (c, false))).segments

/-- Drops empty segments at the start, all but the last one. -/
def dropEmpty : List (List Char) → List (List Char)
  | [] :: next :: rest => dropEmpty (next :: rest)
  | segments => segments

end Segments

end SessionGate
