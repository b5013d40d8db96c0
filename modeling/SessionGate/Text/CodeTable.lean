/-!
# Tables of code points

A property of characters is a list of ranges of code points in increasing order. A table is written
in words: `AD` is one code point in hexadecimal, `41-5A` is a range with both its ends, and after a
colon stands the value of a range, a list of numbers with dots between them, as in `BD:31.2044.32`.

- `CodeTable`: the ranges with their values.
- `CodeTable.ofLines`: the table that lines of words denote.
- `CodeTable.entry?`, `CodeTable.contains`, `CodeTable.value?`: what a table says of a code point.
-/

namespace SessionGate

/-- A range of code points, both ends included, and its value. -/
structure CodeTable.Entry where
  first : Nat
  last : Nat
  value : List Nat
  deriving DecidableEq

/-- Ranges of code points in increasing order. -/
abbrev CodeTable := List CodeTable.Entry

namespace CodeTable

/-- The value of a hexadecimal digit. -/
def digit (c : Char) : Nat :=
  if c.isDigit then c.toNat - 48 else c.toNat - 55

/-- A number in hexadecimal. -/
def number (digits : List Char) : Nat :=
  digits.foldl (fun n c => n * 16 + digit c) 0

/-- The list of numbers that a value is written as. -/
def numbers (text : List Char) : List Nat :=
  if text.isEmpty then [] else (text.splitOn '.').map number

/-- The range that a word denotes. -/
def entryOf (word : List Char) : Entry :=
  let ends := (word.takeWhile fun c => c != ':')
  let value := numbers ((word.dropWhile fun c => c != ':').drop 1)
  match (ends.splitOn '-').map number with
  | [first, last] => ⟨first, last, value⟩
  | first :: _ => ⟨first, first, value⟩
  | [] => ⟨0, 0, value⟩

/-- The table that lines of words denote. -/
def ofLines (lines : List String) : CodeTable :=
  lines.flatMap fun line => (line.toList.splitOn ' ').map entryOf

/-- The range that a code point is in. -/
def entry? (t : CodeTable) (n : Nat) : Option Entry :=
  t.find? fun e => e.first ≤ n && n ≤ e.last

/-- Whether a code point is in a range of the table. -/
def contains (t : CodeTable) (n : Nat) : Bool :=
  (t.entry? n).isSome

/-- The value of a code point. -/
def value? (t : CodeTable) (n : Nat) : Option (List Nat) :=
  (t.entry? n).map Entry.value

end CodeTable

end SessionGate
