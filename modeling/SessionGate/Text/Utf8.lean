/-!
# Octets and UTF-8

Paths are octet strings, everything a client sends is Unicode text, and the two meet in file
URIs and in messages.

- `Utf8.encodeChar`, `Utf8.encode`: the octets of a character, of a text.
- `Utf8.units`: an octet string cut into characters and ill-formed pieces. A piece is a maximal
  subpart: the longest start of a well-formed sequence, or one octet that starts none.
- `Utf8.decode?`: the text, if no piece is ill-formed.
- `Utf8.decodeLossy`: the text with U+FFFD for each ill-formed piece.
-/

namespace SessionGate

/-- An octet string. -/
abbrev Bytes := List UInt8

namespace Utf8

/-- The octets of one character. -/
def encodeChar (c : Char) : Bytes :=
  let n := c.toNat
  if n < 0x80 then [UInt8.ofNat n]
  else if n < 0x800 then [UInt8.ofNat (0xC0 + n / 64), UInt8.ofNat (0x80 + n % 64)]
  else if n < 0x10000 then
    [UInt8.ofNat (0xE0 + n / 4096), UInt8.ofNat (0x80 + n / 64 % 64), UInt8.ofNat (0x80 + n % 64)]
  else
    [UInt8.ofNat (0xF0 + n / 262144), UInt8.ofNat (0x80 + n / 4096 % 64),
      UInt8.ofNat (0x80 + n / 64 % 64), UInt8.ofNat (0x80 + n % 64)]

/-- The octets of a text. -/
def encode (text : List Char) : Bytes :=
  text.flatMap encodeChar

@[simp] theorem encode_nil : encode [] = [] := rfl

@[simp] theorem encode_cons (c : Char) (text : List Char) :
    encode (c :: text) = encodeChar c ++ encode text := rfl

@[simp] theorem encode_append (s t : List Char) : encode (s ++ t) = encode s ++ encode t := by
  simp [encode]

/-- A sequence that has begun: how many octets are still owed, the bounds of the next one, and
the value read so far. -/
structure Partial where
  owed : Nat
  least : UInt8
  greatest : UInt8
  value : Nat

/-- What an octet can be at the start of a sequence. -/
inductive Lead where
  /-- A complete character. -/
  | char (c : Char)
  /-- The first octet of a longer sequence. -/
  | opens (p : Partial)
  /-- The first octet of no sequence. -/
  | stray

/-- The role of `b` where a sequence may begin. The second octet is bounded so that no overlong
form, no surrogate and nothing above U+10FFFF is well-formed. -/
def lead (b : UInt8) : Lead :=
  let n := b.toNat
  if n < 0x80 then .char (Char.ofNat n)
  else if n < 0xC2 then .stray
  else if n < 0xE0 then .opens ⟨1, 0x80, 0xBF, n - 0xC0⟩
  else if n = 0xE0 then .opens ⟨2, 0xA0, 0xBF, 0⟩
  else if n = 0xED then .opens ⟨2, 0x80, 0x9F, 13⟩
  else if n < 0xF0 then .opens ⟨2, 0x80, 0xBF, n - 0xE0⟩
  else if n = 0xF0 then .opens ⟨3, 0x90, 0xBF, 0⟩
  else if n < 0xF4 then .opens ⟨3, 0x80, 0xBF, n - 0xF0⟩
  else if n = 0xF4 then .opens ⟨3, 0x80, 0x8F, 4⟩
  else .stray

/-- The value of a sequence after one more continuation octet. -/
def Partial.push (p : Partial) (b : UInt8) : Partial :=
  ⟨p.owed - 1, 0x80, 0xBF, p.value * 64 + (b.toNat - 0x80)⟩

/-- Whether `b` may come next in the sequence. -/
def Partial.accepts (p : Partial) (b : UInt8) : Bool :=
  p.least ≤ b && b ≤ p.greatest

/-- The pieces of an octet string, read from inside the sequence `pending`, if any: `none` stands
for an ill-formed piece. -/
def unitsFrom : Option Partial → Bytes → List (Option Char)
  | none, [] => []
  | some _, [] => [none]
  | none, b :: rest =>
    match lead b with
    | .char c => some c :: unitsFrom none rest
    | .opens p => unitsFrom (some p) rest
    | .stray => none :: unitsFrom none rest
  | some p, b :: rest =>
    if p.accepts b then
      let p' := p.push b
      if p'.owed = 0 then some (Char.ofNat p'.value) :: unitsFrom none rest
      else unitsFrom (some p') rest
    else
      match lead b with
      | .char c => none :: some c :: unitsFrom none rest
      | .opens q => none :: unitsFrom (some q) rest
      | .stray => none :: none :: unitsFrom none rest

/-- The pieces of an octet string. -/
def units (bytes : Bytes) : List (Option Char) :=
  unitsFrom none bytes

/-- The text, if the octets are well-formed. -/
def decode? (bytes : Bytes) : Option (List Char) :=
  (units bytes).mapM id

/-- The text, with U+FFFD in the place of each ill-formed piece. -/
def decodeLossy (bytes : Bytes) : List Char :=
  (units bytes).map fun u => u.getD '\uFFFD'

end Utf8

/-- The octets of an ASCII or Unicode text. -/
def textBytes (s : String) : Bytes :=
  Utf8.encode s.toList

/-- The text of an octet string, with U+FFFD for what is not well-formed. -/
def lossyText (bytes : Bytes) : String :=
  String.ofList (Utf8.decodeLossy bytes)

end SessionGate
