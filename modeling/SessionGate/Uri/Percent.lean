import SessionGate.Text.Utf8

/-!
# Percent-encoding

- `Percent.encode`: an octet string as ASCII text, where the octets of a set are written `%XX`.
- `Percent.decode`: the octets of a text; a percent sign without two hexadecimal digits stands for
  itself.
- `Percent.Set`: the octets to encode in each part of a URI.
-/

namespace SessionGate

namespace Percent

/-- The octets to encode. -/
abbrev Set := UInt8 → Bool

/-- Controls and everything outside ASCII. -/
def controls : Set := fun b => b < 0x20 || 0x7F ≤ b

/-- A set together with some ASCII characters. -/
def Set.and (s : Set) (more : List Char) : Set :=
  fun b => s b || more.contains (Char.ofNat b.toNat)

/-- What is encoded in a fragment. -/
def fragment : Set := controls.and [' ', '\x22', '<', '>', '\x60']

/-- What is encoded in a query. -/
def query : Set := controls.and [' ', '\x22', '#', '<', '>']

/-- What is encoded in the query of a network scheme. -/
def networkQuery : Set := query.and ['\x27']

/-- What is encoded in a path. -/
def path : Set := fragment.and ['#', '?', '\x7b', '\x7d']

/-- What is encoded in a name of a file path. -/
def pathName : Set := path.and ['/', '%', '\\']

/-- What is encoded in the user information. -/
def userInfo : Set := path.and ['/', ':', ';', '=', '@', '[', '\\', ']', '^', '|']

/-- An upper-case hexadecimal digit. -/
def digit (n : Nat) : Char :=
  if n < 10 then Char.ofNat (48 + n) else Char.ofNat (55 + n)

/-- One octet. -/
def encodeOctet (s : Set) (b : UInt8) : List Char :=
  if s b then ['%', digit (b.toNat / 16), digit (b.toNat % 16)] else [Char.ofNat b.toNat]

/-- An octet string. -/
def encode (s : Set) (bytes : Bytes) : List Char :=
  bytes.flatMap (encodeOctet s)

/-- A text, by its octets. -/
def encodeText (s : Set) (text : List Char) : List Char :=
  encode s (Utf8.encode text)

/-- The value of a hexadecimal digit. -/
def value? (b : UInt8) : Option Nat :=
  let n := b.toNat
  if 48 ≤ n && n ≤ 57 then some (n - 48)
  else if 65 ≤ n && n ≤ 70 then some (n - 55)
  else if 97 ≤ n && n ≤ 102 then some (n - 87)
  else none

/-- Replaces each `%XX` by its octet. -/
def decode : Bytes → Bytes
  | [] => []
  | [a] => [a]
  | [a, b] => [a, b]
  | a :: b :: c :: rest =>
    if a = 0x25 then
      match value? b, value? c with
      | some h, some l => UInt8.ofNat (h * 16 + l) :: decode rest
      | _, _ => a :: decode (b :: c :: rest)
    else a :: decode (b :: c :: rest)

/-- The octets of a text with each `%XX` replaced. -/
def decodeText (text : List Char) : Bytes :=
  decode (Utf8.encode text)

end Percent

end SessionGate
