import SessionGate.Decimal.Shortest
import SessionGate.Json.Basic

/-!
# JSON text

- `Json.Number.text`: integers as they are; a floating-point value by its shortest digits, with a
  point or an exponent, so that it never reads as an integer.
- `Json.quoted`: a string between double quotes, escapes for the quote, the backslash and the
  control characters only.
- `Json.compact`: a value without blanks.
-/

namespace SessionGate

namespace Json

/-- Where floating-point text is positional: the exponents of the first digit from `least` up to,
but not including, `limit`. -/
structure NumberFormat where
  least : Int
  limit : Int

/-- Values from `1e-5` up to `1e16` are written without an exponent. -/
def numberFormat : NumberFormat := ⟨-5, 16⟩

/-- The digits `ds`, the first of which stands for `10 ^ lead`, with a point. -/
def positional (ds : List Char) (lead : Int) : List Char :=
  if lead < 0 then ['0', '.'] ++ List.replicate (-lead - 1).toNat '0' ++ ds
  else
    let whole := lead.toNat + 1
    if ds.length ≤ whole then ds ++ List.replicate (whole - ds.length) '0' ++ ['.', '0']
    else ds.take whole ++ ['.'] ++ ds.drop whole

/-- The digits `ds`, the first of which stands for `10 ^ lead`, with an exponent. -/
def scientific (ds : List Char) (lead : Int) : List Char :=
  let mantissa :=
    match ds with
    | [] => []
    | [d] => [d]
    | d :: more => d :: '.' :: more
  let sign := if lead < 0 then '-' else '+'
  mantissa ++ ['e', sign] ++ Nat.toDigits 10 lead.natAbs

/-- The text of a finite floating-point value. -/
def floatText (format : NumberFormat) (x : Binary64) : List Char :=
  let magnitude :=
    if x.significand = 0 then ['0', '.', '0']
    else
      let (k, e) := Shortest.digits x
      let ds := Nat.toDigits 10 k
      let lead := e + (ds.length : Int) - 1
      if format.least ≤ lead && lead < format.limit then positional ds lead
      else scientific ds lead
  if x.isNegative then '-' :: magnitude else magnitude

/-- The text of a number. -/
def Number.text : Number → String
  | .int n => toString n
  | .float x => String.ofList (floatText numberFormat x)

/-- How a character stands in a string. -/
def escapeChar (c : Char) : List Char :=
  if c = '\x22' then ['\\', '\x22']
  else if c = '\\' then ['\\', '\\']
  else if c = '\x08' then ['\\', 'b']
  else if c = '\x0c' then ['\\', 'f']
  else if c = '\n' then ['\\', 'n']
  else if c = '\r' then ['\\', 'r']
  else if c = '\t' then ['\\', 't']
  else if c.toNat < 0x20 then
    ['\\', 'u', '0', '0', Nat.digitChar (c.toNat / 16), Nat.digitChar (c.toNat % 16)]
  else [c]

/-- A string between double quotes. -/
def quoted (s : String) : String :=
  String.ofList ('\x22' :: s.toList.flatMap escapeChar ++ ['\x22'])

/-- Texts with a comma between them. -/
def commas (texts : List String) : String :=
  String.intercalate "," texts

mutual

/-- The text of a value, without blanks. -/
def compact : Json → String
  | .null => "null"
  | .bool true => "true"
  | .bool false => "false"
  | .number n => n.text
  | .string s => quoted s
  | .array items => "[" ++ commas (compactItems items) ++ "]"
  | .object members => "\x7b" ++ commas (compactMembers members) ++ "\x7d"

/-- The texts of the items of an array. -/
def compactItems : List Json → List String
  | [] => []
  | item :: rest => compact item :: compactItems rest

/-- The texts of the members of an object. -/
def compactMembers : List (String × Json) → List String
  | [] => []
  | (key, value) :: rest => (quoted key ++ ":" ++ compact value) :: compactMembers rest

end

end Json

end SessionGate
