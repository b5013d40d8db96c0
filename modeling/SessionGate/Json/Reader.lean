import SessionGate.Json.Basic

/-!
# Reading JSON text

- `Json.Reader.number?`: a number at the start of a text. An integer outside sixty-four bits, a
  fraction or an exponent makes it a floating-point value, and so does a negative zero.
- `Json.Reader.string?`: the rest of a string after its opening quote.
- `Json.parse?`: a whole text.

Every reader returns what it read and the rest. Those that recurse take fuel; each level of a value
uses up one character at least, so the length of the text is enough.
-/

namespace SessionGate

namespace Json.Reader

/-- Drops blanks. -/
def skipBlanks (text : List Char) : List Char :=
  text.dropWhile fun c => c = ' ' || c = '\n' || c = '\t' || c = '\r'

/-- The value of a hexadecimal digit. -/
def hexDigit? (c : Char) : Option Nat :=
  if c.isDigit then some (c.toNat - 48)
  else if 'a' ≤ c && c ≤ 'f' then some (c.toNat - 87)
  else if 'A' ≤ c && c ≤ 'F' then some (c.toNat - 55)
  else none

/-! ## Numbers -/

/-- The digits of a number that count: their value, and the power of ten it is multiplied by.
Digits that no longer fit sixty-four bits are dropped, those before the point with a factor of
ten each. -/
structure Digits where
  value : Nat
  exponent : Int
  full : Bool

/-- One more digit before the point. -/
def Digits.pushWhole (d : Digits) (k : Nat) : Digits :=
  let v := d.value * 10 + k
  if d.full || Binary64.twoTo 64 ≤ v then { d with exponent := d.exponent + 1, full := true }
  else { d with value := v }

/-- One more digit after the point. -/
def Digits.pushFraction (d : Digits) (k : Nat) : Digits :=
  let v := d.value * 10 + k
  if d.full || Binary64.twoTo 64 ≤ v then { d with full := true }
  else { d with value := v, exponent := d.exponent - 1 }

/-- Splits off the leading digits of a text. -/
def spanDigits (text : List Char) : List Nat × List Char :=
  ((text.takeWhile Char.isDigit).map fun c => c.toNat - 48, text.dropWhile Char.isDigit)

/-- The exponent at the start of a text, zero where there is none; `none` for one that is cut
short. -/
def exponent? (text : List Char) : Option (Int × List Char × Bool) :=
  match text with
  | c :: rest =>
    if c = 'e' || c = 'E' then
      let (negative, rest) :=
        match rest with
        | '+' :: r => (false, r)
        | '-' :: r => (true, r)
        | r => (false, r)
      match spanDigits rest with
      | ([], _) => none
      | (ds, rest) =>
        let n : Nat := ds.foldl (fun acc k => min (acc * 10 + k) 100000) 0
        some (if negative then -(n : Int) else n, rest, true)
    else some (0, text, false)
  | [] => some (0, [], false)

/-- The number whose digits, point and exponent these are. -/
def finish (negative : Bool) (d : Digits) (exponent : Int) (isFloat : Bool) : Option Json.Number :=
  if isFloat || d.full || (negative && (d.value = 0 || Binary64.twoTo 63 < d.value)) then
    (Binary64.scale? d.value (d.exponent + exponent)).map fun m =>
      .float (Binary64.ofMagnitude negative m)
  else some (.int (if negative then -(d.value : Int) else d.value))

/-- A number without its sign. -/
def unsigned? (negative : Bool) (text : List Char) : Option (Json.Number × List Char) :=
  match spanDigits text with
  | ([], _) => none
  | (0 :: _ :: _, _) => none
  | (whole, rest) =>
    let d := whole.foldl Digits.pushWhole ⟨0, 0, false⟩
    let fraction : Option (Digits × List Char × Bool) :=
      match rest with
      | '.' :: r =>
        match spanDigits r with
        | ([], _) => none
        | (ds, r) =>
          -- the fraction goes on from the digits of the whole part that fit
          some (ds.foldl Digits.pushFraction { d with full := false }, r, true)
      | r => some (d, r, false)
    match fraction with
    | none => none
    | some (d, rest, hasPoint) =>
      match exponent? rest with
      | none => none
      | some (e, rest, hasExponent) =>
        (finish negative d e (hasPoint || hasExponent)).map fun n => (n, rest)

/-- A number. -/
def number? (text : List Char) : Option (Json.Number × List Char) :=
  match text with
  | '-' :: rest => unsigned? true rest
  | _ => unsigned? false text

/-! ## Strings -/

/-- Four hexadecimal digits. -/
def unit? : List Char → Option (Nat × List Char)
  | a :: b :: c :: d :: rest =>
    match hexDigit? a, hexDigit? b, hexDigit? c, hexDigit? d with
    | some a, some b, some c, some d => some (((a * 16 + b) * 16 + c) * 16 + d, rest)
    | _, _, _, _ => none
  | _ => none

/-- The character of an escape, after its backslash. A high surrogate needs a low one after it,
and a low one does not stand alone. -/
def escape? : List Char → Option (Char × List Char)
  | '\x22' :: rest => some ('\x22', rest)
  | '\\' :: rest => some ('\\', rest)
  | '/' :: rest => some ('/', rest)
  | 'b' :: rest => some ('\x08', rest)
  | 'f' :: rest => some ('\x0c', rest)
  | 'n' :: rest => some ('\n', rest)
  | 'r' :: rest => some ('\r', rest)
  | 't' :: rest => some ('\t', rest)
  | 'u' :: rest =>
    match unit? rest with
    | none => none
    | some (n, rest) =>
      if 0xD800 ≤ n && n < 0xDC00 then
        match rest with
        | '\\' :: 'u' :: rest =>
          match unit? rest with
          | some (m, rest) =>
            if 0xDC00 ≤ m && m < 0xE000 then
              some (Char.ofNat (0x10000 + (n - 0xD800) * 1024 + (m - 0xDC00)), rest)
            else none
          | none => none
        | _ => none
      else if 0xDC00 ≤ n && n < 0xE000 then none
      else some (Char.ofNat n, rest)
  | _ => none

/-- The characters up to the closing quote, in reverse on top of `acc`, and the rest after it. -/
def stringFrom : Nat → List Char → List Char → Option (String × List Char)
  | 0, _, _ => none
  | _ + 1, _, [] => none
  | fuel + 1, acc, c :: rest =>
    if c = '\x22' then some (String.ofList acc.reverse, rest)
    else if c = '\\' then
      match escape? rest with
      | some (e, rest) => stringFrom fuel (e :: acc) rest
      | none => none
    else if c.toNat < 0x20 then none
    else stringFrom fuel (c :: acc) rest

/-- The rest of a string after its opening quote. -/
def string? (text : List Char) : Option (String × List Char) :=
  stringFrom (text.length + 1) [] text

/-! ## Values -/

/-- The rest of a text that begins with `word`. -/
def afterWord? : List Char → List Char → Option (List Char)
  | [], rest => some rest
  | w :: word, c :: rest => if w = c then afterWord? word rest else none
  | _ :: _, [] => none

mutual

/-- A value after blanks. -/
def value? : Nat → List Char → Option (Json × List Char)
  | 0, _ => none
  | fuel + 1, text =>
    match skipBlanks text with
    | [] => none
    | c :: rest =>
      if c = '\x22' then (string? rest).map fun (s, rest) => (.string s, rest)
      else if c = '[' then
        match skipBlanks rest with
        | ']' :: rest => some (.array [], rest)
        | rest => (items? fuel rest).map fun (items, rest) => (.array items, rest)
      else if c = '\x7b' then
        match skipBlanks rest with
        | '\x7d' :: rest => some (.empty, rest)
        | rest => (members? fuel rest).map fun (members, rest) => (.ofMembers members, rest)
      else if c = 't' then
        (afterWord? ['r', 'u', 'e'] rest).map fun rest => (.bool true, rest)
      else if c = 'f' then
        (afterWord? ['a', 'l', 's', 'e'] rest).map fun rest => (.bool false, rest)
      else if c = 'n' then
        (afterWord? ['u', 'l', 'l'] rest).map fun rest => (.null, rest)
      else (number? (c :: rest)).map fun (n, rest) => (.number n, rest)

/-- The items of an array, the first of which must be there, and the closing bracket. -/
def items? : Nat → List Char → Option (List Json × List Char)
  | 0, _ => none
  | fuel + 1, text =>
    match value? fuel text with
    | none => none
    | some (item, rest) =>
      match skipBlanks rest with
      | ',' :: rest => (items? fuel rest).map fun (items, rest) => (item :: items, rest)
      | ']' :: rest => some ([item], rest)
      | _ => none

/-- The members of an object, the first of which must be there, and the closing brace. -/
def members? : Nat → List Char → Option (List (String × Json) × List Char)
  | 0, _ => none
  | fuel + 1, text =>
    match skipBlanks text with
    | '\x22' :: rest =>
      match string? rest with
      | none => none
      | some (key, rest) =>
        match skipBlanks rest with
        | ':' :: rest =>
          match value? fuel rest with
          | none => none
          | some (value, rest) =>
            match skipBlanks rest with
            | ',' :: rest =>
              (members? fuel rest).map fun (more, rest) => ((key, value) :: more, rest)
            | '\x7d' :: rest => some ([(key, value)], rest)
            | _ => none
        | _ => none
    | _ => none

end

end Json.Reader

/-- The value of a whole text. -/
def Json.parse? (text : List Char) : Option Json :=
  match Json.Reader.value? (text.length + 1) text with
  | some (value, rest) => if (Json.Reader.skipBlanks rest).isEmpty then some value else none
  | none => none

end SessionGate
