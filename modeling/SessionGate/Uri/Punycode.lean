/-!
# Domain labels in ASCII

- `Punycode.encode`: the ASCII form of a label that holds other characters, without
  its leading mark.
- `Punycode.decode?`: the label that such a form denotes.

The label is written as its ASCII characters followed by a list of gaps: the remaining characters
are inserted in increasing order, and each gap says how many places to go on before the next one.
-/

namespace SessionGate

namespace Punycode

/-- The digit of a value below thirty-six. -/
def digit (n : Nat) : Char :=
  if n < 26 then Char.ofNat (97 + n) else Char.ofNat (22 + n)

/-- The threshold of the digit at place `k`, for a bias. -/
def threshold (k bias : Nat) : Nat :=
  if k ≤ bias then 1 else if bias + 26 ≤ k then 26 else k - bias

/-- A gap in digits of varying weight. The fuel bounds the number of digits. -/
def gapDigits : Nat → Nat → Nat → Nat → List Char
  | 0, _, _, _ => []
  | fuel + 1, bias, k, q =>
    let t := threshold k bias
    if q < t then [digit q]
    else digit (t + (q - t) % (36 - t)) :: gapDigits fuel bias (k + 36) ((q - t) / (36 - t))

/-- Halves a gap until it is small, counting places. The fuel bounds the halvings. -/
def settle : Nat → Nat → Nat → Nat × Nat
  | 0, delta, k => (delta, k)
  | fuel + 1, delta, k => if 455 < delta then settle fuel (delta / 35) (k + 36) else (delta, k)

/-- The bias after a gap. -/
def adapt (delta points : Nat) (first : Bool) : Nat :=
  let delta := if first then delta / 700 else delta / 2
  let (delta, k) := settle 20 (delta + delta / points) 0
  k + 36 * delta / (delta + 38)

/-- The state between insertions. -/
structure State where
  delta : Nat
  bias : Nat
  handled : Nat
  basic : Nat
  output : List Char

/-- Goes over the label once for the code point `n`. -/
def sweep (n : Nat) (s : State) (c : Nat) : State :=
  if c < n then { s with delta := s.delta + 1 }
  else if c = n then
    { s with
      delta := 0
      bias := adapt s.delta (s.handled + 1) (s.handled = s.basic)
      handled := s.handled + 1
      output := s.output ++ gapDigits 40 s.bias 36 s.delta }
  else s

/-- Inserts the code points from `n` on. The fuel bounds how many different ones there are. -/
def insertAll (label : List Nat) : Nat → Nat → State → State
  | 0, _, s => s
  | fuel + 1, n, s =>
    match (label.filter fun c => n ≤ c).min? with
    | none => s
    | some m =>
      let s := { s with delta := s.delta + (m - n) * (s.handled + 1) }
      let s := label.foldl (sweep m) s
      insertAll label fuel (m + 1) { s with delta := s.delta + 1 }

/-- The ASCII form of a label. -/
def encode (label : List Char) : List Char :=
  let basic := label.filter fun c => c.toNat < 128
  let start : State :=
    { delta := 0, bias := 72, handled := basic.length, basic := basic.length,
      output := if basic.isEmpty then [] else basic ++ ['-'] }
  (insertAll (label.map Char.toNat) label.length 128 start).output

/-! ## Reading -/

/-- The value of a digit. -/
def value? (c : Char) : Option Nat :=
  let n := c.toNat
  if 97 ≤ n && n ≤ 122 then some (n - 97)
  else if 48 ≤ n && n ≤ 57 then some (n - 22)
  else none

/-- The greatest number that is read. -/
def greatest : Nat := 4294967295

/-- Reads a gap from digits: its value, and the digits left. `weight` is the weight of the next
digit, at place `k`. -/
def gap? (bias : Nat) : Nat → Nat → Nat → List Char → Option (Nat × List Char)
  | _, _, _, [] => none
  | k, weight, sum, c :: rest =>
    match value? c with
    | none => none
    | some d =>
      let t := threshold k bias
      let sum := sum + d * weight
      if greatest < sum || greatest < weight then none
      else if d < t then some (sum, rest)
      else gap? bias (k + 36) (weight * (36 - t)) sum rest

/-- Inserts characters for the gaps that digits denote: `n` is the code point before the first gap,
`place` the place in the label, and `first` tells whether no gap has been read. The fuel bounds how
many there are. -/
def insertGaps? : Nat → Nat → Nat → Nat → Bool → List Char → List Char → Option (List Char)
  | 0, _, _, _, _, _, _ => none
  | _ + 1, _, _, _, _, label, [] => some label
  | fuel + 1, n, place, bias, first, label, c :: digits =>
    match gap? bias 36 1 0 (c :: digits) with
    | none => none
    | some (gap, rest) =>
      let length := label.length + 1
      let reached := place + gap
      let n := n + reached / length
      let place := reached % length
      if Nat.isValidChar n then
        let label := label.take place ++ Char.ofNat n :: label.drop place
        insertGaps? fuel n (place + 1) (adapt gap length first) false label rest
      else none

/-- The label that an ASCII form denotes. What stands before its last hyphen are the ASCII characters
of the label. -/
def decode? (text : List Char) : Option (List Char) :=
  let digits := (text.reverse.takeWhile fun c => c != '-').reverse
  let basic := text.take (text.length - digits.length - 1)
  if basic.isEmpty then insertGaps? (text.length + 1) 128 0 72 true [] text
  else insertGaps? (text.length + 1) 128 0 72 true basic digits

end Punycode

end SessionGate
