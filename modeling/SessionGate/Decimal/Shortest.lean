import SessionGate.Decimal.Binary64

/-!
# The shortest decimal of a floating-point value

A value is the one nearest to every real of an interval around it. Its text is the decimal with
the fewest digits in that interval, and of those the nearest.

- `Shortest.onGrid?`: the multiple of a power of ten that lies in the interval, if any.
- `Shortest.digits`: the fewest digits, and the power of ten they are multiplied by.
-/

namespace SessionGate

namespace Shortest

open Binary64

/-- The interval of a magnitude `m · 2 ^ q`, in units of `2 ^ (q - 2)`: its least point, the
magnitude, and its greatest point. Below a power of two the gap is half as wide. -/
def interval (x : Binary64) : Nat × Nat × Nat :=
  let m := x.significand
  let below := if m = twoTo 52 && 1 < x.biasedExponent then 1 else 2
  (4 * m - below, 4 * m, 4 * m + 2)

/-- The unit `2 ^ (q - 2)` divided by `10 ^ e`, as a quotient of naturals. -/
def unitOver (x : Binary64) (e : Int) : Nat × Nat :=
  let k := x.exponent - 2
  let (n, d) := if 0 ≤ k then (twoTo k.toNat, 1) else (1, twoTo (-k).toNat)
  if 0 ≤ e then (n, d * tenTo e.toNat) else (n * tenTo (-e).toNat, d)

/-- The multiple of `10 ^ e` in the interval of `x` that is nearest to `x`, if there is one; of two
equally near ones the even one. The ends belong to the interval when the significand is even. -/
def onGrid? (x : Binary64) (e : Int) : Option Nat :=
  let (least, middle, greatest) := interval x
  let (n, d) := unitOver x e
  let even := x.significand % 2 = 0
  let inside (k : Nat) : Bool :=
    let p := k * d
    if even then least * n ≤ p && p ≤ greatest * n else least * n < p && p < greatest * n
  let low := middle * n / d
  let lowIn := inside low
  let highIn := inside (low + 1)
  if lowIn && highIn then
    let toLow := middle * n - low * d
    let toHigh := (low + 1) * d - middle * n
    if toLow < toHigh || (toLow = toHigh && low % 2 = 0) then some low else some (low + 1)
  else if lowIn then some low
  else if highIn then some (low + 1)
  else none

/-- The greatest `e`, counted down from `start`, with `10 ^ e` at most the magnitude. -/
def leading (x : Binary64) : Nat → Int → Int
  | 0, start => start
  | fuel + 1, start =>
    let (n, d) := unitOver x start
    if d ≤ 4 * x.significand * n then start else leading x fuel (start - 1)

/-- Tries grids from coarse to fine. -/
def search (x : Binary64) : Nat → Int → Option (Nat × Int)
  | 0, _ => none
  | fuel + 1, e =>
    match onGrid? x e with
    | some k => if k = 0 then search x fuel (e - 1) else some (k, e)
    | none => search x fuel (e - 1)

/-- Drops the final zeros of a natural. The fuel bounds their number. -/
def dropZeros : Nat → Nat → Int → Nat × Int
  | 0, k, e => (k, e)
  | fuel + 1, k, e => if k % 10 = 0 && k ≠ 0 then dropZeros fuel (k / 10) (e + 1) else (k, e)

/-- The shortest digits of the magnitude of a nonzero finite value, as a natural without final
zeros and the power of ten to multiply it by. -/
def digits (x : Binary64) : Nat × Int :=
  match search x 18 (leading x 640 309 + 1) with
  | some (k, e) => dropZeros 20 k e
  | none => (0, 0)

end Shortest

end SessionGate
