/-!
# Binary floating point in sixty-four bits

A finite value is a sign and a magnitude `m · 2 ^ q`. All arithmetic here is exact arithmetic on
naturals followed by one rounding, so a result is a fact about `m` and `q`.

- `Binary64.significand`, `Binary64.exponent`: the `m` and `q` of a value's magnitude.
- `Binary64.ofRatio?`: the magnitude nearest to a quotient of naturals, a tie going to the even
  significand; `none` where the nearest one is infinite.
- `Binary64.scale?`: a natural times a power of ten, in the steps a reader of numbers takes.
-/

namespace SessionGate

/-- The bits of a floating-point value. -/
structure Binary64 where
  bits : UInt64
  deriving DecidableEq, Inhabited

namespace Binary64

/-- The natural `2 ^ k`. -/
def twoTo (k : Nat) : Nat :=
  Nat.pow 2 k

/-- The natural `10 ^ k`. -/
def tenTo (k : Nat) : Nat :=
  Nat.pow 10 k

/-- Whether the sign bit is set. -/
def isNegative (x : Binary64) : Bool :=
  twoTo 63 ≤ x.bits.toNat

/-- The bits below the sign. -/
def magnitudeBits (x : Binary64) : Nat :=
  x.bits.toNat % twoTo 63

/-- The eleven bits of the biased exponent. -/
def biasedExponent (x : Binary64) : Nat :=
  x.magnitudeBits / twoTo 52

/-- The natural `m` of the magnitude `m · 2 ^ q`. -/
def significand (x : Binary64) : Nat :=
  let fraction := x.magnitudeBits % twoTo 52
  if x.biasedExponent = 0 then fraction else twoTo 52 + fraction

/-- The integer `q` of the magnitude `m · 2 ^ q`. -/
def exponent (x : Binary64) : Int :=
  if x.biasedExponent = 0 then -1074 else (x.biasedExponent : Int) - 1075

/-- A value from its sign and the bits below it. -/
def ofMagnitude (negative : Bool) (magnitude : Nat) : Binary64 :=
  ⟨UInt64.ofNat (magnitude % twoTo 63 + if negative then twoTo 63 else 0)⟩

/-- A quotient rounded to the nearest natural, a tie going to the even one. -/
def roundQuotient (num den : Nat) : Nat :=
  let q := num / den
  let r := num % den
  if 2 * r < den then q
  else if den < 2 * r then q + 1
  else if q % 2 = 0 then q else q + 1

/-- `num / den · 2 ^ (-k)` as a quotient of naturals. -/
def shifted (num den : Nat) (k : Int) : Nat × Nat :=
  if 0 ≤ k then (num, den * twoTo k.toNat) else (num * twoTo (-k).toNat, den)

/-- The exponent `q` for which `num / den` lies from `2 ^ 52 · 2 ^ q` up to `2 ^ 53 · 2 ^ q`, but
never less than that of the smallest magnitudes. -/
def exponentOf (num den : Nat) : Int :=
  let k := (num.log2 : Int) - den.log2 - 53
  let (n, d) := shifted num den k
  max (-1074) (if d * twoTo 53 ≤ n then k + 1 else k)

/-- The bits of the magnitude nearest to `num / den`, for a positive `den`. -/
def ofRatio? (num den : Nat) : Option Nat :=
  if num = 0 then some 0
  else
    let k := exponentOf num den
    let (n, d) := shifted num den k
    let m := roundQuotient n d
    let magnitude := if m < twoTo 52 then m else (k + 1075).toNat * twoTo 52 + (m - twoTo 52)
    if magnitude < 2047 * twoTo 52 then some magnitude else none

/-- The magnitude of these bits as a quotient of naturals. -/
def ratio (magnitude : Nat) : Nat × Nat :=
  let x := ofMagnitude false magnitude
  if 0 ≤ x.exponent then (x.significand * twoTo x.exponent.toNat, 1)
  else (x.significand, twoTo (-x.exponent).toNat)

/-- The magnitude of `10 ^ e`, for an exponent of at most 308. -/
def powerOfTen (e : Nat) : Nat :=
  (ofRatio? (tenTo e) 1).getD 0

/-- The product of two magnitudes. -/
def mul? (a b : Nat) : Option Nat :=
  let (an, ad) := ratio a
  let (bn, bd) := ratio b
  ofRatio? (an * bn) (ad * bd)

/-- The quotient of two magnitudes, for a nonzero divisor. -/
def div? (a b : Nat) : Option Nat :=
  let (an, ad) := ratio a
  let (bn, bd) := ratio b
  ofRatio? (an * bd) (ad * bn)

/-- Scales a magnitude down by `10 ^ e`, in steps of at most 308. The fuel bounds the steps: a
magnitude is zero after three of them. -/
def scaleDown : Nat → Nat → Nat → Nat
  | 0, magnitude, _ => magnitude
  | fuel + 1, magnitude, e =>
    if e ≤ 308 then (div? magnitude (powerOfTen e)).getD 0
    else if magnitude = 0 then 0
    else scaleDown fuel ((div? magnitude (powerOfTen 308)).getD 0) (e - 308)

/-- The magnitude of `digits · 10 ^ e` as number text gives it: the digits are rounded first, then
scaled by a rounded power of ten. `none` where it is too large. -/
def scale? (digits : Nat) (e : Int) : Option Nat :=
  match ofRatio? digits 1 with
  | none => none
  | some magnitude =>
    if e < 0 then some (scaleDown 5 magnitude (-e).toNat)
    else if 308 < e then if digits = 0 then some 0 else none
    else mul? magnitude (powerOfTen e.toNat)

end Binary64

end SessionGate
