import SessionGate.Text.CombiningClass
import SessionGate.Text.Composition

/-!
# The composed normal form

One text can be spelled with composites or with their parts, and with marks in different orders. The
composed normal form is one of these spellings: marks are in canonical order, and what can be
composed is.

- `NormalForm.takeApart`: a code point in its parts.
- `NormalForm.order`: marks in canonical order.
- `NormalForm.compose`: a text in parts, composed.
- `normalForm`: the composed normal form.

Characters that stand for one other character, and composites that are never written, are left as
they are.
-/

namespace SessionGate

namespace NormalForm

/-- A code point in its parts, to a depth. Only the first part of a composite has parts. -/
def takeApart : Nat → Nat → List Nat
  | 0, n => [n]
  | depth + 1, n =>
    match Composition.parts? n with
    | some (a, b) => takeApart depth a ++ [b]
    | none => [n]

/-- How deep composites are nested at most. -/
def depth : Nat := 3

/-- Puts a code point before others, behind the marks that precede it in canonical order. -/
def insert (n : Nat) : List Nat → List Nat
  | [] => [n]
  | m :: rest =>
    if combiningClass m ≠ 0 && combiningClass m < combiningClass n then m :: insert n rest
    else n :: m :: rest

/-- A text with its marks in canonical order. -/
def order : List Nat → List Nat
  | [] => []
  | n :: rest => insert n (order rest)

/-- Whether a code point of a class can still be composed with the character that some marks, the
last one first, follow. -/
def isInReach (marks : List Nat) (k : Nat) : Bool :=
  match marks with
  | [] => true
  | m :: _ => combiningClass m < k

/-- Composes a character, the marks that follow it, in reverse, and a text. -/
def composeFrom (start : Nat) (marks : List Nat) : List Nat → List Nat
  | [] => start :: marks.reverse
  | n :: rest =>
    let k := combiningClass n
    match if isInReach marks k then Composition.whole? start n else none with
    | some whole => composeFrom whole marks rest
    | none =>
      if k = 0 then start :: marks.reverse ++ composeFrom n [] rest
      else composeFrom start (n :: marks) rest

/-- A text in parts, composed. Marks at its start follow nothing and stay. -/
def compose : List Nat → List Nat
  | [] => []
  | n :: rest => if combiningClass n = 0 then composeFrom n [] rest else n :: compose rest

end NormalForm

/-- The composed normal form of a text, given by its code points. -/
def normalForm (text : List Nat) : List Nat :=
  NormalForm.compose (NormalForm.order (text.flatMap (NormalForm.takeApart NormalForm.depth)))

end SessionGate
