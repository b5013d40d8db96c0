import SessionGate.Uri.Domain.Label

/-!
# Domains

- `Domain.normalText?`: the normal form of a text, if all its characters may stand in domains.
- `Domain.labels?`: the labels of a domain in ASCII.
-/

namespace SessionGate

namespace Uri

namespace Domain

/-- ASCII characters that no domain holds. -/
def isForbidden (c : Char) : Bool :=
  c.toNat ≤ 0x20 || c.toNat = 0x7F ||
    ['%', '#', '/', ':', '<', '>', '?', '@', '[', '\\', ']', '^', '|'].contains c

/-- The normal form of a text, if all its characters may stand in domains. -/
def normalText? (text : List Char) : Option (List Char) :=
  let codes := text.map Char.toNat
  if codes.any isDisallowed then none
  else
    let chars := (normalForm (codes.flatMap image)).map Char.ofNat
    if chars.any isForbidden then none else some chars

/-- The labels of a domain in ASCII. -/
def labels? (text : List Char) : Option (List (List Char)) :=
  match normalText? text with
  | none => none
  | some normal =>
    match (normal.splitOn '.').mapM Label.ofText? with
    | none => none
    | some labels =>
      if Direction.allSettled (labels.map fun l => l.shown.map Char.toNat) then
        some (labels.map Label.ascii)
      else none

end Domain

end Uri

end SessionGate
