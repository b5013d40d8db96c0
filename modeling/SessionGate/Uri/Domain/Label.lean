import SessionGate.Text.NormalForm
import SessionGate.Uri.Domain.Direction
import SessionGate.Uri.Domain.Joining
import SessionGate.Uri.Domain.Mapping
import SessionGate.Uri.Punycode

/-!
# Labels of domains

- `Domain.Label`: a label as it is shown, and as it is written in ASCII.
- `Domain.Label.ofText?`: the label of a text in its normal form. One that begins with `xn--` is the
  ASCII form of another, which must be in its normal form too.
-/

namespace SessionGate

namespace Uri

namespace Domain

/-- A label of a domain. -/
structure Label where
  /-- The label as it is shown. -/
  shown : List Char
  /-- The label in ASCII. -/
  ascii : List Char
  deriving DecidableEq

namespace Label

/-- What the ASCII form of a label with other characters begins with. -/
def mark : List Char := ['x', 'n', '-', '-']

/-- The greatest length of a label that is written in ASCII, and of an ASCII form that is read. -/
def shownLimit : Nat := 1000

/-- The greatest length of an ASCII form that is read, its mark apart. -/
def asciiLimit : Nat := 2000

/-- Whether all characters are in ASCII. -/
def isAscii (text : List Char) : Bool :=
  text.all fun c => c.toNat < 128

/-- Whether a text may be shown as a label: it begins with no mark, and its joiners can be seen. -/
def isShowable (text : List Char) : Bool :=
  !(text.head?.any isMark) && Joining.allSeen (text.map Char.toNat)

/-- Whether a text is in the normal form of labels. -/
def isNormal (text : List Char) : Bool :=
  let codes := text.map Char.toNat
  codes.all isPlain && normalForm codes = codes

/-- The label that an ASCII form, without its mark, denotes. -/
def ofForm? (form : List Char) : Option Label :=
  if asciiLimit < form.length || !isAscii form then none
  else
    match Punycode.decode? form with
    | none => none
    | some shown =>
      if isAscii shown || shownLimit < shown.length || !isNormal shown || !isShowable shown then none
      else some ⟨shown, mark ++ form⟩

/-- The label of a text in its normal form. -/
def ofText? (text : List Char) : Option Label :=
  if mark.isPrefixOf text then ofForm? (text.drop mark.length)
  else if isAscii text then some ⟨text, text⟩
  else if shownLimit < text.length || !isShowable text then none
  else some ⟨text, mark ++ Punycode.encode text⟩

end Label

end Domain

end Uri

end SessionGate
