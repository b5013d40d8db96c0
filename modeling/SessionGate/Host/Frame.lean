import SessionGate.Host.Message
import SessionGate.Text.Trim

/-!
# Frames

How messages stand in a stream: header lines, an empty line, and a body whose length in octets the
header gives.

- `Frame.ofBody`: the frame of a body.
- `Frame.length?`: the length that a header line gives.
- `Message.ofJson?`: the message of a body that has been read.
-/

namespace SessionGate

namespace Frame

/-- The name of the header that gives the length of the body, in small letters. -/
def lengthHeader : List Char := "content-length".toList

/-- The frame of a body. -/
def ofBody (body : String) : String :=
  "Content-Length: " ++ toString body.utf8ByteSize ++ "\r\n\r\n" ++ body

/-- Whether a character may stand around the value of a header. -/
def isBlank (c : Char) : Bool :=
  c = ' ' || c = '\t' || c = '\r' || c = '\n'

/-- The value of a line of decimal digits, blanks around it aside. -/
def decimal? (text : List Char) : Option Nat :=
  let digits := trimEnd isBlank (text.dropWhile isBlank)
  if digits.isEmpty || !digits.all Char.isDigit then none
  else some (digits.foldl (fun n c => n * 10 + (c.toNat - '0'.toNat)) 0)

/-- The length that a header line gives; other headers give none. -/
def length? (line : List Char) : Option Nat :=
  let name := line.takeWhile fun c => c != ':'
  if name.map Char.toLower = lengthHeader then decimal? (line.drop (name.length + 1)) else none

/-- Whether a line ends the header. -/
def endsHeader (line : List Char) : Bool :=
  line.all isBlank

end Frame

/-- The message of a body; what has no method is none. -/
def Message.ofJson? (body : Json) : Option Message :=
  match (body.get? "method").bind Json.string? with
  | some method => some ⟨method, body.get? "id", body.get? "params"⟩
  | none => none

end SessionGate
