import SessionGate.Text.Printable
import SessionGate.Text.Utf8

/-!
# Quoted text in messages

A message that names a text or a path writes it between double quotes, with escapes for what
would not be visible.

- `Quoted.escape`: the escape of one character; the apostrophe is escaped in paths only.
- `Quoted.text`, `Quoted.path`: a quoted text, a quoted path.
-/

namespace SessionGate

namespace Quoted

/-- How a character is written between the quotes. -/
def escape (apostrophe : Bool) (c : Char) : List Char :=
  if c = '\x00' then ['\\', '0']
  else if c = '\t' then ['\\', 't']
  else if c = '\r' then ['\\', 'r']
  else if c = '\n' then ['\\', 'n']
  else if c = '\\' then ['\\', '\\']
  else if c = '\x22' then ['\\', '\x22']
  else if c = '\x27' && apostrophe then ['\\', '\x27']
  else if isPrintable c then [c]
  else ['\\', 'u', '\x7b'] ++ Nat.toDigits 16 c.toNat ++ ['\x7d']

/-- A text between double quotes. -/
def quote (apostrophe : Bool) (text : List Char) : String :=
  String.ofList ('\x22' :: text.flatMap (escape apostrophe) ++ ['\x22'])

/-- A quoted text. -/
def text (s : String) : String :=
  quote false s.toList

/-- A quoted path; octets that are no text show as U+FFFD. -/
def path (bytes : Bytes) : String :=
  quote true (Utf8.decodeLossy bytes)

end Quoted

end SessionGate
