import SessionGate.Json.Text
import SessionGate.Text.Quoted
import SessionGate.Uri.Error

/-!
# Why a value has not the expected shape

- `ShapeError`: the causes, with the value or the key they are about.
- `ShapeError.message`: how each is worded.
-/

namespace SessionGate

/-- Why a value has not the expected shape. -/
inductive ShapeError where
  /-- A value of another type. -/
  | wrongType (found : Json) (expected : String)
  /-- A value of the right type that is not among the permitted ones. -/
  | wrongValue (found : Json) (expected : String)
  /-- A required member that is absent. -/
  | missingField (key : String)
  /-- A word that is none of the choices. -/
  | unknownChoice (found : String) (choices : List String)
  /-- An array that stands for a record and has another number of items. -/
  | wrongLength (length : Nat) (expected : String)
  /-- A text that is no URI. -/
  | badUri (text : String) (cause : UriError)
  /-- A value that has none of the alternative shapes. -/
  | noAlternative (name : String)
  deriving DecidableEq

namespace ShapeError

/-- How a message calls a value. -/
def describe : Json → String
  | .null => "null"
  | .bool true => "boolean `true`"
  | .bool false => "boolean `false`"
  | .number (.int n) => "integer `" ++ toString n ++ "`"
  | .number (.float x) => "floating point `" ++ (Json.Number.float x).text ++ "`"
  | .string s => "string " ++ Quoted.text s
  | .array _ => "sequence"
  | .object _ => "map"

/-- The list of choices in a message. -/
def describeChoices (choices : List String) : String :=
  let quoted := choices.map fun c => "`" ++ c ++ "`"
  match quoted with
  | [] => "there are no variants"
  | [a] => "expected " ++ a
  | [a, b] => "expected " ++ a ++ " or " ++ b
  | _ => "expected one of " ++ String.intercalate ", " quoted

/-- The wording of a cause. -/
def message : ShapeError → String
  | wrongType found expected => "invalid type: " ++ describe found ++ ", expected " ++ expected
  | wrongValue found expected => "invalid value: " ++ describe found ++ ", expected " ++ expected
  | missingField key => "missing field `" ++ key ++ "`"
  | unknownChoice found choices =>
    "unknown variant `" ++ found ++ "`, " ++ describeChoices choices
  | wrongLength length expected =>
    "invalid length " ++ toString length ++ ", expected " ++ expected
  | badUri text cause => cause.message ++ ": " ++ Quoted.text text
  | noAlternative name => "data did not match any variant of untagged enum " ++ name

end ShapeError

end SessionGate
