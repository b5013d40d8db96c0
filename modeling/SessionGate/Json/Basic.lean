import SessionGate.Decimal.Binary64

/-!
# JSON values

The dynamic values that clients send and the server answers with.

- `Json.Number`: an integer in the range the reader keeps exact, or a floating-point value.
- `Json`: a value. The members of an object are kept in increasing order of their keys, each key
  once: `Json.ofMembers` and `Json.insert` build such lists.
- `Json.get?`: the member of an object; a value that is no object has none.
- `Json.lookup`: the value at the end of a path of keys.
-/

namespace SessionGate

/-- A number as read: exact where it is an integer of sixty-four bits. -/
inductive Json.Number where
  | int (value : Int)
  | float (value : Binary64)
  deriving DecidableEq, Inhabited

/-- A JSON value. -/
inductive Json where
  | null
  | bool (value : Bool)
  | number (value : Json.Number)
  | string (value : String)
  | array (items : List Json)
  | object (members : List (String × Json))
  deriving Inhabited

namespace Json

/-! ## Equality -/

mutual

/-- Decides equality of values. -/
def decideEq : (a b : Json) → Decidable (a = b)
  | .null, .null => isTrue rfl
  | .bool x, .bool y =>
    if h : x = y then isTrue (by rw [h]) else isFalse (by intro e; cases e; exact h rfl)
  | .number x, .number y =>
    if h : x = y then isTrue (by rw [h]) else isFalse (by intro e; cases e; exact h rfl)
  | .string x, .string y =>
    if h : x = y then isTrue (by rw [h]) else isFalse (by intro e; cases e; exact h rfl)
  | .array xs, .array ys =>
    match decideItems xs ys with
    | isTrue h => isTrue (by rw [h])
    | isFalse h => isFalse (by intro e; cases e; exact h rfl)
  | .object xs, .object ys =>
    match decideMembers xs ys with
    | isTrue h => isTrue (by rw [h])
    | isFalse h => isFalse (by intro e; cases e; exact h rfl)
  | .null, .bool _ | .null, .number _ | .null, .string _ | .null, .array _ | .null, .object _
  | .bool _, .null | .bool _, .number _ | .bool _, .string _ | .bool _, .array _
  | .bool _, .object _
  | .number _, .null | .number _, .bool _ | .number _, .string _ | .number _, .array _
  | .number _, .object _
  | .string _, .null | .string _, .bool _ | .string _, .number _ | .string _, .array _
  | .string _, .object _
  | .array _, .null | .array _, .bool _ | .array _, .number _ | .array _, .string _
  | .array _, .object _
  | .object _, .null | .object _, .bool _ | .object _, .number _ | .object _, .string _
  | .object _, .array _ => isFalse (by intro e; cases e)

/-- Decides equality of lists of values. -/
def decideItems : (xs ys : List Json) → Decidable (xs = ys)
  | [], [] => isTrue rfl
  | [], _ :: _ => isFalse (by intro e; cases e)
  | _ :: _, [] => isFalse (by intro e; cases e)
  | x :: xs, y :: ys =>
    match decideEq x y, decideItems xs ys with
    | isTrue h, isTrue k => isTrue (by rw [h, k])
    | isFalse h, _ => isFalse (by intro e; cases e; exact h rfl)
    | _, isFalse k => isFalse (by intro e; cases e; exact k rfl)

/-- Decides equality of lists of members. -/
def decideMembers : (xs ys : List (String × Json)) → Decidable (xs = ys)
  | [], [] => isTrue rfl
  | [], _ :: _ => isFalse (by intro e; cases e)
  | _ :: _, [] => isFalse (by intro e; cases e)
  | (k, x) :: xs, (l, y) :: ys =>
    if hk : k = l then
      match decideEq x y, decideMembers xs ys with
      | isTrue h, isTrue r => isTrue (by rw [hk, h, r])
      | isFalse h, _ => isFalse (by intro e; cases e; exact h rfl)
      | _, isFalse r => isFalse (by intro e; cases e; exact r rfl)
    else isFalse (by intro e; cases e; exact hk rfl)

end

instance : DecidableEq Json := decideEq

/-! ## Objects -/

/-- The members of an object. -/
abbrev Members := List (String × Json)

/-- Sets a key among members in increasing order of keys. -/
def Members.insert (key : String) (value : Json) : Members → Members
  | [] => [(key, value)]
  | (k, v) :: rest =>
    if key < k then (key, value) :: (k, v) :: rest
    else if key = k then (key, value) :: rest
    else (k, v) :: Members.insert key value rest

/-- The value of a key. -/
def Members.get? (key : String) : Members → Option Json
  | [] => none
  | (k, v) :: rest => if k = key then some v else Members.get? key rest

/-- Removes a key. -/
def Members.erase (key : String) (members : Members) : Members :=
  members.filter fun m => m.1 != key

/-- The object with these members; of two with one key the later one counts. -/
def ofMembers (members : List (String × Json)) : Json :=
  .object (members.foldl (fun acc m => Members.insert m.1 m.2 acc) [])

/-- The value of a key, for an object that holds it. -/
def get? : Json → String → Option Json
  | .object members, key => Members.get? key members
  | _, _ => none

/-- The value at the end of a path of keys. -/
def lookup : Json → List String → Option Json
  | value, [] => some value
  | value, key :: path => (value.get? key).bind fun v => v.lookup path

@[simp] theorem lookup_nil (value : Json) : value.lookup [] = some value := by
  cases value <;> rfl

@[simp] theorem lookup_cons (value : Json) (key : String) (path : List String) :
    value.lookup (key :: path) = (value.get? key).bind fun v => v.lookup path := by
  cases value <;> rfl

/-- The object without members. -/
def empty : Json := .object []

/-- An integer. -/
def int (n : Int) : Json := .number (.int n)

/-- A list of texts. -/
def strings (texts : List String) : Json := .array (texts.map .string)

/-- A text, or null. -/
def stringOrNull : Option String → Json
  | some s => .string s
  | none => .null

/-- Whether the value is null. -/
def isNull : Json → Bool
  | .null => true
  | _ => false

/-- The truth value, if it is one. -/
def bool? : Json → Option Bool
  | .bool b => some b
  | _ => none

/-- The text, if it is one. -/
def string? : Json → Option String
  | .string s => some s
  | _ => none

/-- The number, if it is one. -/
def number? : Json → Option Json.Number
  | .number n => some n
  | _ => none

/-- The items, if it is an array. -/
def items? : Json → Option (List Json)
  | .array items => some items
  | _ => none

end Json

end SessionGate
