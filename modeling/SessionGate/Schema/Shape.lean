import SessionGate.Schema.Error
import SessionGate.Uri.Parser

/-!
# Shapes of values

The messages of the protocol have fixed shapes. A value is read against a shape and written again in
its normal form: members the shape does not know are dropped, and so are most absent ones.

- `Shape`: the shapes.
- `Shape.Presence`: what becomes of a member that is absent or null.
- `Shape.conform`: the normal form of a value, or the first thing that is wrong with it. Members are
  read in the order of their keys; absent ones are noticed after that, in the order of the shape. A
  record's own members come before those it shares.
- `Shape.Standing`: whether a value is read for a record's own members or for those it shares, which
  decides how an array with too many items is reported.
-/

namespace SessionGate

/-- What becomes of a member that is absent. -/
structure Shape.Presence where
  /-- Its absence is an error. -/
  isRequired : Bool
  /-- It is written as null when it is absent. -/
  isKept : Bool
  /-- It may be absent also from an array that stands for the record. -/
  hasDefault : Bool
  /-- Null counts as its absence. -/
  takesNull : Bool

namespace Shape.Presence

/-- Must be there. -/
def required : Presence := ⟨true, false, false, false⟩

/-- May be absent or null, and is then dropped. -/
def optional : Presence := ⟨false, false, false, true⟩

/-- May be absent or null, and is then dropped, in arrays too. -/
def defaulted : Presence := ⟨false, false, true, true⟩

/-- May be absent or null, and is then null. -/
def kept : Presence := ⟨false, true, false, true⟩

/-- May be absent or null, and is then null, in arrays too. -/
def keptDefaulted : Presence := ⟨false, true, true, true⟩

/-- May be absent, but not null, and is then dropped, in arrays too. -/
def omissible : Presence := ⟨false, false, true, false⟩

end Shape.Presence

/-- A shape of values. -/
inductive Shape where
  /-- Any value. -/
  | any
  /-- A truth value. -/
  | bool
  /-- A text. -/
  | string
  /-- The text of a URI, which is normalised. -/
  | uri
  /-- An integer of thirty-two bits without a sign. -/
  | u32
  /-- An integer of thirty-two bits. -/
  | i32
  /-- A number of any kind, which has single precision in the end. -/
  | f32
  /-- One of some words. -/
  | choice (words : List String)
  /-- A list. -/
  | list (item : Shape)
  /-- A list of a fixed length. -/
  | vector (length : Nat) (item : Shape)
  /-- An object with any number of members; what it is called in messages, the shape of the keys and
  the shape of the values. -/
  | table (title : String) (key : Shape) (item : Shape)
  /-- A record: its own members, and groups of members it shares with other records. A record that
  shares none may be written as the array of its members. -/
  | record (name : String) (own : List (String × Shape.Presence × Shape))
    (shared : List (List (String × Shape.Presence × Shape)))
  /-- A record, with the shape of all members that it does not name. It is never written as an
  array. -/
  | openRecord (name : String) (own : List (String × Shape.Presence × Shape)) (rest : Shape)
  /-- A shape for which a truth value may stand: false for absence, and true for a given value. -/
  | flagOr (whenTrue : Json) (shape : Shape)
  /-- The first of some shapes that fits. -/
  | oneOf (name : String) (alternatives : List Shape)
  /-- A value that one of its members names the shape of. The name may also be its place among the
  shapes, and the whole may be an array that begins with it. -/
  | tagged (key : String) (variants : List (String × Shape))

namespace Shape

/-- Whether a value is read for a record's own members or for those it shares with others. -/
inductive Standing where
  | own
  | shared
  deriving DecidableEq

/-- What an array with too many items is expected to be, if `n` are read from it. -/
def Standing.surplusName (s : Standing) (n : Nat) : String :=
  match s with
  | own => "fewer elements in array"
  | shared => toString n ++ (if n = 1 then " element in sequence" else " elements in sequence")

/-- The members of a record. -/
abbrev Fields := List (String × Presence × Shape)

/-- What was found for a member: nothing, a normal form, or an error. -/
abbrev Reading := String × Presence × Option (Except ShapeError Json)

/-- What a record is called in messages. -/
def recordName (name : String) : String :=
  "struct " ++ name

/-- What an array that stands for a record of `n` members is expected to be. -/
def arrayName (name : String) (n : Nat) : String :=
  recordName name ++ " with " ++ toString n ++ (if n = 1 then " element" else " elements")

/-- An integer within bounds. -/
def conformInt (least greatest : Int) (name : String) (value : Json) : Except ShapeError Json :=
  match value with
  | .number (.int n) =>
    if least ≤ n && n ≤ greatest then .ok value else .error (.wrongValue value name)
  | _ => .error (.wrongType value name)

/-- The normal form of the text of a URI. -/
def conformUri (value : Json) : Except ShapeError Json :=
  match value with
  | .string s =>
    match Uri.parse s with
    | .ok u => .ok (.string (String.ofList u.text))
    | .error e => .error (.badUri s e)
  | _ => .error (.wrongType value "a string representing an URL")

/-- One of some words; a word may also be the only key of an object, with null as its value. -/
def conformChoice (words : List String) (value : Json) : Except ShapeError Json :=
  let pick (w : String) : Except ShapeError Json :=
    if words.contains w then .ok (.string w) else .error (.unknownChoice w words)
  match value with
  | .string w => pick w
  | .object [(w, v)] => do
    let word ← pick w
    if v.isNull then return word else throw (.wrongType v "unit")
  | .object _ => .error (.wrongValue value "map with a single key")
  | _ => .error (.wrongType value "string or map")

/-- The text of a key in its normal form. -/
def keyText (key : String) (conformed : Json) : String :=
  conformed.string?.getD key

/-- Whether a tag names the variant of a word, which is at place `n`. -/
def isTagOf (word : String) (n : Nat) (tag : Json) : Bool :=
  match tag with
  | .string w => w = word
  | .number (.int k) => k = Int.ofNat n
  | _ => false

/-- The errors among readings with their keys. -/
def errors (readings : List Reading) : List (String × ShapeError) :=
  readings.filterMap fun r =>
    match r.2.2 with
    | some (.error e) => some (r.1, e)
    | _ => none

/-- The error of the least key. -/
def firstError? : List (String × ShapeError) → Option (String × ShapeError)
  | [] => none
  | (k, e) :: rest =>
    match firstError? rest with
    | none => some (k, e)
    | some (l, f) => if l < k then some (l, f) else some (k, e)

/-- The first required member for which nothing was found. -/
def missing? (readings : List Reading) : Option String :=
  (readings.find? fun r => r.2.1.isRequired && r.2.2.isNone).map Prod.fst

/-- The members to write. -/
def written (readings : List Reading) : List (String × Json) :=
  readings.filterMap fun r =>
    match r.2.2 with
    | some (.ok v) => some (r.1, v)
    | _ => if r.2.1.isKept then some (r.1, .null) else none

/-- The members of a record from the readings of one group of them. -/
def settle (readings : List Reading) : Except ShapeError (List (String × Json)) :=
  match firstError? (errors readings) with
  | some (_, e) => .error e
  | none =>
    match missing? readings with
    | some key => .error (.missingField key)
    | none => .ok (written readings)

/-- Whether a value for a member counts as absent. -/
def countsAsAbsent (p : Presence) (shape : Shape) (value : Json) : Bool :=
  match shape, value with
  | _, .null => p.takesNull
  | flagOr _ _, .bool false => p.takesNull
  | _, _ => false

/-- The members that none of some keys names. -/
def without (own : Fields) (members : Json.Members) : Json.Members :=
  members.filter fun m => !own.any fun f => f.1 = m.1

mutual

/-- The normal form of a value of a shape, read in some standing. -/
def conformIn (s : Standing) : Shape → Json → Except ShapeError Json
  | any, v => .ok v
  | bool, v => if v.bool?.isSome then .ok v else .error (.wrongType v "a boolean")
  | string, v => if v.string?.isSome then .ok v else .error (.wrongType v "a string")
  | uri, v => conformUri v
  | u32, v => conformInt 0 4294967295 "u32" v
  | i32, v => conformInt (-2147483648) 2147483647 "i32" v
  | f32, v => if v.number?.isSome then .ok v else .error (.wrongType v "f32")
  | choice words, v => conformChoice words v
  | list item, v =>
    match v with
    | .array items => (items.mapM fun x => conformIn s item x).map .array
    | _ => .error (.wrongType v "a sequence")
  | vector length item, v =>
    let title := "an array of length " ++ toString length
    match v with
    | .array items => do
      let read ← (items.take length).mapM fun x => conformIn s item x
      if items.length < length then throw (.wrongLength items.length title)
      else if length < items.length then throw (.wrongLength items.length (s.surplusName length))
      else return .array read
    | _ => .error (.wrongType v title)
  | table title key item, v =>
    match v with
    | .object members =>
      (members.mapM fun (k, x) => do
        let name ← conformIn s key (.string k)
        let w ← conformIn s item x
        return (keyText k name, w)).map .ofMembers
    | _ => .error (.wrongType v title)
  | record name own shared, v =>
    match v with
    | .object members => do
      let first ← settle (readFields s own members)
      let more ← readGroups shared members
      return .ofMembers (first ++ more)
    | .array items =>
      if shared.isEmpty then
        (readItems s name own.length 0 own items).map fun ms =>
          .ofMembers ms
      else .error (.wrongType v (recordName name))
    | _ => .error (.wrongType v (recordName name))
  | openRecord name own rest, v =>
    match v with
    | .object members => do
      let first ← settle (readFields s own members)
      let more ← (without own members).mapM fun (k, x) => do
        let w ← conformIn .shared rest x
        return (k, w)
      return .ofMembers (first ++ more)
    | _ => .error (.wrongType v (recordName name))
  | flagOr whenTrue shape, v =>
    match v with
    | .bool true => .ok whenTrue
    | .bool false => .ok .null
    | _ => conformIn .own shape v
  | oneOf name alternatives, v =>
    match conformAny alternatives v with
    | some w => .ok w
    | none => .error (.noAlternative name)
  | tagged key variants, v =>
    match v with
    | .object members =>
      match Json.Members.get? key members with
      | none => .error (.missingField key)
      | some tag => conformVariant tag 0 variants (.object (Json.Members.erase key members))
    | .array [] => .error (.missingField key)
    | .array (tag :: items) => conformVariant tag 0 variants (.array items)
    | _ => .error (.wrongType v "internally tagged enum")

/-- Reads the members of an object that belong to a record. -/
def readFields (s : Standing) : Fields → Json.Members → List Reading
  | [], _ => []
  | (key, p, shape) :: rest, members =>
    let reading :=
      match Json.Members.get? key members with
      | none => none
      | some v => if countsAsAbsent p shape v then none else some (conformIn s shape v)
    (key, p, reading) :: readFields s rest members

/-- The members of the groups that a record shares, group by group. -/
def readGroups : List Fields → Json.Members → Except ShapeError (List (String × Json))
  | [], _ => .ok []
  | group :: rest, members => do
    let first ← settle (readFields .shared group members)
    let more ← readGroups rest members
    return first ++ more

/-- Reads the items of an array that stands for a record of `size` members, from place `n` on. -/
def readItems (s : Standing) (name : String) (size n : Nat) :
    Fields → List Json → Except ShapeError (List (String × Json))
  | [], [] => .ok []
  | [], items => .error (.wrongLength (n + items.length) (s.surplusName size))
  | (key, p, _) :: rest, [] =>
    if p.hasDefault then
      (readItems s name size (n + 1) rest []).map fun ms =>
        if p.isKept then (key, .null) :: ms else ms
    else .error (.wrongLength n (arrayName name size))
  | (key, p, shape) :: rest, v :: items => do
    if countsAsAbsent p shape v then
      let ms ← readItems s name size (n + 1) rest items
      return if p.isKept then (key, .null) :: ms else ms
    else
      let w ← conformIn s shape v
      let ms ← readItems s name size (n + 1) rest items
      return (key, w) :: ms

/-- The normal form by the first shape that fits. -/
def conformAny : List Shape → Json → Option Json
  | [], _ => none
  | shape :: rest, v =>
    match conformIn .shared shape v with
    | .ok w => some w
    | .error _ => conformAny rest v

/-- The normal form by the variant that a tag names, without the tag. The first variant of the list
is at place `n`. -/
def conformVariant (tag : Json) (n : Nat) :
    List (String × Shape) → Json → Except ShapeError Json
  | [], _ => .error (.wrongValue tag "variant identifier")
  | (word, shape) :: rest, v =>
    if isTagOf word n tag then conformIn .shared shape v
    else conformVariant tag (n + 1) rest v

end

/-- The normal form of a value of a shape. -/
def conform (shape : Shape) (value : Json) : Except ShapeError Json :=
  shape.conformIn .own value

end Shape

end SessionGate
