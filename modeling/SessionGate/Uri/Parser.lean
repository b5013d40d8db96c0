import SessionGate.Text.Trim
import SessionGate.Uri.Segments

/-!
# Reading URIs

- `Uri.parse`: the URI a text denotes. Controls and spaces around it and line breaks and tabs in it
  do not count, the scheme is read in lower case, the path without its dot segments, and every part
  is percent-encoded as far as it has to be.

A text without a scheme is no URI, in particular one that begins with a slash. Breaks count in one
place only: at the start of a file's path one may part a drive letter from what follows.
-/

namespace SessionGate

namespace Uri

/-- Whether a character does not count at either end of a text. -/
def isMargin (c : Char) : Bool :=
  c.toNat ≤ 0x20

/-- Whether a character does not count anywhere. -/
def isBreak (c : Char) : Bool :=
  c = '\t' || c = '\n' || c = '\r'

/-- The characters of a text that count, each with whether others precede it. -/
def withBreaks (isAfterBreak : Bool) : List Char → Segments.Broken
  | [] => []
  | c :: rest =>
    if isBreak c then withBreaks true rest else (c, isAfterBreak) :: withBreaks false rest

/-- The characters of a text that count, with its breaks. -/
def clean (text : List Char) : Segments.Broken :=
  withBreaks false (trimEnd isMargin (text.dropWhile isMargin))

/-- Whether a character may stand in a scheme. -/
def isSchemeChar (c : Char) : Bool :=
  c.isAlphanum || c = '+' || c = '-' || c = '.'

/-- The scheme of a text, in lower case, and what follows its colon. -/
def splitScheme? (text : List Char) : Option (List Char × List Char) :=
  match text with
  | [] => none
  | first :: _ =>
    if !first.isAlpha then none
    else
      match text.dropWhile isSchemeChar with
      | ':' :: rest => some ((text.takeWhile isSchemeChar).map Char.toLower, rest)
      | _ => none

/-- Whether a character begins the query or the fragment. -/
def isMark (c : Char) : Bool :=
  c = '?' || c = '#'

/-- What stands before the query and the fragment, and those two, encoded. -/
def splitMarks (kind : Kind) (text : List Char) :
    List Char × Option (List Char) × Option (List Char) :=
  let fragmentOf (rest : List Char) := Percent.encodeText Percent.fragment rest
  let front := text.takeWhile fun c => !isMark c
  match text.dropWhile fun c => !isMark c with
  | '?' :: rest =>
    let set := if kind = .plain then Percent.query else Percent.networkQuery
    let q := Percent.encodeText set (rest.takeWhile fun c => c != '#')
    match rest.dropWhile fun c => c != '#' with
    | _ :: f => (front, some q, some (fragmentOf f))
    | [] => (front, some q, none)
  | _ :: f => (front, none, some (fragmentOf f))
  | [] => (front, none, none)

/-! ## Authorities -/

/-- The user information before the last `@`, if any, and the rest. -/
def splitUser (text : List Char) : Option (List Char) × List Char :=
  let after := (text.reverse.takeWhile fun c => c != '@').reverse
  if after.length = text.length then (none, text)
  else (some (text.take (text.length - after.length - 1)), after)

/-- User information, encoded: a name, and a password after the first colon. An empty password is
dropped with its colon. -/
def encodeUser (text : List Char) : List Char :=
  let enc := Percent.encodeText Percent.userInfo
  let name := enc (text.takeWhile fun c => c != ':')
  match text.dropWhile fun c => c != ':' with
  | _ :: [] => name
  | _ :: password => name ++ ':' :: enc password
  | [] => name

/-- The host at the start of a text, up to a colon outside brackets, and the rest. -/
def splitHost : Bool → List Char → List Char × List Char
  | _, [] => ([], [])
  | inside, c :: rest =>
    if c = ':' && !inside then ([], c :: rest)
    else
      let inside := if c = '[' then true else if c = ']' then false else inside
      let (host, after) := splitHost inside rest
      (c :: host, after)

/-- The service number at the start of a text and the rest, which the path begins with. A backslash
ends the number. -/
def splitService (text : List Char) : Except UriError (Option Nat × List Char) :=
  let digits := text.takeWhile Char.isDigit
  let rest := text.dropWhile Char.isDigit
  let n := digits.foldl (fun acc c => acc * 10 + (c.toNat - 48)) 0
  if 65535 < n then .error .badService
  else
    match rest with
    | c :: _ => if c = '\\' then .ok (if digits.isEmpty then none else some n, rest)
      else .error .badService
    | [] => .ok (if digits.isEmpty then none else some n, rest)

/-- Reads an authority; the rest belongs to the path. A lone `@` names no host, and where more
than the authority follows (`isLast` is false) that is an error. -/
def readAuthority (kind : Kind) (isLast : Bool) (scheme text : List Char) :
    Except UriError (Authority × List Char) := do
  let (user, afterUser) := splitUser text
  if user = some [] && afterUser.isEmpty && !isLast then throw .emptyHost
  let (hostText, rest) := splitHost false afterUser
  if kind = .network && hostText.isEmpty then throw .emptyHost
  let host ← if kind = .plain then Host.parsePlain hostText else Host.parse hostText
  let user := (user.map encodeUser).getD []
  match rest with
  | ':' :: numbered =>
    if hostText.isEmpty then throw .emptyHost
    let (service, rest) ← splitService numbered
    let service := if service = defaultService? scheme then none else service
    return (⟨user, host, service⟩, rest)
  | _ =>
    if hostText.isEmpty && !user.isEmpty then throw .emptyHost
    return (⟨user, host, none⟩, rest)

/-! ## Whole texts -/

/-- The authority of a file URI without a host. -/
def noHost : Authority := ⟨[], .empty, none⟩

/-- The file with a path; empty segments at the start do not count. -/
def fileAt (authority : Authority) (text : Segments.Broken) : Authority × UriPath :=
  let path := Segments.ofBroken .file text
  (if path.hasDrive then noHost else authority,
    .segments (Segments.dropEmpty path.segments))

/-- Whether a character of a file URI is a slash. -/
def isFileSlash (c : Char × Bool) : Bool :=
  Kind.isSlash .file c.1

/-- A file path without one slash at its start. -/
def dropFileSlash (text : Segments.Broken) : Segments.Broken :=
  match text with
  | c :: rest => if isFileSlash c then rest else text
  | [] => []

/-- The authority and path after `file:`. After two slashes comes a host, unless it is a drive
letter; the local host is the same as none. -/
def readFile (text : Segments.Broken) : Except UriError (Authority × UriPath) :=
  match text with
  | c :: d :: rest =>
    if isFileSlash c && isFileSlash d then
      let hostText := Segments.plain (rest.takeWhile fun c => !isFileSlash c)
      let after := rest.dropWhile fun c => !isFileSlash c
      if Segments.isDriveLetter hostText then .ok (fileAt noHost rest)
      else if hostText.isEmpty then .ok (fileAt noHost after)
      else do
        let host ← Host.parse hostText
        if host = .domain ['l', 'o', 'c', 'a', 'l', 'h', 'o', 's', 't'] then
          return fileAt noHost after
        else return fileAt ⟨[], host, none⟩ (dropFileSlash after)
    else .ok (fileAt noHost (dropFileSlash text))
  | _ => .ok (fileAt noHost (dropFileSlash text))

/-- Drops one slash at the start. -/
def dropSlash (kind : Kind) (text : List Char) : List Char :=
  match text with
  | c :: rest => if kind.isSlash c then rest else text
  | [] => []

/-- The authority and path after a network scheme. Slashes before the host do not count. -/
def readNetwork (scheme text : List Char) : Except UriError (Authority × UriPath) := do
  let text := text.dropWhile (Kind.isSlash .network)
  let front := text.takeWhile fun c => !Kind.isSlash .network c
  let after := text.dropWhile fun c => !Kind.isSlash .network c
  let (authority, _) ← readAuthority .network false scheme front
  return (authority, .segments (Segments.ofText .network (dropSlash .network after)))

/-- The authority and path after any other scheme: two slashes announce an authority, one a path of
segments, and none a path without structure. `isLast` says that nothing follows the text. -/
def readPlain (isLast : Bool) (scheme text : List Char) :
    Except UriError (Option Authority × UriPath) :=
  match text with
  | '/' :: '/' :: rest => do
    let front := rest.takeWhile fun c => c != '/'
    let after := rest.dropWhile fun c => c != '/'
    let (authority, more) ← readAuthority .plain (isLast && after.isEmpty) scheme front
    let path :=
      match more ++ after with
      | [] => []
      | c :: rest => Segments.ofText .plain (if c = '/' then rest else c :: rest)
    return (some authority, .segments path)
  | '/' :: rest => .ok (none, .segments (Segments.ofText .plain rest))
  | _ => .ok (none, .rootless (Percent.encodeText Percent.controls text))

/-- The URI a text denotes. -/
def parse (text : String) : Except UriError Uri :=
  let cleaned := clean text.toList
  match splitScheme? (Segments.plain cleaned) with
  | none => .error .noScheme
  | some (scheme, rest) =>
    let kind := kindOf scheme
    let (front, query, fragment) := splitMarks kind rest
    match kind with
    | .file => do
      let broken := (cleaned.dropWhile fun c => c.1 != ':').drop 1
      let (authority, path) ← readFile (broken.takeWhile fun c => !isMark c.1)
      return ⟨scheme, some authority, path, query, fragment⟩
    | .network => do
      let (authority, path) ← readNetwork scheme front
      return ⟨scheme, some authority, path, query, fragment⟩
    | .plain => do
      let (authority, path) ← readPlain (query.isNone && fragment.isNone) scheme front
      return ⟨scheme, authority, path, query, fragment⟩

end Uri

end SessionGate
