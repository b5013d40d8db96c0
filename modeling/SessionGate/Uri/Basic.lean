import SessionGate.Uri.Host

/-!
# URIs

- `Uri`: the parts of an absolute URI, each in its encoded form.
- `Uri.Kind`: how the part after the scheme is read.
- `Uri.pathText`, `Uri.text`: the path, and the whole URI, as written.
-/

namespace SessionGate

namespace Uri

/-- How the part after a scheme is read. -/
inductive Kind where
  /-- The scheme of files on this or another host. -/
  | file
  /-- The schemes that always name a host. -/
  | network
  /-- Every other scheme. -/
  | plain
  deriving DecidableEq

/-- The number that stands for a service of the host, where a network scheme leaves it out. -/
def defaultService? (scheme : List Char) : Option Nat :=
  match String.ofList scheme with
  | "http" | "ws" => some 80
  | "https" | "wss" => some 443
  | "ftp" => some 21
  | _ => none

/-- How the part after this scheme is read. -/
def kindOf (scheme : List Char) : Kind :=
  if scheme = ['f', 'i', 'l', 'e'] then .file
  else if (defaultService? scheme).isSome then .network
  else .plain

/-- Whether backslashes separate like slashes. -/
def Kind.isSlash (kind : Kind) (c : Char) : Bool :=
  c = '/' || (c = '\\' && kind != .plain)

/-- The path of a URI: a text with no structure, or segments, each with a slash before it. -/
inductive UriPath where
  | rootless (text : List Char)
  | segments (items : List (List Char))
  deriving DecidableEq

/-- What stands before the path: who, where, and the number after a colon that names a service of the
host, if it is not the usual one. -/
structure Authority where
  user : List Char
  host : Host
  service : Option Nat
  deriving DecidableEq

end Uri

/-- An absolute URI. -/
structure Uri where
  scheme : List Char
  authority : Option Uri.Authority
  path : Uri.UriPath
  query : Option (List Char)
  fragment : Option (List Char)
  deriving DecidableEq

namespace Uri

/-- Segments with a slash before each. -/
def segmentsText (items : List (List Char)) : List Char :=
  items.flatMap fun s => '/' :: s

/-- The path as written. -/
def pathText (u : Uri) : List Char :=
  match u.path with
  | .rootless text => text
  | .segments items => segmentsText items

/-- Who, where and for which service, as written. -/
def Authority.text (a : Authority) : List Char :=
  let user := if a.user.isEmpty then [] else a.user ++ ['@']
  let service :=
    match a.service with
    | some n => ':' :: Nat.toDigits 10 n
    | none => []
  user ++ a.host.text ++ service

/-- A part after its mark, if there is one. -/
def markedText (mark : Char) : Option (List Char) → List Char
  | some text => mark :: text
  | none => []

/-- The whole URI as written. A path that begins with two slashes is kept apart from a host. -/
def text (u : Uri) : List Char :=
  let front :=
    match u.authority with
    | some a => '/' :: '/' :: a.text
    | none =>
      match u.pathText with
      | '/' :: '/' :: _ => ['/', '.']
      | _ => []
  u.scheme ++ ':' :: front ++ u.pathText ++ markedText '?' u.query ++ markedText '#' u.fragment

/-- The host, where the URI has one. -/
def host? (u : Uri) : Option Host :=
  u.authority.map Authority.host

end Uri

end SessionGate
