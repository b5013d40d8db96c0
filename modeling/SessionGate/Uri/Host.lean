import SessionGate.Uri.Domain
import SessionGate.Uri.Error
import SessionGate.Uri.Percent

/-!
# Hosts

The host of a URI is a domain, an address, or nothing.

- `Uri.Host.parse`: the host of a scheme that names hosts on a network, or of a file URI: a domain
  in lower case and in ASCII, or an address in one of its notations.
- `Uri.Host.parsePlain`: the host of any other scheme, which is kept as it is.
- `Uri.Host.text`: how a host is written.
-/

namespace SessionGate

namespace Uri

/-- The host of a URI. -/
inductive Host where
  | empty
  | domain (name : List Char)
  | ipv4 (address : Nat)
  | ipv6 (groups : List Nat)
  deriving DecidableEq

namespace Host

/-! ## Addresses of four octets -/

/-- A number of an address: decimal, octal after `0`, hexadecimal after `0x`; `none` for what is no
number. -/
def number? (text : List Char) : Option Nat :=
  let (base, digits) :=
    match text with
    | '0' :: 'x' :: rest => (16, rest)
    | '0' :: 'X' :: rest => (16, rest)
    | '0' :: c :: rest => (8, c :: rest)
    | rest => (10, rest)
  if text.isEmpty then none
  else
    digits.foldl
      (fun acc c =>
        match acc, Percent.value? (UInt8.ofNat c.toNat) with
        | some n, some d => if d < base && c.toNat < 128 then some (n * base + d) else none
        | _, _ => none)
      (some 0)

/-- Whether a domain must be an address: its last label, a final empty one apart, is a number. -/
def endsInNumber (labels : List (List Char)) : Bool :=
  let last :=
    match labels.reverse with
    | [] :: l :: _ => some l
    | [] :: [] => none
    | l :: _ => some l
    | [] => none
  match last with
  | none => false
  | some l => (!l.isEmpty && l.all Char.isDigit) || (number? l).isSome

/-- The address that labels denote. The last number fills all octets that are left. -/
def parseIpv4 (labels : List (List Char)) : Except UriError Host :=
  let labels := if labels.getLast? = some [] then labels.dropLast else labels
  if 4 < labels.length then .error .badIpv4
  else
    match labels.mapM number? with
    | none => .error .badIpv4
    | some numbers =>
      match numbers.reverse with
      | [] => .error .badIpv4
      | last :: before =>
        let octets := before.reverse
        let weight := Nat.pow 256 (4 - octets.length)
        if weight ≤ last || octets.any fun n => 255 < n then .error .badIpv4
        else
          let high := octets.foldl (fun acc n => acc * 256 + n) 0
          .ok (.ipv4 (high * weight + last))

/-! ## Addresses of eight groups -/

/-- A group of up to four hexadecimal digits. -/
def group? (text : List Char) : Option Nat :=
  if text.isEmpty || 4 < text.length then none
  else
    text.foldl
      (fun acc c =>
        match acc, Percent.value? (UInt8.ofNat c.toNat) with
        | some n, some d => if c.toNat < 128 then some (n * 16 + d) else none
        | _, _ => none)
      (some 0)

/-- An octet in decimal, without leading zeros. -/
def octet? (text : List Char) : Option Nat :=
  if text.isEmpty || !text.all Char.isDigit || (1 < text.length && text.head? = some '0') then none
  else
    let n := text.foldl (fun acc c => acc * 10 + (c.toNat - 48)) 0
    if n ≤ 255 then some n else none

/-- The two groups of an address of four octets at the end. -/
def embedded? (text : List Char) : Option (List Nat) :=
  match (text.splitOn '.').mapM octet? with
  | some [a, b, c, d] => some [a * 256 + b, c * 256 + d]
  | _ => none

/-- The groups of one side of a gap; four octets may take the place of the last two. -/
def groups? (isLast : Bool) (text : List Char) : Option (List Nat) :=
  if text.isEmpty then some []
  else
    let parts := text.splitOn ':'
    match parts.reverse with
    | [] => some []
    | last :: before =>
      match before.reverse.mapM group? with
      | none => none
      | some gs =>
        if isLast && last.contains '.' then (embedded? last).map fun e => gs ++ e
        else (group? last).map fun g => gs ++ [g]

/-- Cuts a text at its first `::`. -/
def gap? : List Char → Option (List Char × List Char)
  | ':' :: ':' :: rest => some ([], rest)
  | c :: rest => (gap? rest).map fun (before, after) => (c :: before, after)
  | [] => none

/-- The address in brackets. A gap stands for one or more groups of zeros. -/
def parseIpv6 (text : List Char) : Except UriError Host :=
  match gap? text with
  | none =>
    match groups? true text with
    | some gs => if gs.length = 8 then .ok (.ipv6 gs) else .error .badIpv6
    | none => .error .badIpv6
  | some (before, after) =>
    match groups? false before, groups? true after with
    | some front, some back =>
      let used := front.length + back.length
      if used < 8 then .ok (.ipv6 (front ++ List.replicate (8 - used) 0 ++ back))
      else .error .badIpv6
    | _, _ => .error .badIpv6

/-! ## Domains -/

/-- The labels of a domain in ASCII. -/
def labels (text : List Char) : Except UriError (List (List Char)) :=
  match (Utf8.decode? (Percent.decodeText text)).bind Domain.labels? with
  | some ls => .ok ls
  | none => .error .badDomain

/-- Labels with dots between them. -/
def joinLabels (labels : List (List Char)) : List Char :=
  List.intercalate ['.'] labels

/-- The host of a network scheme or of a file URI. -/
def parse (text : List Char) : Except UriError Host :=
  match text with
  | '[' :: rest =>
    if rest.getLast? = some ']' then parseIpv6 rest.dropLast else .error .badIpv6
  | _ => do
    let ls ← labels text
    let name := joinLabels ls
    if name.isEmpty then .error .emptyHost
    else if endsInNumber ls then parseIpv4 ls
    else return .domain name

/-- The host of any other scheme. -/
def parsePlain (text : List Char) : Except UriError Host :=
  match text with
  | [] => .ok .empty
  | '[' :: rest =>
    if rest.getLast? = some ']' then parseIpv6 rest.dropLast else .error .badIpv6
  | _ =>
    if text.any fun c =>
        ['\x00', '\t', '\n', '\r', ' ', '#', '/', ':', '<', '>', '?', '@', '[', '\\', ']', '^',
          '|'].contains c then
      .error .badHostCharacter
    else .ok (.domain (Percent.encodeText Percent.controls text))

/-! ## Text -/

/-- The place and length of the first longest run of zero groups. -/
def zeroRun : List Nat → Nat → Nat × Nat
  | [], _ => (0, 0)
  | g :: rest, place =>
    let here := ((g :: rest).takeWhile fun n => n = 0).length
    let (p, l) := zeroRun rest (place + 1)
    if here ≠ 0 && l ≤ here then (place, here) else (p, l)

/-- Groups in hexadecimal with colons between them. -/
def groupsText (groups : List Nat) : List Char :=
  List.intercalate [':'] (groups.map (Nat.toDigits 16))

/-- How a host is written. The longest run of at least two zero groups is a gap. -/
def text : Host → List Char
  | .empty => []
  | .domain name => name
  | .ipv4 n =>
    List.intercalate ['.']
      ([n / 16777216, n / 65536 % 256, n / 256 % 256, n % 256].map (Nat.toDigits 10))
  | .ipv6 groups =>
    let (place, length) := zeroRun groups 0
    let inner :=
      if length < 2 then groupsText groups
      else groupsText (groups.take place) ++ [':', ':'] ++ groupsText (groups.drop (place + length))
    ['['] ++ inner ++ [']']

end Host

end Uri

end SessionGate
