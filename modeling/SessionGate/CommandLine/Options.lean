/-!
# The command line

- `Options`: what the arguments of the program say.
- `Refusal`: why they are not accepted, or what they ask for instead of a run.
- `Options.parse`: the options of an argument list, read from left to right.

An option with a value takes it after an equals sign or from the next argument, unless that begins
with a hyphen. Such an option is settled only when the next one is met or the arguments end; what is
wrong with it comes to light then. An argument that is not known is refused at once.

Arguments are texts. A system may hand a program octets that are no text, which the directory of the
log accepts and the options read here do not have.
-/

namespace SessionGate

/-- What the arguments of the program say. -/
structure Options where
  logDirectory : Option String := none
  logLevel : Option String := none
  withoutNode : Bool := false
  nodeProgram : String := "erl"
  signatureHelp : Bool := false
  deriving DecidableEq

/-- Why arguments are not accepted, or what they ask for instead of a run. -/
inductive Refusal where
  | unknownArgument
  /-- A value is missing or must not be empty. -/
  | invalidValue
  /-- An option is repeated. -/
  | conflict
  /-- A value is given to an option that takes none. -/
  | unexpectedValue
  | help
  | version
  deriving DecidableEq

/-- The exit code that follows. -/
def Refusal.exitCode : Refusal → Int
  | help | version => 0
  | _ => 2

namespace CommandLine

/-- The options. -/
inductive Name where
  | logDirectory
  | logLevel
  | withoutNode
  | nodeProgram
  | signatureHelp
  | help
  | version
  deriving DecidableEq

/-- The option of a long name. -/
def Name.ofLong? : List Char → Option Name
  | text =>
    match String.ofList text with
    | "log-dir" => some logDirectory
    | "log-level" => some logLevel
    | "no-node" => some withoutNode
    | "node-program" => some nodeProgram
    | "enable-signature-help" => some signatureHelp
    | "help" => some help
    | "version" => some version
    | _ => none

/-- Whether an option takes a value. -/
def Name.takesValue : Name → Bool
  | logDirectory | logLevel | nodeProgram => true
  | _ => false

/-- An argument by its form. -/
inductive Argument where
  /-- The mark after which nothing is an option. -/
  | separator
  /-- Two hyphens, a name, and what follows an equals sign. -/
  | long (name : List Char) (value : Option String)
  /-- A hyphen and letters. -/
  | short (first : Char)
  /-- Anything else. -/
  | plain (text : String)

/-- The form of an argument. A single hyphen is not special. -/
def Argument.ofString (argument : String) : Argument :=
  match argument.toList with
  | ['-', '-'] => separator
  | '-' :: '-' :: rest =>
    let name := rest.takeWhile fun c => c != '='
    match rest.dropWhile fun c => c != '=' with
    | _ :: value => long name (some (String.ofList value))
    | [] => long name none
  | '-' :: c :: _ => short c
  | _ => plain argument

/-- What has been read: the options that are settled, which of them were given, and the option that
is not settled yet, with its value once that has been met. -/
structure Reading where
  options : Options
  given : List Name
  pending : Option (Name × Option String)

/-- Nothing has been read. -/
def Reading.start : Reading := ⟨{}, [], none⟩

/-- Sets an option to a value; one that takes none is switched on. -/
def assign (o : Options) (name : Name) (value : String) : Options :=
  match name with
  | .logDirectory => { o with logDirectory := some value }
  | .logLevel => { o with logLevel := some value }
  | .withoutNode => { o with withoutNode := true }
  | .nodeProgram => { o with nodeProgram := value }
  | .signatureHelp => { o with signatureHelp := true }
  | .help | .version => o

/-- Settles an option: it must not be given twice, and a directory must not be empty. -/
def settleOption (r : Reading) (name : Name) (value : String) : Except Refusal Reading :=
  if r.given.contains name then .error .conflict
  else if name = .logDirectory && value.isEmpty then .error .invalidValue
  else .ok { r with options := assign r.options name value, given := name :: r.given }

/-- Settles the option that is not settled yet, if any. -/
def settlePending (r : Reading) : Except Refusal Reading :=
  match r.pending with
  | none => .ok r
  | some (_, none) => .error .invalidValue
  | some (name, some value) => settleOption { r with pending := none } name value

/-- Takes an option with its value, or without one where it takes none. -/
def take (r : Reading) (name : Name) (value : String) : Except Refusal Reading := do
  let r ← settlePending r
  match name with
  | .help => throw .help
  | .version => throw .version
  | _ => settleOption r name value

/-- One argument that may be an option. -/
def readArgument (r : Reading) : Argument → Except Refusal Reading
  | .separator => .ok r
  | .long text value =>
    match Name.ofLong? text with
    | none => .error .unknownArgument
    | some name =>
      match name.takesValue, value with
      | true, some v => take r name v
      | true, none => do
        let r ← settlePending r
        return { r with pending := some (name, none) }
      | false, some _ => .error .unexpectedValue
      | false, none => take r name ""
  | .short c =>
    if c = 'h' then take r .help ""
    else if c = 'V' then take r .version ""
    else .error .unknownArgument
  | .plain text =>
    match r.pending with
    | some (name, none) => .ok { r with pending := some (name, some text) }
    | _ => .error .unknownArgument

/-- The arguments one after another. After the separator there must be none. -/
def readAll (r : Reading) : List String → Except Refusal Reading
  | [] => settlePending r
  | argument :: rest =>
    match Argument.ofString argument with
    | .separator => if rest.isEmpty then settlePending r else .error .unknownArgument
    | a => do
      let r ← readArgument r a
      readAll r rest

end CommandLine

/-- The options of an argument list. -/
def Options.parse (arguments : List String) : Except Refusal Options :=
  (CommandLine.readAll .start arguments).map CommandLine.Reading.options

end SessionGate
