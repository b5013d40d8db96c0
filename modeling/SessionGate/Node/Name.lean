import SessionGate.Session.Root

/-!
# Names of analysis nodes

- `NodeName.isNameChar`: the characters a name consists of.
- `NodeName.forRoot`: the short name of the node for a workspace root.
- `NodeName.arguments`: the arguments the node's program is started with.
-/

namespace SessionGate

namespace NodeName

/-- ASCII letters, digits and the underscore. -/
def isNameChar (c : Char) : Bool :=
  c.isAlphanum || c = '_'

/-- A text with an underscore in the place of every other character. -/
def clean (text : List Char) : List Char :=
  text.map fun c => if isNameChar c then c else '_'

/-- What stands in a name for a root without a last name. -/
def fallback : List Char := ['w', 'o', 'r', 'k', 's', 'p', 'a', 'c', 'e']

/-- The name of the node of an application for a root: both joined by an underscore. -/
def forRoot (app : String) (root : String) : String :=
  let base := Root.basename root
  String.ofList (clean (app.toList ++ '_' :: if base.isEmpty then fallback else base))

/-- The arguments of the node's program. -/
def arguments (name : String) : List String :=
  ["-sname", name, "-hidden", "-noinput"]

end NodeName

/-- The application that names of nodes begin with. -/
def applicationName : String := "erlang_ls"

end SessionGate
