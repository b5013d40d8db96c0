import SessionGate.Capability.Overrides
import SessionGate.Capability.Provider

/-!
# The capability document

What the server announces, put together from the providers and the overrides.

- `Registry`: the providers of the families; `Registry.ofList`: those of a list, of which the first
  of a family counts, with `Registry.provider?_ofList`.
- `Document.entry?`: the entry of a family, if it has one.
- `Document.build`: the entries from a list of providers and a table of overrides.
- `Document.toJson`: the entries under their keys.
- `handshakeResult`: the answer to a handshake: the document and who the server is.
-/

namespace SessionGate

/-- A provider for each family, where one is registered. -/
structure Registry where
  provider? : Feature → Option Provider

namespace Registry

/-- Nothing is registered. -/
def empty : Registry := ⟨fun _ => none⟩

/-- Registers a provider. A family that has one keeps it. -/
def register (r : Registry) (p : Provider) : Registry :=
  if (r.provider? p.feature).isSome then r
  else ⟨fun f => if f = p.feature then some p else r.provider? f⟩

/-- The providers of a list, registered one after another. -/
def ofList (providers : List Provider) : Registry :=
  providers.foldl register empty

theorem provider?_register (r : Registry) (p : Provider) (f : Feature) :
    (r.register p).provider? f
      = (r.provider? f).or (if p.feature = f then some p else none) := by
  unfold register
  by_cases hf : p.feature = f
  · subst hf
    cases hr : r.provider? p.feature <;> simp [hr]
  · rw [if_neg hf, Option.or_none]
    split
    · rfl
    · exact if_neg (Ne.symm hf)

theorem provider?_foldl_register (r : Registry) (providers : List Provider) (f : Feature) :
    (providers.foldl register r).provider? f
      = (r.provider? f).or (providers.find? fun p => p.feature = f) := by
  induction providers generalizing r with
  | nil => simp
  | cons p providers ih =>
    rw [List.foldl_cons, ih, provider?_register, Option.or_assoc, List.find?_cons]
    by_cases hf : p.feature = f <;> simp [hf]

/-- The first provider of a family counts. -/
theorem provider?_ofList (providers : List Provider) (f : Feature) :
    (ofList providers).provider? f = providers.find? fun p => p.feature = f :=
  provider?_foldl_register empty providers f

end Registry

/-- The entries of the families that have one. -/
structure Document where
  entry? : Feature → Option Json

namespace Document

/-- The provider of a list that answers for a family. -/
def providerOf? (providers : List Provider) (f : Feature) : Option Provider :=
  (Registry.ofList providers).provider? f

theorem providerOf?_eq_find? (providers : List Provider) (f : Feature) :
    providerOf? providers f = providers.find? fun p => p.feature = f :=
  Registry.provider?_ofList providers f

theorem mem_of_providerOf?_eq_some {providers : List Provider} {f : Feature} {p : Provider}
    (h : providerOf? providers f = some p) : p ∈ providers := by
  rw [providerOf?_eq_find?] at h
  exact List.mem_of_find?_eq_some h

/-- The entry of an announced family, from its provider's options if it has some. -/
def announced (f : Feature) (options : Option Json) : Json :=
  options.getD (if f.requiresOptions then .empty else .bool true)

/-- The entry of a family that is not announced: `false` where there is a truth-value form. -/
def unannounced (f : Feature) : Option Json :=
  if f.requiresOptions then none else some (.bool false)

/-- Whether a family is announced: as the override says, else as its provider says, else not. -/
def isAnnounced (override : Option Bool) (provider : Option Provider) : Bool :=
  override.getD (provider.any Provider.isEnabled)

/-- The document of these providers under these overrides. A family switched off has no entry. -/
def build (providers : List Provider) (overrides : Overrides) : Document where
  entry? f :=
    let override := overrides.choice f
    let provider := providerOf? providers f
    if override = some false then none
    else if isAnnounced override provider then
      some (announced f (provider.bind Provider.options))
    else unannounced f

/-- The entries under their keys, in the order of the families. -/
def entries (d : Document) : List (String × Json) :=
  Feature.all.filterMap fun f => (d.entry? f).map fun v => (f.key, v)

/-- The document as an object. -/
def toJson (d : Document) : Json :=
  .ofMembers d.entries

end Document

/-- The name the server gives itself. -/
def serverName : String := "erlang-ls"

/-- The version of the server. -/
def serverVersion : String := "0.1.0"

/-- The answer to a handshake. -/
def handshakeResult (d : Document) : Json :=
  .ofMembers [("capabilities", d.toJson),
    ("serverInfo",
      .ofMembers [("name", .string serverName), ("version", .string serverVersion)])]

end SessionGate
