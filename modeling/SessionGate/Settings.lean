import SessionGate.Capability.Overrides
import SessionGate.CommandLine.Options

/-!
# Settings of the server

What is fixed before any client connects.

- `NodeSetting`: whether an analysis node is started, and by which program.
- `Settings`: overrides and node.
- `Options.settings`, `Options.choice_settings`: the settings that options stand for, and their
  switches.
-/

namespace SessionGate

/-- Whether an analysis node is started, and by which program. -/
structure NodeSetting where
  isEnabled : Bool := true
  program : String := "erl"
  deriving DecidableEq

/-- What is fixed before any client connects. -/
structure Settings where
  overrides : Overrides := .standard
  node : NodeSetting := {}

/-- The settings that options stand for: signature help is announced only if it is asked for. -/
def Options.settings (o : Options) : Settings where
  overrides :=
    if o.signatureHelp then Overrides.standard.set .signatureHelp true else .standard
  node := ⟨!o.withoutNode, o.nodeProgram⟩

/-- Options set one switch, that of signature help. -/
theorem Options.choice_settings (o : Options) (f : Feature) :
    o.settings.overrides.choice f = if f = .signatureHelp then some o.signatureHelp else none := by
  unfold settings
  cases o.signatureHelp with
  | false => rfl
  | true =>
    simp only [↓reduceIte, Overrides.choice_set]
    split
    · rfl
    · next hf => exact if_neg hf

end SessionGate
