import SessionGate.Capability.Feature

/-!
# Overrides

Switches that a deployment sets on top of what the providers answer.

- `Overrides.none`, `Overrides.standard`: no switch at all; signature help switched off.
- `Overrides.set`: one more switch, in place of an earlier one for the same family.
- `Overrides.entries`: the switches that are set, in the order of the families.
-/

namespace SessionGate

/-- A switch for each family, where one is set: off removes the family from the document, on
announces it whatever its provider says. -/
structure Overrides where
  choice : Feature → Option Bool

namespace Overrides

/-- No switch is set. -/
def none : Overrides := ⟨fun _ => Option.none⟩

/-- Sets the switch of a family. -/
def set (o : Overrides) (f : Feature) (on : Bool) : Overrides :=
  ⟨fun g => if g = f then some on else o.choice g⟩

@[simp] theorem choice_none (f : Feature) : none.choice f = Option.none := rfl

@[simp] theorem choice_set (o : Overrides) (f g : Feature) (on : Bool) :
    (o.set f on).choice g = if g = f then some on else o.choice g := rfl

/-- Signature help stays switched off until its provider is trusted for every client. -/
def standard : Overrides := none.set .signatureHelp false

/-- The switches that are set, in the order of the families. -/
def entries (o : Overrides) : List (Feature × Bool) :=
  Feature.all.filterMap fun f => (o.choice f).map fun on => (f, on)

/-- The table after a list of settings, the later ones winning. -/
def setAll (o : Overrides) (settings : List (Feature × Bool)) : Overrides :=
  settings.foldl (fun o s => o.set s.1 s.2) o

end Overrides

end SessionGate
