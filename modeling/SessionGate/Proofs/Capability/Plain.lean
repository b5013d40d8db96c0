import SessionGate.Proofs.Capability.Entries

/-!
# Documents without options

Where no provider carries options, every entry of a document is made up: a truth value, or an empty
record for the families that have no truth-value form. All of these have the shape that the
announcement asks for, but for one: the record of the executable commands must name the commands.

- `conform_announced`, `conform_commands`: the entries that are made up, family by family.
- `entry?_build_of_plain`: where no provider carries options, there are no others.
- `typed_build_of_plain`: which of these documents have the shape of the announcement, exactly.
- `typed_commandless`: the smallest that do not.
-/

namespace SessionGate

open Shape

namespace Document

/-- The entry that is made up for an announced family is in normal form for all but one. -/
theorem conform_announced {f : Feature} (hf : f ≠ .executeCommand) :
    f.shape.conform (announced f none) = .ok (announced f none) := by
  cases f with
  | executeCommand => exact absurd rfl hf
  | _ => rfl

/-- An empty record of executable commands lacks the commands. -/
theorem conform_commands :
    Feature.executeCommand.shape.conform (announced .executeCommand none)
      = .error (.missingField "commands") := rfl

theorem conform_unannounced {f : Feature} {v : Json} (h : unannounced f = some v) :
    f.shape.conform v = .ok v := by
  cases f <;> cases h <;> rfl

/-- No entry that is made up counts as absent. -/
theorem countsAsAbsent_announced (f : Feature) :
    countsAsAbsent .optional f.shape (announced f none) = false := by
  cases f <;> rfl

theorem countsAsAbsent_unannounced {f : Feature} {v : Json} (h : unannounced f = some v) :
    countsAsAbsent .optional f.shape v = false := by
  cases f <;> cases h <;> rfl

variable {providers : List Provider}

/-- Without options an entry is the one made up for the family, announced or not. -/
theorem entry?_build_of_plain (hplain : ∀ p ∈ providers, p.options = none) (overrides : Overrides)
    {f : Feature} {v : Json} (hv : entry? (build providers overrides) f = some v) :
    Announces (providerOf? providers f) (overrides.choice f) ∧ v = announced f none ∨
      ¬Announces (providerOf? providers f) (overrides.choice f) ∧ unannounced f = some v := by
  rw [← isEntry_iff] at hv
  generalize hentry : some v = entry at hv
  cases hv with
  | off => cases hentry
  | options p w announces counts given =>
    have hnone := hplain p (mem_of_providerOf?_eq_some counts)
    cases hnone.symm.trans given
  | plain announces => exact .inl ⟨announces, Option.some.inj hentry⟩
  | unannounced _ silent => exact .inr ⟨silent, rfl⟩

theorem isNormal_build_of_plain (hplain : ∀ p ∈ providers, p.options = none)
    (overrides : Overrides)
    (hcommands : ¬Announces (providerOf? providers .executeCommand)
      (overrides.choice .executeCommand)) :
    (build providers overrides).IsNormal := by
  intro f v hv
  rcases entry?_build_of_plain hplain overrides hv with ⟨hannounces, rfl⟩ | ⟨-, hsilent⟩
  · have hf : f ≠ .executeCommand := fun heq => hcommands (heq ▸ hannounces)
    exact ⟨conform_announced hf, countsAsAbsent_announced f⟩
  · exact ⟨conform_unannounced hsilent, countsAsAbsent_unannounced hsilent⟩

/-- Where the executable commands are announced without options, nothing else is wrong. -/
theorem typed_build_of_commands (hplain : ∀ p ∈ providers, p.options = none)
    (overrides : Overrides)
    (hcommands : Announces (providerOf? providers .executeCommand)
      (overrides.choice .executeCommand)) :
    (build providers overrides).typed = .error (.missingField "commands") := by
  refine typed_eq_error ⟨.executeCommand, announced .executeCommand none, ?_, ?_, ?_⟩ ?_
  · have hnone : ∀ p, providerOf? providers .executeCommand = some p → p.options = none :=
      fun p hp => hplain p (mem_of_providerOf?_eq_some hp)
    exact isEntry_iff.mp (.plain hcommands hnone)
  · exact countsAsAbsent_announced _
  · exact conform_commands
  · intro f v e hv he
    rcases entry?_build_of_plain hplain overrides hv with ⟨-, rfl⟩ | ⟨-, hsilent⟩
    · by_cases hf : f = .executeCommand
      · subst hf
        exact Except.error.inj (he.symm.trans conform_commands)
      · cases he.symm.trans (conform_announced hf)
    · cases he.symm.trans (conform_unannounced hsilent)

end Document

/-- **Documents without options.** Where no provider carries options, the document has the shape of
the announcement, and is its own normal form, exactly if the executable commands are not announced.
Where they are, the document is refused for want of the commands. -/
theorem typed_build_of_plain {providers : List Provider}
    (hplain : ∀ p ∈ providers, p.options = none) (overrides : Overrides) :
    ((Document.build providers overrides).typed
        = .ok (Document.build providers overrides).toJson ↔
      ¬Document.Announces (Document.providerOf? providers .executeCommand)
        (overrides.choice .executeCommand)) ∧
    ((Document.build providers overrides).typed = .error (.missingField "commands") ↔
      Document.Announces (Document.providerOf? providers .executeCommand)
        (overrides.choice .executeCommand)) := by
  by_cases hcommands : Document.Announces (Document.providerOf? providers .executeCommand)
      (overrides.choice .executeCommand)
  · rw [Document.typed_build_of_commands hplain overrides hcommands]
    exact ⟨iff_of_false nofun (not_not_intro hcommands), iff_of_true rfl hcommands⟩
  · have htyped := Document.conform_toJson
      (Document.isNormal_build_of_plain hplain overrides hcommands)
    rw [Document.typed, htyped]
    exact ⟨iff_of_true rfl hcommands, iff_of_false nofun hcommands⟩

/-- A provider that only switches a family on is enough where there is a truth-value form. -/
theorem typed_build_of_enabled :
    (∀ p ∈ [Provider.enabled .hover, .disabled .rename, .enabled .codeLens], p.options = none) ∧
      ¬Document.Announces (Document.providerOf?
          [Provider.enabled .hover, .disabled .rename, .enabled .codeLens] .executeCommand)
        (Overrides.none.choice .executeCommand) ∧
      (Document.build [Provider.enabled .hover, .disabled .rename, .enabled .codeLens] .none).typed
        = .ok (Document.build
          [Provider.enabled .hover, .disabled .rename, .enabled .codeLens] .none).toJson := by
  have hplain : ∀ p ∈ [Provider.enabled .hover, .disabled .rename, .enabled .codeLens],
      p.options = none := by
    simp [Provider.enabled, Provider.disabled]
  have hcommands : ¬Document.Announces (Document.providerOf?
        [Provider.enabled .hover, .disabled .rename, .enabled .codeLens] .executeCommand)
      (Overrides.none.choice .executeCommand) := by
    rw [← Document.isAnnounced_iff]
    decide
  exact ⟨hplain, hcommands, (typed_build_of_plain hplain .none).1.mpr hcommands⟩

/-- Executable commands that a provider without options announces, and such that only a switch
announces, make a document that has not the shape of the announcement. -/
theorem typed_commandless :
    ((∀ p ∈ [Provider.enabled .executeCommand], p.options = none) ∧
        ¬∃ v, (Document.build [.enabled .executeCommand] .none).typed = .ok v) ∧
      ¬∃ v, (Document.build [] (Overrides.none.set .executeCommand true)).typed = .ok v := by
  have hprovided : (Document.build [.enabled .executeCommand] .none).typed.toBool = false := by
    decide
  have hswitched :
      (Document.build [] (Overrides.none.set .executeCommand true)).typed.toBool = false := by
    decide
  refine ⟨⟨by simp [Provider.enabled], ?_⟩, ?_⟩
  · rintro ⟨v, hv⟩
    rw [hv] at hprovided
    cases hprovided
  · rintro ⟨v, hv⟩
    rw [hv] at hswitched
    cases hswitched

end SessionGate
