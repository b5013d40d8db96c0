import Mathlib.Data.List.Basic
import SessionGate.Proofs.Capability.Announcement

/-!
# The capability document, key by key

A document is put together from three things that know nothing of each other: the providers of a
list, the answers of each of them, and the settings of an override table. What it holds under a key
is said here of these alone, by relations that do not mention how the document is built.

- `Provider.IsFirst`: the provider of a list that counts for a family, with `isFirst_iff`.
- `Overrides.IsLast`: the switch of a family after settings, with `isLast_iff`.
- `Document.IsEntry`: the entry that a provider and a switch call for, with `isEntry_iff`.
- `Document.exists_feature_of_mem_members`: every member of the object is the entry of a family.
- `build_key_by_key`: every document.
-/

namespace SessionGate

/-! ## The provider that counts -/

/-- The provider that counts for a family: the first of the list that answers for it, if there is
one. -/
inductive Provider.IsFirst (providers : List Provider) (f : Feature) : Option Provider → Prop where
  | found (before : List Provider) (p : Provider) (after : List Provider)
      (cut : providers = before ++ p :: after) (here : p.feature = f)
      (earlier : ∀ q ∈ before, q.feature ≠ f) : IsFirst providers f (some p)
  | missing (absent : ∀ p ∈ providers, p.feature ≠ f) : IsFirst providers f none

namespace Document

theorem isFirst_iff {providers : List Provider} {f : Feature} {provider : Option Provider} :
    Provider.IsFirst providers f provider ↔ providerOf? providers f = provider := by
  rw [providerOf?_eq_find?]
  constructor
  · intro h
    cases h with
    | found before p after cut here earlier =>
      rw [List.find?_eq_some_iff_append]
      refine ⟨decide_eq_true here, before, after, cut, fun q hq => ?_⟩
      rw [decide_eq_false (earlier q hq)]
      rfl
    | missing absent =>
      rw [List.find?_eq_none]
      exact fun p hp => by simpa using absent p hp
  · rintro rfl
    cases hfind : providers.find? fun p => p.feature = f with
    | none =>
      rw [List.find?_eq_none] at hfind
      exact .missing fun p hp => by simpa using hfind p hp
    | some p =>
      obtain ⟨here, before, after, cut, earlier⟩ := List.find?_eq_some_iff_append.mp hfind
      exact .found before p after cut (by simpa using here) fun q hq => by simpa using earlier q hq

/-- A provider that does not come first for a family does not count for it. -/
theorem providerOf?_insert {before : List Provider} {q : Provider} {f : Feature}
    (hq : q.feature ≠ f ∨ ∃ p ∈ before, p.feature = f) (after : List Provider) :
    providerOf? (before ++ q :: after) f = providerOf? (before ++ after) f := by
  rw [providerOf?_eq_find?, providerOf?_eq_find?, List.find?_append, List.find?_append]
  rcases hq with hother | ⟨p, hp, hfirst⟩
  · rw [List.find?_cons_of_neg (by simpa using hother)]
  · have hfound : (before.find? fun p => p.feature = f).isSome := by
      rw [List.find?_isSome]
      exact ⟨p, hp, decide_eq_true hfirst⟩
    rw [Option.or_of_isSome hfound, Option.or_of_isSome hfound]

end Document

/-! ## The switch that counts -/

namespace Overrides

/-- The switch of a family after settings made one after another on a table: the last one made for
the family, or that of the table if there is none. -/
inductive IsLast (base : Overrides) (settings : List (Feature × Bool)) (f : Feature) :
    Option Bool → Prop where
  | written (before : List (Feature × Bool)) (on : Bool) (after : List (Feature × Bool))
      (cut : settings = before ++ (f, on) :: after) (later : ∀ s ∈ after, s.1 ≠ f) :
      IsLast base settings f (some on)
  | kept (absent : ∀ s ∈ settings, s.1 ≠ f) : IsLast base settings f (base.choice f)

@[simp] theorem setAll_cons (base : Overrides) (s : Feature × Bool)
    (settings : List (Feature × Bool)) :
    base.setAll (s :: settings) = (base.set s.1 s.2).setAll settings := rfl

theorem setAll_append (base : Overrides) (before after : List (Feature × Bool)) :
    base.setAll (before ++ after) = (base.setAll before).setAll after :=
  List.foldl_append ..

/-- Settings for other families leave a switch alone. -/
theorem choice_setAll_of_forall_ne {f : Feature} (base : Overrides)
    {settings : List (Feature × Bool)} (h : ∀ s ∈ settings, s.1 ≠ f) :
    (base.setAll settings).choice f = base.choice f := by
  induction settings generalizing base with
  | nil => rfl
  | cons s settings ih =>
    rw [List.forall_mem_cons] at h
    rw [setAll_cons, ih _ h.2, choice_set, if_neg fun heq => h.1 heq.symm]

theorem choice_setAll_of_last (base : Overrides) (before : List (Feature × Bool)) (f : Feature)
    (on : Bool) {after : List (Feature × Bool)} (h : ∀ s ∈ after, s.1 ≠ f) :
    (base.setAll (before ++ (f, on) :: after)).choice f = some on := by
  rw [setAll_append, setAll_cons, choice_setAll_of_forall_ne _ h, choice_set, if_pos rfl]

theorem isLast_choice_setAll (base : Overrides) (settings : List (Feature × Bool)) (f : Feature) :
    IsLast base settings f ((base.setAll settings).choice f) := by
  induction settings generalizing base with
  | nil => exact .kept (by simp)
  | cons s settings ih =>
    rw [setAll_cons]
    specialize ih (base.set s.1 s.2)
    generalize ((base.set s.1 s.2).setAll settings).choice f = switch at ih
    cases ih with
    | written before on after cut later =>
      exact .written (s :: before) on after (congrArg (s :: ·) cut) later
    | kept absent =>
      -- no setting that follows is for this family, so this one counts if it is for the family
      rw [choice_set]
      split
      · next heq => exact .written [] s.2 settings (by rw [heq]; rfl) absent
      · next hne => exact .kept (List.forall_mem_cons.mpr ⟨fun heq => hne heq.symm, absent⟩)

theorem isLast_iff {base : Overrides} {settings : List (Feature × Bool)} {f : Feature}
    {switch : Option Bool} :
    IsLast base settings f switch ↔ (base.setAll settings).choice f = switch := by
  constructor
  · intro h
    cases h with
    | written before on after cut later => rw [cut, choice_setAll_of_last base before f on later]
    | kept absent => exact choice_setAll_of_forall_ne base absent
  · rintro rfl
    exact isLast_choice_setAll base settings f

/-- A setting that does not come last for a family does not count for it. -/
theorem choice_setAll_insert (base : Overrides) (before : List (Feature × Bool))
    {s : Feature × Bool} {after : List (Feature × Bool)} {f : Feature}
    (hs : s.1 ≠ f ∨ ∃ t ∈ after, t.1 = f) :
    (base.setAll (before ++ s :: after)).choice f
      = (base.setAll (before ++ after)).choice f := by
  rw [setAll_append, setAll_append, setAll_cons]
  -- what follows either sets the switch itself or leaves it as it finds it
  have hlast := isLast_choice_setAll ((base.setAll before).set s.1 s.2) after f
  generalize (((base.setAll before).set s.1 s.2).setAll after).choice f = switch at hlast
  cases hlast with
  | written us on vs cut later => rw [cut, choice_setAll_of_last _ us f on later]
  | kept absent =>
    rcases hs with hother | ⟨t, ht, hf⟩
    · rw [choice_setAll_of_forall_ne _ absent, choice_set, if_neg fun heq => hother heq.symm]
    · exact absurd hf (absent t ht)

end Overrides

/-! ## The entry that they call for -/

namespace Document

/-- A family is announced if it is switched on, or if it is not switched and its provider announces
it. -/
def Announces (provider : Option Provider) (switch : Option Bool) : Prop :=
  switch = some true ∨ switch = none ∧ ∃ p, provider = some p ∧ p.isEnabled = true

/-- What the entry of a family is, from the provider and the switch that count for it. -/
inductive IsEntry (f : Feature) (provider : Option Provider) (switch : Option Bool) :
    Option Json → Prop where
  /-- A family that is switched off has none. -/
  | off (switched : switch = some false) : IsEntry f provider switch none
  /-- The options of the provider are taken as they are, also if only the switch announces it. -/
  | options (p : Provider) (v : Json) (announced : Announces provider switch)
      (counts : provider = some p) (given : p.options = some v) :
      IsEntry f provider switch (some v)
  /-- Without options the entry is made up: an empty record where there is no truth-value form. -/
  | plain (announced : Announces provider switch)
      (given : ∀ p, provider = some p → p.options = none) :
      IsEntry f provider switch (some (if f.requiresOptions then .empty else .bool true))
  /-- A family that is not announced has an entry only where there is a truth-value form. -/
  | unannounced (switched : switch ≠ some false) (silent : ¬Announces provider switch) :
      IsEntry f provider switch (if f.requiresOptions then none else some (.bool false))

theorem isAnnounced_iff {provider : Option Provider} {switch : Option Bool} :
    isAnnounced switch provider = true ↔ Announces provider switch := by
  unfold isAnnounced Announces
  cases switch with
  | some on => cases on <;> simp
  | none => cases provider <;> simp

theorem Announces.not_off {provider : Option Provider} {switch : Option Bool}
    (h : Announces provider switch) : switch ≠ some false := by
  rcases h with hon | ⟨hunset, -⟩
  · rw [hon]
    nofun
  · rw [hunset]
    nofun

theorem isEntry_iff {providers : List Provider} {overrides : Overrides} {f : Feature}
    {entry : Option Json} :
    IsEntry f (providerOf? providers f) (overrides.choice f) entry ↔
      entry? (build providers overrides) f = entry := by
  show _ ↔ (if overrides.choice f = some false then none
    else if isAnnounced (overrides.choice f) (providerOf? providers f) then
      some (announced f ((providerOf? providers f).bind Provider.options))
    else unannounced f) = entry
  generalize overrides.choice f = switch
  generalize providerOf? providers f = provider
  constructor
  · intro h
    cases h with
    | off switched => rw [if_pos switched]
    | options p v announces counts given =>
      rw [if_neg announces.not_off, if_pos (isAnnounced_iff.mpr announces), counts,
        Option.bind_some, given]
      rfl
    | plain announces given =>
      have hnone : provider.bind Provider.options = none :=
        Option.bind_eq_none_iff.mpr given
      rw [if_neg announces.not_off, if_pos (isAnnounced_iff.mpr announces), hnone]
      rfl
    | unannounced switched silent =>
      rw [if_neg switched, if_neg (mt isAnnounced_iff.mp silent)]
      rfl
  · rintro rfl
    split
    · next hoff => exact .off hoff
    · next hnot =>
      split
      · next hannounced =>
        have hannounces := isAnnounced_iff.mp hannounced
        cases hoptions : provider.bind Provider.options with
        | none => exact .plain hannounces (Option.bind_eq_none_iff.mp hoptions)
        | some v =>
          obtain ⟨p, hp, hv⟩ := Option.bind_eq_some_iff.mp hoptions
          exact .options p v hannounces hp hv
      · next hsilent => exact .unannounced hnot (mt isAnnounced_iff.mpr hsilent)

/-! ## The document as an object -/

theorem nodup_keys_members (d : Document) : (d.members.map Prod.fst).Nodup := by
  have hnone : Json.Members.IsOrdered [] := List.Pairwise.nil
  exact (hnone.insertAll d.entries).nodup_keys

theorem exists_feature_of_mem_entries {d : Document} {m : String × Json} (h : m ∈ d.entries) :
    ∃ f : Feature, f.key = m.1 := by
  obtain ⟨f, -, hf⟩ := List.mem_filterMap.mp h
  obtain ⟨v, -, rfl⟩ := Option.map_eq_some_iff.mp hf
  exact ⟨f, rfl⟩

/-- Every member of the object that a document is written as is the entry of a family. -/
theorem exists_feature_of_mem_members {d : Document} {m : String × Json} (h : m ∈ d.members) :
    ∃ f : Feature, f.key = m.1 := by
  rcases Json.Members.mem_of_mem_insertAll h with hentry | hnone
  · exact exists_feature_of_mem_entries hentry
  · cases hnone

theorem get?_toJson (d : Document) (f : Feature) : d.toJson.get? f.key = d.entry? f :=
  d.get?_members f

theorem get?_toJson_of_forall_ne {key : String} (d : Document) (h : ∀ f : Feature, f.key ≠ key) :
    d.toJson.get? key = none := by
  refine Json.Members.get?_insertAll_of_not_mem d.entries [] fun hmem => ?_
  obtain ⟨m, hm, rfl⟩ := List.mem_map.mp hmem
  obtain ⟨f, hf⟩ := exists_feature_of_mem_entries hm
  exact h f hf

/-- Documents with the same entries for a key hold the same under it. -/
theorem get?_toJson_congr {d e : Document} {key : String}
    (h : ∀ f : Feature, f.key = key → d.entry? f = e.entry? f) :
    d.toJson.get? key = e.toJson.get? key := by
  by_cases hkey : ∃ f : Feature, f.key = key
  · obtain ⟨f, rfl⟩ := hkey
    rw [get?_toJson, get?_toJson, h f rfl]
  · have hnone : ∀ f : Feature, f.key ≠ key := fun f hf => hkey ⟨f, hf⟩
    rw [get?_toJson_of_forall_ne d hnone, get?_toJson_of_forall_ne e hnone]

/-- An entry depends on the provider and the switch that count for its family, and on nothing
else. -/
theorem get?_toJson_build_congr {providers providers' : List Provider}
    {overrides overrides' : Overrides} {f : Feature}
    (hproviders : providerOf? providers f = providerOf? providers' f)
    (hswitch : overrides.choice f = overrides'.choice f) :
    (build providers overrides).toJson.get? f.key
      = (build providers' overrides').toJson.get? f.key := by
  rw [get?_toJson, get?_toJson, ← isEntry_iff, hproviders, hswitch, isEntry_iff]

end Document

/-- **The document, key by key.** The document of any providers, under any table after any settings,
is an object that holds no key twice and only keys of families. Under the key of a family stands
what the first provider of the family and the last setting for it call for. A provider that is not
the first of its family changes nothing, and neither does a setting that is not the last for its
family; and no provider or setting of another family does. -/
theorem build_key_by_key (providers : List Provider) (base : Overrides)
    (settings : List (Feature × Bool)) :
    (∃ members, (Document.build providers (base.setAll settings)).toJson = .object members ∧
      (members.map Prod.fst).Nodup ∧ (∀ m ∈ members, ∃ f : Feature, f.key = m.1) ∧
      ∀ (f : Feature) (entry : Option Json), Json.Members.get? f.key members = entry ↔
        ∃ provider switch, Provider.IsFirst providers f provider ∧
          Overrides.IsLast base settings f switch ∧ Document.IsEntry f provider switch entry) ∧
    (∀ (f : Feature) (before after : List Provider) (q : Provider),
      providers = before ++ after → (q.feature ≠ f ∨ ∃ p ∈ before, p.feature = f) →
      (Document.build (before ++ q :: after) (base.setAll settings)).toJson.get? f.key
        = (Document.build providers (base.setAll settings)).toJson.get? f.key) ∧
    ∀ (f : Feature) (before after : List (Feature × Bool)) (s : Feature × Bool),
      settings = before ++ after → (s.1 ≠ f ∨ ∃ t ∈ after, t.1 = f) →
      (Document.build providers (base.setAll (before ++ s :: after))).toJson.get? f.key
        = (Document.build providers (base.setAll settings)).toJson.get? f.key := by
  refine ⟨⟨_, rfl, Document.nodup_keys_members _,
    fun m hm => Document.exists_feature_of_mem_members hm, fun f entry => ?_⟩, ?_, ?_⟩
  · have hrelations : (∃ provider switch, Provider.IsFirst providers f provider ∧
        Overrides.IsLast base settings f switch ∧ Document.IsEntry f provider switch entry) ↔
          Document.IsEntry f (Document.providerOf? providers f)
            ((base.setAll settings).choice f) entry := by
      simp only [Document.isFirst_iff, Overrides.isLast_iff, exists_and_left, exists_eq_left']
    rw [hrelations, Document.isEntry_iff]
    show (Document.build providers (base.setAll settings)).toJson.get? f.key = entry ↔ _
    rw [Document.get?_toJson]
  · rintro f before after q rfl hq
    exact Document.get?_toJson_build_congr (Document.providerOf?_insert hq after) rfl
  · rintro f before after s rfl hs
    exact Document.get?_toJson_build_congr rfl (Overrides.choice_setAll_insert base before hs)

/-- A second provider of a family, and a setting that is made again, change nothing. -/
theorem build_with_repeats :
    ((∃ p ∈ [Provider.enabled .rename], p.feature = .rename) ∧
      (Document.build ([.enabled .rename] ++ [.disabled .rename])
          (Overrides.standard.setAll [(.signatureHelp, true)])).toJson.get? "renameProvider"
        = (Document.build [.enabled .rename]
          (Overrides.standard.setAll [(.signatureHelp, true)])).toJson.get? "renameProvider") ∧
    (∃ s ∈ [(Feature.signatureHelp, true)], s.1 = .signatureHelp) ∧
      (Document.build [.enabled .rename]
          (Overrides.standard.setAll
            ([] ++ (.signatureHelp, false) :: [(.signatureHelp, true)]))).toJson.get?
          "signatureHelpProvider"
        = (Document.build [.enabled .rename]
          (Overrides.standard.setAll [(.signatureHelp, true)])).toJson.get?
          "signatureHelpProvider" := by
  have hprovider : ∃ p ∈ [Provider.enabled .rename], p.feature = .rename :=
    ⟨_, List.mem_cons_self, rfl⟩
  have hsetting : ∃ s ∈ [(Feature.signatureHelp, true)], s.1 = .signatureHelp := by simp
  obtain ⟨-, hrepeated, hagain⟩ :=
    build_key_by_key [.enabled .rename] .standard [(.signatureHelp, true)]
  exact ⟨⟨hprovider, hrepeated .rename _ [] (.disabled .rename) rfl (.inr hprovider)⟩,
    hsetting, hagain .signatureHelp [] _ (.signatureHelp, false) rfl (.inr hsetting)⟩

/-- A provider that is disabled gives its options all the same once its family is switched on. -/
example :
    (Document.build
        [{ feature := .codeLens, isEnabled := false, options := some .null }, .disabled .hover]
        (Overrides.none.setAll [(.codeLens, true), (.rename, false)])).toJson.get?
      "codeLensProvider" = some .null := by
  decide

end SessionGate
