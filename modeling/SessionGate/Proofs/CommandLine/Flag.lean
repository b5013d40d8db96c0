import SessionGate.CommandLine.Options

/-!
# The flag for signature help

An option that takes a value is settled late, when the next one is met or the arguments end. The
flag for signature help takes none, so nothing that is settled late can set it: it is set exactly by
the argument that spells it out.

- `Reading.IsRegular`: what a reading has to settle is an option that takes a value.
- `readArgument_eq_ok`: what one argument does to the flag; `readAll_eq_ok`: what all of them do.
- `Argument.isSignatureHelp_ofString_iff`: how the flag is spelled.
- `Options.signatureHelp_parse_iff`: when an argument list that is accepted sets it.
-/

namespace SessionGate

namespace CommandLine

/-- How the flag for signature help is spelled. -/
def signatureFlag : String := "--enable-signature-help"

/-- An argument by which the flag for signature help is given. -/
def Argument.IsSignatureHelp (a : Argument) : Prop :=
  ∃ text, a = .long text none ∧ Name.ofLong? text = some .signatureHelp

/-- What is left to settle is an option that takes a value. -/
def Reading.IsRegular (r : Reading) : Prop :=
  ∀ name value, r.pending = some (name, value) → name.takesValue = true

theorem Reading.isRegular_of_none {r : Reading} (h : r.pending = none) : r.IsRegular :=
  fun name value hpending => by rw [h] at hpending; cases hpending

/-- A step that follows another succeeds only after a success. -/
theorem exists_of_bind_eq_ok {α β : Type} {x : Except Refusal α} {f : α → Except Refusal β} {b : β}
    (h : x >>= f = .ok b) : ∃ a, x = .ok a ∧ f a = .ok b := by
  cases x with
  | error e => cases h
  | ok a => exact ⟨a, rfl, h⟩

/-! ## Settling an option -/

theorem ne_signatureHelp_of_takesValue {name : Name} (h : name.takesValue = true) :
    name ≠ .signatureHelp := by
  rintro rfl
  cases h

theorem signatureHelp_assign (o : Options) (name : Name) (value : String) :
    (assign o name value).signatureHelp = true ↔
      o.signatureHelp = true ∨ name = .signatureHelp := by
  cases name <;> simp [assign]

variable {r r' : Reading} {name : Name} {value : String}

theorem settleOption_eq_ok (h : settleOption r name value = .ok r') :
    r'.options = assign r.options name value ∧ r'.pending = r.pending := by
  unfold settleOption at h
  split at h
  · cases h
  · split at h
    · cases h
    · cases h
      exact ⟨rfl, rfl⟩

/-- What is settled late never is the flag. -/
theorem settlePending_eq_ok (hr : r.IsRegular) (h : settlePending r = .ok r') :
    r'.pending = none ∧ (r'.options.signatureHelp = true ↔ r.options.signatureHelp = true) := by
  unfold settlePending at h
  split at h
  · next hnone =>
    cases h
    exact ⟨hnone, Iff.rfl⟩
  · cases h
  · next name value hpending =>
    obtain ⟨hoptions, hleft⟩ := settleOption_eq_ok h
    refine ⟨hleft, ?_⟩
    rw [hoptions, signatureHelp_assign]
    exact or_iff_left (ne_signatureHelp_of_takesValue (hr name _ hpending))

theorem take_eq_ok (hr : r.IsRegular) (h : take r name value = .ok r') :
    r'.pending = none ∧
      (r'.options.signatureHelp = true ↔
        r.options.signatureHelp = true ∨ name = .signatureHelp) := by
  unfold take at h
  obtain ⟨s, hsettled, hrest⟩ := exists_of_bind_eq_ok h
  obtain ⟨hnone, hsame⟩ := settlePending_eq_ok hr hsettled
  have hoption : settleOption s name value = .ok r' := by
    cases name with
    | help => cases hrest
    | version => cases hrest
    | _ => exact hrest
  obtain ⟨hoptions, hleft⟩ := settleOption_eq_ok hoption
  refine ⟨hleft.trans hnone, ?_⟩
  rw [hoptions, signatureHelp_assign, hsame]

/-! ## Reading arguments -/

theorem isSignatureHelp_long_iff {text : List Char} (hname : Name.ofLong? text = some name)
    (value : Option String) :
    (Argument.long text value).IsSignatureHelp ↔ value = none ∧ name = .signatureHelp := by
  constructor
  · rintro ⟨text', hlong, hflag⟩
    cases hlong
    exact ⟨rfl, Option.some.inj (hname.symm.trans hflag)⟩
  · rintro ⟨rfl, rfl⟩
    exact ⟨text, rfl, hname⟩

/-- An argument that is accepted sets the flag exactly if it is the one that spells it out. -/
theorem readArgument_eq_ok {a : Argument} (hr : r.IsRegular) (h : readArgument r a = .ok r') :
    r'.IsRegular ∧
      (r'.options.signatureHelp = true ↔
        r.options.signatureHelp = true ∨ a.IsSignatureHelp) := by
  have htaken {name : Name} {value : String} (h : take r name value = .ok r')
      (hname : name = .signatureHelp ↔ a.IsSignatureHelp) : r'.IsRegular ∧
      (r'.options.signatureHelp = true ↔
        r.options.signatureHelp = true ∨ a.IsSignatureHelp) := by
    obtain ⟨hnone, hset⟩ := take_eq_ok hr h
    exact ⟨Reading.isRegular_of_none hnone, by rw [hset, hname]⟩
  cases a with
  | separator =>
    cases h
    exact ⟨hr, (or_iff_left nofun).symm⟩
  | long text value =>
    unfold readArgument at h
    dsimp only at h
    split at h
    · cases h
    · next name hname =>
      have hflag := isSignatureHelp_long_iff hname value
      split at h
      · next v htakes =>
        refine htaken h ?_
        rw [hflag]
        exact iff_of_false (ne_signatureHelp_of_takesValue htakes) (by simp)
      · next htakes =>
        -- the option before it is settled; this one is left for later
        obtain ⟨s, hsettled, hrest⟩ := exists_of_bind_eq_ok h
        cases hrest
        obtain ⟨-, hsame⟩ := settlePending_eq_ok hr hsettled
        refine ⟨fun n v hpending => ?_, ?_⟩
        · cases hpending
          exact htakes
        · rw [hflag]
          have hother := ne_signatureHelp_of_takesValue htakes
          exact hsame.trans (or_iff_left fun h => hother h.2).symm
      · cases h
      · refine htaken h ?_
        rw [hflag]
        exact (and_iff_right rfl).symm
  | short c =>
    have hno : ¬(Argument.short c).IsSignatureHelp := nofun
    unfold readArgument at h
    dsimp only at h
    split at h
    · exact htaken h (iff_of_false nofun hno)
    · split at h
      · exact htaken h (iff_of_false nofun hno)
      · cases h
  | plain text =>
    have hno : ¬(Argument.plain text).IsSignatureHelp := nofun
    unfold readArgument at h
    dsimp only at h
    split at h
    · next name hpending =>
      cases h
      refine ⟨fun n v hp => ?_, (or_iff_left hno).symm⟩
      cases hp
      exact hr name none hpending
    · cases h

/-! ## How the flag is spelled -/

theorem ofLong?_eq_signatureHelp_iff {text : List Char} :
    Name.ofLong? text = some .signatureHelp ↔ String.ofList text = "enable-signature-help" := by
  unfold Name.ofLong?
  dsimp only
  split
  case h_5 heq => exact iff_of_true rfl heq
  case h_8 h5 _ _ => exact iff_of_false nofun h5
  all_goals
    next heq =>
      rw [heq]
      decide

/-- Of all arguments only one spells out the flag. -/
theorem isSignatureHelp_ofString_iff (argument : String) :
    (Argument.ofString argument).IsSignatureHelp ↔ argument = signatureFlag := by
  constructor
  · rintro ⟨text, hlong, hname⟩
    rw [ofLong?_eq_signatureHelp_iff] at hname
    unfold Argument.ofString at hlong
    split at hlong
    · cases hlong
    · next rest _ hargument =>
      dsimp only at hlong
      split at hlong
      · cases hlong
      · next hdrop =>
        cases hlong
        -- there is no equals sign, so the name is all that follows the hyphens
        have hrest : String.ofList rest = "enable-signature-help" := by
          have hall := List.takeWhile_append_dropWhile (p := fun c => c != '=') (l := rest)
          rw [hdrop, List.append_nil] at hall
          rw [← hall]
          exact hname
        have hletters : rest = "enable-signature-help".toList := by
          rw [← hrest, String.toList_ofList]
        rw [← String.ofList_toList (s := argument), hargument, hletters]
        rfl
    · cases hlong
    · cases hlong
  · rintro rfl
    exact ⟨"enable-signature-help".toList, rfl, rfl⟩

theorem readAll_eq_ok {arguments : List String} (hr : r.IsRegular)
    (h : readAll r arguments = .ok r') :
    r'.options.signatureHelp = true ↔
      r.options.signatureHelp = true ∨ signatureFlag ∈ arguments := by
  induction arguments generalizing r with
  | nil =>
    rw [(settlePending_eq_ok hr h).2]
    simp
  | cons argument rest ih =>
    rw [List.mem_cons, eq_comm (a := signatureFlag), ← isSignatureHelp_ofString_iff]
    unfold readAll at h
    split at h
    · next hseparator =>
      rw [hseparator]
      split at h
      · next hend =>
        -- nothing follows the separator, which is not the flag
        rw [List.isEmpty_iff.mp hend, (settlePending_eq_ok hr h).2]
        have hno : ¬Argument.separator.IsSignatureHelp := nofun
        simp [hno]
      · cases h
    · obtain ⟨s, hread, hrest⟩ := exists_of_bind_eq_ok h
      obtain ⟨hregular, hset⟩ := readArgument_eq_ok hr hread
      rw [ih hregular hrest, hset, or_assoc]

end CommandLine

/-- An argument list that is accepted sets the flag exactly if the flag is among the arguments. -/
theorem Options.signatureHelp_parse_iff {arguments : List String} {o : Options}
    (h : Options.parse arguments = .ok o) :
    o.signatureHelp = true ↔ CommandLine.signatureFlag ∈ arguments := by
  unfold parse at h
  obtain ⟨r, hread, hoptions⟩ := CommandLine.exists_of_bind_eq_ok h
  cases hoptions
  rw [CommandLine.readAll_eq_ok (CommandLine.Reading.isRegular_of_none rfl) hread]
  exact or_iff_right nofun

end SessionGate
