import Mathlib.Data.List.Nodup
import Mathlib.Data.List.TakeWhile
import SessionGate.Proofs.CommandLine.Flag
import SessionGate.Settings

/-!
# Options written and read back

Options may be given in any order, and one that takes a value may be written with it in one argument
or in two. The value may look like anything, another option or an assignment among them, as long as
an argument of its own does not begin with a hyphen. None of this makes a difference: what is read
is what was given.

- `CommandLine.Given`: an option with its value, as it is given; `CommandLine.Spells`,
  `CommandLine.Writes`: how one is written, and several in order.
- `CommandLine.readAll_settle`: what is left to settle may as well be settled first; so the two
  spellings of an option come to the same, `CommandLine.readAll_of_spells`.
- `CommandLine.readAll_of_writes`: options that are written are settled one after another;
  `CommandLine.settleAll_of_nodup`, `CommandLine.settleAll_of_repeat`: what that comes to.
- `Selection`: which options to give; `reads_what_is_written`: every selection, in every order and
  spelling.
-/

namespace SessionGate

namespace CommandLine

/-! ## Names -/

/-- The long name of an option. -/
def Name.long : Name → String
  | logDirectory => "log-dir"
  | logLevel => "log-level"
  | withoutNode => "no-node"
  | nodeProgram => "node-program"
  | signatureHelp => "enable-signature-help"
  | help => "help"
  | version => "version"

theorem ofLong?_long (name : Name) : Name.ofLong? name.long.toList = some name := by
  cases name <;> rfl

theorem long_ne_nil (name : Name) : name.long.toList ≠ [] := by
  cases name <;> decide

theorem ne_equals_of_mem_long (name : Name) : ∀ c ∈ name.long.toList, (c != '=') = true := by
  have hall : name.long.toList.all (fun c => c != '=') = true := by
    cases name <;> rfl
  exact List.all_eq_true.mp hall

theorem ofString_of_hyphens {argument : String} {rest : List Char}
    (h : argument.toList = '-' :: '-' :: rest) (hne : rest ≠ []) :
    Argument.ofString argument =
      match rest.dropWhile fun c => c != '=' with
      | _ :: value => .long (rest.takeWhile fun c => c != '=') (some (String.ofList value))
      | [] => .long (rest.takeWhile fun c => c != '=') none := by
  obtain ⟨c, rest, rfl⟩ := List.exists_cons_of_ne_nil hne
  unfold Argument.ofString
  rw [h]
  rfl

theorem ofString_bare (name : Name) :
    Argument.ofString ("--" ++ name.long) = .long name.long.toList none := by
  have htext : ("--" ++ name.long).toList = '-' :: '-' :: name.long.toList := by
    rw [String.toList_append]
    rfl
  rw [ofString_of_hyphens htext (long_ne_nil name),
    List.dropWhile_eq_nil_iff.mpr (ne_equals_of_mem_long name),
    List.takeWhile_eq_self_iff.mpr (ne_equals_of_mem_long name)]

/-- The first equals sign ends the name; the value may hold more of them. -/
theorem ofString_joined (name : Name) (value : String) :
    Argument.ofString ("--" ++ name.long ++ "=" ++ value)
      = .long name.long.toList (some value) := by
  have htext : ("--" ++ name.long ++ "=" ++ value).toList
      = '-' :: '-' :: (name.long.toList ++ '=' :: value.toList) := by
    simp only [String.toList_append, List.append_assoc]
    rfl
  rw [ofString_of_hyphens htext (List.append_ne_nil_of_left_ne_nil (long_ne_nil name) _),
    List.dropWhile_append_of_pos (ne_equals_of_mem_long name),
    List.takeWhile_append_of_pos (ne_equals_of_mem_long name)]
  simp

theorem ofString_plain {value : String} (h : value.toList.head? ≠ some '-') :
    Argument.ofString value = .plain value := by
  unfold Argument.ofString
  split
  · next heq => simp [heq] at h
  · next heq => simp [heq] at h
  · next heq => simp [heq] at h
  · rfl

/-! ## Writing options -/

/-- An option as it is given, with its value if it takes one. -/
inductive Given where
  | logDirectory (value : String)
  | logLevel (value : String)
  | withoutNode
  | nodeProgram (value : String)
  | signatureHelp
  deriving DecidableEq

namespace Given

/-- Which option it is. -/
def name : Given → Name
  | logDirectory _ => .logDirectory
  | logLevel _ => .logLevel
  | withoutNode => .withoutNode
  | nodeProgram _ => .nodeProgram
  | signatureHelp => .signatureHelp

/-- Its value, if it takes one. -/
def value? : Given → Option String
  | logDirectory v | logLevel v | nodeProgram v => some v
  | withoutNode | signatureHelp => none

/-- What it is settled with. -/
def value (g : Given) : String :=
  g.value?.getD ""

theorem takesValue_name (g : Given) : g.name.takesValue = g.value?.isSome := by
  cases g <;> rfl

theorem takesValue_of_some {g : Given} {v : String} (h : g.value? = some v) :
    g.name.takesValue = true := by
  rw [g.takesValue_name, h, Option.isSome_some]

theorem takesValue_of_none {g : Given} (h : g.value? = none) : g.name.takesValue = false := by
  rw [g.takesValue_name, h, Option.isSome_none]

theorem value_of_some {g : Given} {v : String} (h : g.value? = some v) : g.value = v := by
  rw [value, h, Option.getD_some]

theorem value_of_none {g : Given} (h : g.value? = none) : g.value = "" := by
  rw [value, h, Option.getD_none]

/-- What is given asks for neither the help text nor the version, so it is settled when taken. -/
theorem take_eq (r : Reading) (g : Given) (v : String) :
    take r g.name v = settlePending r >>= fun s => settleOption s g.name v := by
  cases g <;> rfl

end Given

/-- Options with one more set. -/
def give (o : Options) (g : Given) : Options :=
  assign o g.name g.value

/-- How an option is written: by its name alone if it takes no value; else with the value after an
equals sign, or in an argument of its own that does not begin with a hyphen. -/
inductive Spells (g : Given) : List String → Prop where
  | flag (valueless : g.value? = none) : Spells g ["--" ++ g.name.long]
  | joined {value : String} (valued : g.value? = some value) :
      Spells g ["--" ++ g.name.long ++ "=" ++ value]
  | apart {value : String} (valued : g.value? = some value)
      (no_hyphen : value.toList.head? ≠ some '-') : Spells g ["--" ++ g.name.long, value]

/-- How options are written one after another, each in its own way. -/
inductive Writes : List Given → List String → Prop where
  | nil : Writes [] []
  | cons {g : Given} {gs : List Given} {as bs : List String} (spelled : Spells g as)
      (rest : Writes gs bs) : Writes (g :: gs) (as ++ bs)

variable {r s : Reading} {g : Given} {gs : List Given} {as bs : List String} {name : Name}
  {value : String}

/-! ## Settling first -/

theorem settlePending_of_none (h : r.pending = none) : settlePending r = .ok r := by
  rw [settlePending, h]

theorem pending_of_settlePending (h : settlePending r = .ok s) : s.pending = none := by
  unfold settlePending at h
  split at h
  · next hnone =>
    cases h
    exact hnone
  · cases h
  · exact (settleOption_eq_ok h).2

/-- What begins by settling may as well be done after it. -/
theorem settlePending_bind {α : Type} (r : Reading) (f : Reading → Except Refusal α) :
    (settlePending r >>= fun s => settlePending s >>= f) = settlePending r >>= f := by
  cases hr : settlePending r with
  | error e => rfl
  | ok s =>
    show settlePending s >>= f = f s
    rw [settlePending_of_none (pending_of_settlePending hr)]
    rfl

theorem take_settle (r : Reading) (name : Name) (value : String) :
    take r name value = settlePending r >>= fun s => take s name value :=
  (settlePending_bind r _).symm

theorem readArgument_flag (h : name.takesValue = false) (r : Reading) :
    readArgument r (.long name.long.toList none) = take r name "" := by
  rw [readArgument, ofLong?_long]
  dsimp only
  rw [h]

theorem readArgument_joined (h : name.takesValue = true) (r : Reading) (value : String) :
    readArgument r (.long name.long.toList (some value)) = take r name value := by
  rw [readArgument, ofLong?_long]
  dsimp only
  rw [h]

theorem readArgument_apart (h : name.takesValue = true) (r : Reading) :
    readArgument r (.long name.long.toList none)
      = settlePending r >>= fun s => .ok { s with pending := some (name, none) } := by
  rw [readArgument, ofLong?_long]
  dsimp only
  rw [h]
  rfl

theorem readArgument_settle {value? : Option String}
    (h : name.takesValue = true ∨ value? = none) (r : Reading) :
    readArgument r (.long name.long.toList value?)
      = settlePending r >>= fun s => readArgument s (.long name.long.toList value?) := by
  cases htakes : name.takesValue with
  | true =>
    cases value? with
    | none =>
      simp only [readArgument_apart htakes]
      exact (settlePending_bind r _).symm
    | some v =>
      simp only [readArgument_joined htakes]
      exact take_settle r name v
  | false =>
    rw [h.resolve_left (by simp [htakes])]
    simp only [readArgument_flag htakes]
    exact take_settle r name ""

/-- However an option is written, the first argument is its name, with or without a value. -/
theorem Spells.first (h : Spells g as) :
    ∃ a rest value?, as = a :: rest ∧ Argument.ofString a = .long g.name.long.toList value? ∧
      (g.name.takesValue = true ∨ value? = none) := by
  cases h with
  | flag => exact ⟨_, _, _, rfl, ofString_bare g.name, .inr rfl⟩
  | joined valued =>
    exact ⟨_, _, _, rfl, ofString_joined g.name _, .inl (Given.takesValue_of_some valued)⟩
  | apart => exact ⟨_, _, _, rfl, ofString_bare g.name, .inr rfl⟩

theorem readAll_long {a : String} {text : List Char} {value? : Option String}
    (h : Argument.ofString a = .long text value?) (r : Reading) (rest : List String) :
    readAll r (a :: rest) = readArgument r (.long text value?) >>= fun s => readAll s rest := by
  rw [readAll, h]

theorem readAll_plain {a text : String} (h : Argument.ofString a = .plain text) (r : Reading)
    (rest : List String) :
    readAll r (a :: rest) = readArgument r (.plain text) >>= fun s => readAll s rest := by
  rw [readAll, h]

/-- Before options that are written, what is left to settle may as well be settled. -/
theorem readAll_settle (h : Writes gs bs) (r : Reading) :
    readAll r bs = settlePending r >>= fun s => readAll s bs := by
  cases h with
  | nil =>
    have hend (s : Reading) : readAll s [] = settlePending s >>= fun s => .ok s := by
      rw [readAll]
      cases settlePending s <;> rfl
    rw [funext hend, hend r, settlePending_bind]
  | cons spelled rest =>
    obtain ⟨a, more, value?, rfl, hfirst, hform⟩ := spelled.first
    rw [List.cons_append, readAll_long hfirst, readArgument_settle hform, bind_assoc]
    exact congrArg _ (funext fun s => (readAll_long hfirst s _).symm)

/-! ## One option after another -/

/-- A value in an argument of its own is settled with the next option, or at the end. -/
theorem readAll_value (hs : s.pending = none) (hvalue : value.toList.head? ≠ some '-')
    (hrest : Writes gs bs) :
    readAll { s with pending := some (name, none) } (value :: bs)
      = settleOption s name value >>= fun s => readAll s bs := by
  have hsame : { s with pending := none } = s := by rw [← hs]
  rw [readAll_plain (ofString_plain hvalue)]
  show readAll { s with pending := some (name, some value) } bs = _
  rw [readAll_settle hrest]
  show settleOption { s with pending := none } name value >>= _ = _
  rw [hsame]

/-- However an option is written, it is settled after what was left before it. -/
theorem readAll_of_spells (h : Spells g as) (hrest : Writes gs bs) (r : Reading) :
    readAll r (as ++ bs) = settlePending r >>= fun s =>
      settleOption s g.name g.value >>= fun s => readAll s bs := by
  cases h with
  | flag valueless =>
    rw [List.singleton_append, readAll_long (ofString_bare g.name),
      readArgument_flag (Given.takesValue_of_none valueless), g.take_eq,
      Given.value_of_none valueless, bind_assoc]
  | joined valued =>
    rw [List.singleton_append, readAll_long (ofString_joined g.name _),
      readArgument_joined (Given.takesValue_of_some valued), g.take_eq,
      Given.value_of_some valued, bind_assoc]
  | apart valued no_hyphen =>
    rw [List.cons_append, readAll_long (ofString_bare g.name),
      readArgument_apart (Given.takesValue_of_some valued), Given.value_of_some valued]
    cases hsettled : settlePending r with
    | error e => rfl
    | ok s => exact readAll_value (pending_of_settlePending hsettled) no_hyphen hrest

/-- Options settled one after another. -/
def settleAll (r : Reading) : List Given → Except Refusal Reading
  | [] => .ok r
  | g :: gs => settleOption r g.name g.value >>= fun s => settleAll s gs

/-- Options that are written are settled one after another, whatever their spelling. -/
theorem readAll_of_writes (h : Writes gs as) (hr : r.pending = none) :
    readAll r as = settleAll r gs := by
  induction h generalizing r with
  | nil => exact settlePending_of_none hr
  | @cons g gs as bs spelled rest ih =>
    rw [readAll_of_spells spelled rest, settlePending_of_none hr, settleAll]
    show settleOption r g.name g.value >>= _ = _
    cases hsettled : settleOption r g.name g.value with
    | error e => rfl
    | ok s => exact ih ((settleOption_eq_ok hsettled).2.trans hr)

/-! ## Options given once, and more than once -/

/-- An option is given with a value that is not empty, if it takes one. -/
def Given.IsFilled (g : Given) : Prop :=
  g.value? ≠ some ""

instance (g : Given) : Decidable g.IsFilled :=
  inferInstanceAs (Decidable (_ ≠ _))

theorem settleOption_of_given (h : name ∈ r.given) (value : String) :
    settleOption r name value = .error .conflict := by
  rw [settleOption, if_pos (List.contains_iff_mem.mpr h)]

/-- An option that has not been given is set. -/
theorem settleOption_of_new (h : g.name ∉ r.given) (hg : g.IsFilled) :
    settleOption r g.name g.value
      = .ok { r with options := give r.options g, given := g.name :: r.given } := by
  have hfilled : ¬(decide (g.name = .logDirectory) && g.value.isEmpty) = true := by
    cases g with
    | logDirectory v =>
      have hv : v ≠ "" := fun heq => hg (congrArg some heq)
      simpa [Given.name, Given.value, Given.value?] using hv
    | _ => simp [Given.name]
  rw [settleOption, if_neg fun hmem => h (List.contains_iff_mem.mp hmem), if_neg hfilled]
  rfl

/-- Options of which none is given twice are all set. -/
theorem settleAll_of_nodup (hfilled : ∀ g ∈ gs, g.IsFilled)
    (h : (gs.map Given.name ++ r.given).Nodup) :
    ∃ s, settleAll r gs = .ok s ∧ s.options = gs.foldl give r.options := by
  induction gs generalizing r with
  | nil => exact ⟨r, rfl, rfl⟩
  | cons g gs ih =>
    rw [List.forall_mem_cons] at hfilled
    rw [List.map_cons, List.cons_append] at h
    have hnew : g.name ∉ r.given := fun hmem =>
      (List.nodup_cons.mp h).1 (List.mem_append_right _ hmem)
    -- the option moves from those to be given to those that have been
    have hmoved : (gs.map Given.name ++ g.name :: r.given).Nodup := List.nodup_middle.mpr h
    rw [settleAll, settleOption_of_new hnew hfilled.1]
    exact ih hfilled.2 hmoved

/-- An option that is given twice is refused. -/
theorem settleAll_of_repeat (hfilled : ∀ g ∈ gs, g.IsFilled) (hr : r.given.Nodup)
    (h : ¬(gs.map Given.name ++ r.given).Nodup) : settleAll r gs = .error .conflict := by
  induction gs generalizing r with
  | nil => exact absurd hr h
  | cons g gs ih =>
    rw [List.forall_mem_cons] at hfilled
    rw [settleAll]
    by_cases hgiven : g.name ∈ r.given
    · rw [settleOption_of_given hgiven]
      rfl
    · rw [List.map_cons, List.cons_append] at h
      have hmoved : ¬(gs.map Given.name ++ g.name :: r.given).Nodup := fun hnodup =>
        h (List.nodup_middle.mp hnodup)
      rw [settleOption_of_new hgiven hfilled.1]
      exact ih hfilled.2 (List.nodup_cons.mpr ⟨hgiven, hr⟩) hmoved

/-! ## Order -/

/-- Different options do not get in each other's way. -/
theorem assign_comm {name other : Name} (h : name ≠ other) (o : Options) (v w : String) :
    assign (assign o name v) other w = assign (assign o other w) name v := by
  cases name <;> cases other <;> simp_all [assign]

/-- Options of which none is given twice are set in any order. -/
theorem foldl_give_perm {ks : List Given} (h : gs.Perm ks) (hnodup : (gs.map Given.name).Nodup)
    (o : Options) : gs.foldl give o = ks.foldl give o := by
  refine h.foldl_eq' (fun g hg k hk o => ?_) o
  by_cases hname : g.name = k.name
  · rw [List.inj_on_of_nodup_map hnodup hg hk hname]
  · exact assign_comm hname o g.value k.value

end CommandLine

open CommandLine

/-! ## Selections -/

/-- Which options to give, and their values. -/
structure Selection where
  logDirectory : Option String
  logLevel : Option String
  withoutNode : Bool
  nodeProgram : Option String
  signatureHelp : Bool

namespace Selection

/-- The options that are given. -/
def givens (c : Selection) : List Given :=
  c.logDirectory.toList.map .logDirectory ++ c.logLevel.toList.map .logLevel ++
    (if c.withoutNode then [.withoutNode] else []) ++ c.nodeProgram.toList.map .nodeProgram ++
    if c.signatureHelp then [.signatureHelp] else []

/-- The options that are to be read: what is given, and what stands for the rest. -/
def options (c : Selection) : Options where
  logDirectory := c.logDirectory
  logLevel := c.logLevel
  withoutNode := c.withoutNode
  nodeProgram := c.nodeProgram.getD "erl"
  signatureHelp := c.signatureHelp

theorem nodup_givens (c : Selection) : (c.givens.map Given.name).Nodup := by
  obtain ⟨_ | _, _ | _, _ | _, _ | _, _ | _⟩ := c <;> simp [givens, Given.name]

theorem foldl_givens (c : Selection) : c.givens.foldl give {} = c.options := by
  obtain ⟨_ | _, _ | _, _ | _, _ | _, _ | _⟩ := c <;> rfl

end Selection

/-- **What is read is what was given.** Whatever options are selected, with whatever values as long
as none is empty, and in whatever order and spelling they are written: they are accepted, and read
as they were selected. The node then is as they say, and of all families they switch signature help
alone. Where an option is written more than once, in whatever spelling, the arguments are
refused. -/
theorem reads_what_is_written {gs : List Given} {arguments : List String}
    (hfilled : ∀ g ∈ gs, g.IsFilled) (hwrites : Writes gs arguments) :
    (∀ c : Selection, gs.Perm c.givens →
      Options.parse arguments = .ok c.options ∧
        c.options.settings.node = ⟨!c.withoutNode, c.nodeProgram.getD "erl"⟩ ∧
        ∀ f, c.options.settings.overrides.choice f
          = if f = .signatureHelp then some c.signatureHelp else none) ∧
      (¬(gs.map Given.name).Nodup → Options.parse arguments = .error .conflict) := by
  have hparse : Options.parse arguments = (settleAll .start gs).map Reading.options := by
    rw [Options.parse, readAll_of_writes hwrites rfl]
  refine ⟨fun c hc => ⟨?_, rfl, c.options.choice_settings⟩, fun hrepeat => ?_⟩
  · have hnodup : (gs.map Given.name).Nodup :=
      (hc.map Given.name).nodup_iff.mpr c.nodup_givens
    have hnew : (gs.map Given.name ++ Reading.start.given).Nodup := by
      simpa [Reading.start] using hnodup
    obtain ⟨s, hs, hoptions⟩ := settleAll_of_nodup hfilled hnew
    have hread : s.options = c.options := by
      rw [hoptions, foldl_give_perm hc hnodup]
      exact c.foldl_givens
    rw [hparse, hs, Except.map, hread]
  · have hagain : ¬(gs.map Given.name ++ Reading.start.given).Nodup := by
      simpa [Reading.start] using hrepeat
    rw [hparse, settleAll_of_repeat hfilled List.nodup_nil hagain]
    rfl

/-- Values that look like an option or an assignment are values; the flag written a second time is
refused. -/
theorem reads_hard_values :
    let c : Selection := ⟨some "--no-node", none, false, some "a=b -c", true⟩
    let gs : List Given := [.nodeProgram "a=b -c", .signatureHelp, .logDirectory "--no-node"]
    let arguments :=
      ["--node-program", "a=b -c", "--enable-signature-help", "--log-dir=--no-node"]
    (∀ g ∈ gs, g.IsFilled) ∧ Writes gs arguments ∧ gs.Perm c.givens ∧
      Options.parse arguments
        = .ok ⟨some "--no-node", none, false, "a=b -c", true⟩ ∧
      (∀ g ∈ .signatureHelp :: gs, g.IsFilled) ∧
      Writes (.signatureHelp :: gs) ("--enable-signature-help" :: arguments) ∧
      ¬((.signatureHelp :: gs : List Given).map Given.name).Nodup ∧
      Options.parse ("--enable-signature-help" :: arguments) = .error .conflict := by
  intro c gs arguments
  have hfilled : ∀ g ∈ .signatureHelp :: gs, g.IsFilled := by decide
  have hflag : "--" ++ Given.signatureHelp.name.long = "--enable-signature-help" := by decide
  have hprogram : "--" ++ (Given.nodeProgram "a=b -c").name.long = "--node-program" := by decide
  have hdirectory : "--" ++ (Given.logDirectory "--no-node").name.long ++ "=" ++ "--no-node"
      = "--log-dir=--no-node" := by decide
  have hspelled : Spells .signatureHelp ["--enable-signature-help"] := hflag ▸ .flag rfl
  have hwrites : Writes gs arguments := by
    have happart : Spells (.nodeProgram "a=b -c") ["--node-program", "a=b -c"] :=
      hprogram ▸ .apart rfl (by decide)
    have hjoined : Spells (.logDirectory "--no-node") ["--log-dir=--no-node"] :=
      hdirectory ▸ .joined rfl
    exact .cons happart (.cons hspelled (.cons hjoined .nil))
  have hperm : gs.Perm c.givens := by decide
  have hagain : Writes (.signatureHelp :: gs) ("--enable-signature-help" :: arguments) :=
    .cons hspelled hwrites
  have hrepeat : ¬((.signatureHelp :: gs : List Given).map Given.name).Nodup := by decide
  have hgs : ∀ g ∈ gs, g.IsFilled := fun g hg => hfilled g (List.mem_cons_of_mem _ hg)
  exact ⟨hgs, hwrites, hperm, ((reads_what_is_written hgs hwrites).1 c hperm).1, hfilled, hagain,
    hrepeat, (reads_what_is_written hfilled hagain).2 hrepeat⟩

end SessionGate
