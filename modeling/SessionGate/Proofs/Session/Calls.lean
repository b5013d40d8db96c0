import SessionGate.Session.Controller

/-!
# What the calls of a session come to

One lemma for each call says everything the call can do; what is proved of sessions and hosts rests
on these and looks into no call again.

- `HandshakeRequest.IsReadFrom`, `Request.handshakeOf_eq_ok_iff`: which parameters are read, and as
  what.
- `Record.IsOf`: the record that parameters call for, said of the parameters as they were sent.
- `Controller.handshake_spec`, `Controller.initialized_spec`: what these calls come to, and when;
  `Controller.handshake_cases`, `Controller.initialized_cases`: the same with refusals taken
  together.
- `Controller.exitCode_eq_zero_iff`, `Controller.exitCode_eq_one_iff`: what the process ends with.
-/

namespace SessionGate

/-! ## Reading a handshake -/

/-- The request consists of the members of the parameters, taken as they are. -/
structure HandshakeRequest.IsReadFrom (q : HandshakeRequest) (params : Json) : Prop where
  capabilities : params.get? "capabilities" = some q.capabilities
  capabilities_ne : q.capabilities ≠ .null
  root : (params.get? "rootUri").getD .null = Json.stringOrNull q.root
  options : params.get? "initializationOptions" = q.options

/-- A member that is there and not null is found as it is. -/
theorem Json.eq_some_getD {found : Option Json} (h : found.getD .null ≠ .null) :
    found = some (found.getD .null) := by
  cases found with
  | none => exact absurd rfl h
  | some v => rfl

/-- Parameters are read as a handshake exactly if they hold what it consists of. -/
theorem Request.handshakeOf_eq_ok_iff {params : Json} {r : Request} :
    handshakeOf params = .ok r ↔
      ∃ q : HandshakeRequest, r = .handshake q ∧ q.IsReadFrom params := by
  constructor
  · intro h
    unfold handshakeOf at h
    split at h
    case h_2 => cases h
    next members =>
      split at h
      case h_1 => cases h
      next _ hne =>
        dsimp only at h
        split at h
        case h_3 => cases h
        all_goals
          next hroot =>
            cases h
            exact ⟨_, rfl, Json.eq_some_getD hne, hne, hroot, rfl⟩
  · rintro ⟨⟨root, capabilities, options⟩, rfl, hcap, hne, hroot, rfl⟩
    cases params with
    | object members =>
      have hfound : (Json.Members.get? "capabilities" members).getD .null = capabilities := by
        rw [show Json.Members.get? "capabilities" members = some capabilities from hcap]
        rfl
      have hnamed : (Json.Members.get? "rootUri" members).getD .null = Json.stringOrNull root :=
        hroot
      unfold handshakeOf
      dsimp only
      rw [hfound, hnamed]
      cases capabilities with
      | null => exact absurd rfl hne
      | _ => cases root <;> rfl
    -- a value of another kind holds no capabilities
    | _ => cases hcap

/-! ## The record of a handshake -/

/-- The record that parameters call for where the session is opened: the root as it was sent, or
that of the working directory where none was; the capabilities as they were sent; and the members
of the options, none if they are no object. -/
structure Record.IsOf (s : Surroundings) (params : Json) (r : Record) : Prop where
  root : params.get? "rootUri" = some (.string r.root) ∨
    ((params.get? "rootUri" = none ∨ params.get? "rootUri" = some .null) ∧
      ∃ directory, s.workingDirectory = .ok directory ∧ r.root = Root.ofDirectory directory)
  capabilities : params.get? "capabilities" = some r.clientCapabilities
  options : params.get? "initializationOptions" = some (.object r.options) ∨
    ((∀ members, params.get? "initializationOptions" ≠ some (.object members)) ∧ r.options = [])

/-- A root is found if one is named, and else in a working directory that is absolute. -/
theorem resolveRootWith_eq_ok {working : Except String Path} {named : Option String}
    {root : String} (h : resolveRootWith working named = .ok root) :
    named = some root ∨ named = none ∧ ∃ directory, working = .ok directory ∧
      Path.isAbsolute directory = true ∧ root = Root.ofDirectory directory := by
  unfold resolveRootWith at h
  split at h
  · cases h
    exact .inl rfl
  · split at h
    · cases h
    · next directory =>
      split at h
      · next habsolute =>
        cases h
        exact .inr ⟨rfl, directory, rfl, habsolute, rfl⟩
      · cases h

/-- A root is not found if none is named and the working directory cannot be read, or is not
absolute. -/
theorem resolveRootWith_eq_error {working : Except String Path} {named : Option String}
    {e : SessionError} (h : resolveRootWith working named = .error e) :
    named = none ∧ ((∃ cause, working = .error cause ∧ e = .rootResolution cause) ∨
      ∃ directory, working = .ok directory ∧ ¬Path.isAbsolute directory = true ∧
        e = .internal (Quoted.path directory ++ " is not an absolute path")) := by
  unfold resolveRootWith at h
  split at h
  · cases h
  · split at h
    · next cause =>
      cases h
      exact ⟨rfl, .inl ⟨cause, rfl, rfl⟩⟩
    · next directory =>
      split at h
      · cases h
      · next hrelative =>
        cases h
        exact ⟨rfl, .inr ⟨directory, rfl, hrelative, rfl⟩⟩

theorem resolveRoot_eq_ok {s : Surroundings} {named : Option String} {root : String}
    (h : resolveRoot s named = .ok root) :
    named = some root ∨ named = none ∧
      ∃ directory, s.workingDirectory = .ok directory ∧ root = Root.ofDirectory directory := by
  rcases resolveRootWith_eq_ok h with hnamed | ⟨hnone, directory, hdirectory, -, hroot⟩
  · exact .inl hnamed
  · exact .inr ⟨hnone, directory, hdirectory, hroot⟩

theorem resolveRoot_eq_error {s : Surroundings} {named : Option String} {e : SessionError}
    (h : resolveRoot s named = .error e) :
    named = none ∧ ∃ cause, s.workingDirectory = .error cause ∧ e = .rootResolution cause := by
  obtain ⟨hnone, hcause | ⟨directory, hdirectory, hrelative, -⟩⟩ := resolveRootWith_eq_error h
  · exact ⟨hnone, hcause⟩
  -- a working directory is absolute
  · exact absurd (s.isAbsolute directory hdirectory) hrelative

theorem Record.isOf_ofHandshake {s : Surroundings} {params : Json} {q : HandshakeRequest}
    {root : String} (hread : q.IsReadFrom params) (hroot : resolveRoot s q.root = .ok root) :
    (Record.ofHandshake root q.capabilities q.options).IsOf s params where
  root := by
    have hsent := hread.root
    rcases resolveRoot_eq_ok hroot with hnamed | ⟨hnone, hdirectory⟩
    · rw [hnamed] at hsent
      refine .inl ?_
      have hne : (params.get? "rootUri").getD .null ≠ .null := by
        rw [hsent]
        exact Json.noConfusion
      rw [Json.eq_some_getD hne, hsent]
      rfl
    · rw [hnone] at hsent
      refine .inr ⟨?_, hdirectory⟩
      cases hget : params.get? "rootUri" with
      | none => exact .inl rfl
      | some v =>
        rw [hget] at hsent
        exact .inr (congrArg some hsent)
  capabilities := hread.capabilities
  options := by
    rw [hread.options]
    cases hoptions : q.options with
    | none => exact .inr ⟨fun _ h => (nomatch h), rfl⟩
    | some v =>
      cases v with
      | object members => exact .inl rfl
      | _ => exact .inr ⟨fun _ h => (nomatch h), rfl⟩

/-! ## The calls of a controller -/

namespace Controller

/-- A handshake is refused by a session that has been opened or ended, and where it finds no root;
any other opens the session. -/
theorem handshake_spec (s : Surroundings) (c : Controller) (q : HandshakeRequest) :
    (c.state ≠ .uninitialized ∧ c.handshake s q
        = c.refuse (.invalidRequest ("initialize received while " ++ c.state.name))) ∨
      (c.state = .uninitialized ∧ ∃ e, resolveRoot s q.root = .error e ∧
        c.handshake s q = c.refuse e) ∨
      c.state = .uninitialized ∧ ∃ root, resolveRoot s q.root = .ok root ∧
        c.handshake s q = ⟨.ok (.withResult (handshakeResult c.document)),
          { c with
            state := .initializing
            record? := some (.ofHandshake root q.capabilities q.options) }, []⟩ := by
  unfold handshake
  split
  · next hstate => exact .inl ⟨hstate, rfl⟩
  · next hstate =>
    have hnew := Decidable.not_not.mp hstate
    split
    · next e he => exact .inr (.inl ⟨hnew, e, he, rfl⟩)
    · next root hroot => exact .inr (.inr ⟨hnew, root, hroot, rfl⟩)

/-- A handshake is refused and changes nothing, or it opens a session that had none. -/
theorem handshake_cases (s : Surroundings) (c : Controller) (q : HandshakeRequest) :
    (∃ e, c.handshake s q = c.refuse e) ∨
      c.state = .uninitialized ∧ ∃ root, resolveRoot s q.root = .ok root ∧
        c.handshake s q = ⟨.ok (.withResult (handshakeResult c.document)),
          { c with
            state := .initializing
            record? := some (.ofHandshake root q.capabilities q.options) }, []⟩ := by
  rcases handshake_spec s c q with ⟨-, hrefused⟩ | ⟨-, e, -, hrefused⟩ | hopened
  · exact .inl ⟨_, hrefused⟩
  · exact .inl ⟨e, hrefused⟩
  · exact .inr hopened

/-- The notice that the handshake is complete is refused before there was one; it starts the work of
a session that is being opened, unless its record were missing; and after that it is acknowledged
and changes nothing. -/
theorem initialized_spec (c : Controller) :
    (c.state = .uninitialized ∧ c.initialized = c.refuse .notInitialized) ∨
      (c.state = .initializing ∧ c.record? = none ∧
        c.initialized = c.refuse (.internal "session record missing")) ∨
      (c.state = .initializing ∧ ∃ r, c.record? = some r ∧
        c.initialized = ⟨.ok .acknowledge, { c with state := .initialized }, startUp r⟩) ∨
      (c.state ≠ .uninitialized ∧ c.state ≠ .initializing) ∧
        c.initialized = ⟨.ok .acknowledge, c, []⟩ := by
  unfold initialized
  split
  · next hstate => exact .inl ⟨hstate, rfl⟩
  · next hstate =>
    split
    · next hnone => exact .inr (.inl ⟨hstate, hnone, rfl⟩)
    · next r hr => exact .inr (.inr (.inl ⟨hstate, r, hr, rfl⟩))
  · next hnew hopening => exact .inr (.inr (.inr ⟨⟨hnew, hopening⟩, rfl⟩))

/-- The notice that the handshake is complete is refused, or it starts the work of a session that
is being opened, or it is acknowledged and changes nothing. -/
theorem initialized_cases (c : Controller) :
    (∃ e, c.initialized = c.refuse e) ∨
      (c.state = .initializing ∧ ∃ r, c.record? = some r ∧
        c.initialized = ⟨.ok .acknowledge, { c with state := .initialized }, startUp r⟩) ∨
      c.initialized = ⟨.ok .acknowledge, c, []⟩ := by
  rcases c.initialized_spec with ⟨-, hrefused⟩ | ⟨-, -, hrefused⟩ | hstarted | ⟨-, hnothing⟩
  · exact .inl ⟨_, hrefused⟩
  · exact .inl ⟨_, hrefused⟩
  · exact .inr (.inl hstarted)
  · exact .inr (.inr hnothing)

/-- The exit code tells whether the session was ended when its client left. -/
theorem exitCode_eq_zero_iff (c : Controller) : c.exitCode.1 = 0 ↔ c.state = .shuttingDown := by
  unfold exitCode exitStatus
  by_cases hstate : c.state = .shuttingDown
  · rw [if_pos hstate]
    exact iff_of_true rfl hstate
  · rw [if_neg hstate]
    exact iff_of_false (show (1 : Int) ≠ 0 by decide) hstate

theorem exitCode_eq_one_iff (c : Controller) : c.exitCode.1 = 1 ↔ c.state ≠ .shuttingDown := by
  unfold exitCode exitStatus
  by_cases hstate : c.state = .shuttingDown
  · rw [if_pos hstate]
    exact iff_of_false (show (0 : Int) ≠ 1 by decide) (not_not_intro hstate)
  · rw [if_neg hstate]
    exact iff_of_true rfl hstate

end Controller

end SessionGate
