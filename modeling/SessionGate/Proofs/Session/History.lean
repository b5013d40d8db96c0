import SessionGate.Proofs.Session.Calls

/-!
# The history of a session

A controller is called one time after another, for anything and in any order. This is what one call
can do to it; whatever is proved of histories rests on that.

- `Call`: what a controller is called for, and the surroundings in which it is. They may change from
  one call to the next.
- `Turn`: a call, and the controller that it found.
- `Controller.call`, `Controller.after`, `Controller.history`: what a call comes to, the controller
  after calls, and the turn of each of them.
- `Controller.Refusal`, `Controller.Effect`: why a call is refused, and the six things that a call
  can do; `Controller.effect`: every call does one of them.
- `Controller.Sound`: a session has a record while it is being opened, and none before.
-/

namespace SessionGate

/-- What a controller can be called for. -/
inductive Demand where
  /-- A request, as it is. -/
  | request (r : Request)
  /-- A method and its parameters, to be read as a request first. -/
  | message (method : String) (params : Json)
  /-- The exit code, once the client has left. -/
  | exitCode

/-- A call, and what the controller finds outside itself when it is made. -/
structure Call where
  demand : Demand
  surroundings : Surroundings

namespace Call

/-- A request in surroundings without a working directory. -/
def bare (r : Request) : Call :=
  ⟨.request r, .lost "No such file or directory"⟩

/-- A handshake of a client without capabilities, where there is no working directory. -/
def handshake (root : Option String) : Call :=
  bare (.handshake ⟨root, .empty, none⟩)

/-- The request that a call hands to the controller. There is none if the parameters cannot be
read. -/
def request? (k : Call) : Option Request :=
  match k.demand with
  | .request r => some r
  | .message method params => (Request.ofMethod method params).toOption
  | .exitCode => none

/-- A shutdown. -/
def IsShutdown (k : Call) : Prop :=
  k.request? = some .shutdown

/-- An exit, whoever makes it: the client, or the process that asks for its exit code. -/
def IsExit (k : Call) : Prop :=
  k.demand = .exitCode ∨ ∃ status, k.request? = some (.exit status)

@[simp] theorem request?_message (method : String) (params : Json) (s : Surroundings) :
    request? ⟨.message method params, s⟩ = (Request.ofMethod method params).toOption := rfl

variable {k : Call} {r : Request}

theorem request?_of_unread {method : String} {params : Json} {e : SessionError}
    (hdemand : k.demand = .message method params)
    (hread : Request.ofMethod method params = .error e) : k.request? = none := by
  unfold request?
  rw [hdemand]
  dsimp only
  rw [hread]
  rfl

theorem demand_ne_exitCode (hr : k.request? = some r) : k.demand ≠ .exitCode := by
  intro hdemand
  unfold request? at hr
  rw [hdemand] at hr
  cases hr

theorem not_isExit (hr : k.request? = some r) (hne : ∀ status, r ≠ .exit status) : ¬k.IsExit := by
  rintro (hdemand | ⟨status, hexit⟩)
  · exact demand_ne_exitCode hr hdemand
  · exact hne status (Option.some.inj (hr.symm.trans hexit))

theorem not_isShutdown_of_isExit (hk : k.IsExit) : ¬k.IsShutdown := by
  intro hshutdown
  exact not_isExit hshutdown (fun _ => nofun) hk

/-- A request of another kind ends nothing. -/
theorem not_end (hr : k.request? = some r) (hshutdown : r ≠ .shutdown)
    (hexit : ∀ status, r ≠ .exit status) : ¬k.IsShutdown ∧ ¬k.IsExit :=
  ⟨fun h => hshutdown (Option.some.inj (hr.symm.trans h)), not_isExit hr hexit⟩

/-- What cannot be read ends nothing. -/
theorem not_end_of_unread {method : String} {params : Json} {e : SessionError}
    (hdemand : k.demand = .message method params)
    (hread : Request.ofMethod method params = .error e) : ¬k.IsShutdown ∧ ¬k.IsExit := by
  have hnone := request?_of_unread hdemand hread
  constructor
  · intro hshutdown
    cases hnone.symm.trans hshutdown
  · rintro (hcode | ⟨status, hexit⟩)
    · cases hdemand.symm.trans hcode
    · cases hnone.symm.trans hexit

end Call

namespace Controller

/-- What a call comes to. Parameters that cannot be read never reach the controller. -/
def call (c : Controller) (k : Call) : Outcome :=
  match k.demand with
  | .request r => c.handle k.surroundings r
  | .message method params =>
    match Request.ofMethod method params with
    | .ok r => c.handle k.surroundings r
    | .error e => c.refuse e
  | .exitCode => ⟨.ok (.terminating c.exitCode.1), c.exitCode.2, []⟩

theorem call_message (c : Controller) (method : String) (params : Json) (s : Surroundings) :
    c.call ⟨.message method params, s⟩ =
      match Request.ofMethod method params with
      | .ok r => c.handle s r
      | .error e => c.refuse e := rfl

/-- A request that can be read is handled, however it comes. -/
theorem call_eq_handle {c : Controller} {k : Call} {r : Request} (hk : k.request? = some r) :
    c.call k = c.handle k.surroundings r := by
  obtain ⟨demand, s⟩ := k
  cases demand with
  | request _ =>
    cases hk
    rfl
  | message method params =>
    rw [Call.request?_message] at hk
    rw [call_message]
    cases hread : Request.ofMethod method params with
    | ok _ =>
      rw [hread] at hk
      cases hk
      rfl
    | error e =>
      rw [hread] at hk
      cases hk
  | exitCode => cases hk

/-- A shutdown is accepted in every stage, and announces the end whatever it was. -/
theorem call_of_isShutdown {c : Controller} {k : Call} (hk : k.IsShutdown) :
    c.call k = ⟨.ok .acknowledge, { c with state := .shuttingDown }, []⟩ :=
  call_eq_handle hk

end Controller

/-- A call, and the controller that it found. -/
structure Turn where
  before : Controller
  call : Call

namespace Turn

/-- What the call came to. -/
def outcome (t : Turn) : Outcome :=
  t.before.call t.call

/-- A handshake that was answered with a result. -/
def IsOpening (t : Turn) : Prop :=
  (∃ q, t.call.request? = some (.handshake q)) ∧ ∃ reply, t.outcome.reply = .ok reply

/-- The notice that the handshake is complete, taken by a session that is being opened. -/
def IsStart (t : Turn) : Prop :=
  t.call.request? = some .initialized ∧ t.before.state = .initializing

instance (t : Turn) : Decidable t.IsStart :=
  inferInstanceAs (Decidable (_ ∧ _))

end Turn

namespace Controller

/-- The controller after calls. -/
def after (c : Controller) (ks : List Call) : Controller :=
  ks.foldl (fun c k => (c.call k).controller) c

/-- The turn of each call. -/
def history (c : Controller) : List Call → List Turn
  | [] => []
  | k :: ks => ⟨c, k⟩ :: history (c.call k).controller ks

variable {c : Controller}

@[simp] theorem after_nil (c : Controller) : c.after [] = c := rfl

@[simp] theorem after_cons (c : Controller) (k : Call) (ks : List Call) :
    c.after (k :: ks) = (c.call k).controller.after ks := rfl

theorem after_append (c : Controller) (js ks : List Call) :
    c.after (js ++ ks) = (c.after js).after ks :=
  List.foldl_append ..

@[simp] theorem history_nil (c : Controller) : c.history [] = [] := rfl

@[simp] theorem history_cons (c : Controller) (k : Call) (ks : List Call) :
    c.history (k :: ks) = ⟨c, k⟩ :: (c.call k).controller.history ks := rfl

/-- Where a history is cut, so are the calls. -/
theorem history_eq_append_cons {ks : List Call} {us vs : List Turn} {t : Turn}
    (h : c.history ks = us ++ t :: vs) :
    ∃ js ls, ks = js ++ t.call :: ls ∧ us = c.history js ∧ t.before = c.after js ∧
      vs = t.outcome.controller.history ls := by
  induction us generalizing c ks with
  | nil =>
    cases ks with
    | nil => cases h
    | cons k ks =>
      obtain ⟨rfl, rfl⟩ := List.cons.inj h
      exact ⟨[], ks, rfl, rfl, rfl, rfl⟩
  | cons u us ih =>
    cases ks with
    | nil => cases h
    | cons k ks =>
      obtain ⟨rfl, hrest⟩ := List.cons.inj h
      obtain ⟨js, ls, rfl, rfl, hbefore, hvs⟩ := ih hrest
      exact ⟨k :: js, ls, rfl, rfl, hbefore, hvs⟩

/-- What every call keeps is found by every turn, and holds in the end. -/
theorem holds_along {P : Controller → Prop}
    (hkept : ∀ c k, P c → P (c.call k).controller) (hc : P c) (ks : List Call) :
    (∀ t ∈ c.history ks, P t.before) ∧ P (c.after ks) := by
  induction ks generalizing c with
  | nil => exact ⟨nofun, hc⟩
  | cons k ks ih =>
    obtain ⟨hturns, hend⟩ := ih (hkept c k hc)
    exact ⟨List.forall_mem_cons.mpr ⟨hc, hturns⟩, hend⟩

/-! ## What one call can do -/

/-- Why a call is refused. -/
inductive Refusal (c : Controller) (k : Call) : SessionError → Prop where
  /-- The parameters cannot be read. -/
  | unread (method : String) (params : Json) (e : SessionError)
      (demand : k.demand = .message method params)
      (read : Request.ofMethod method params = .error e) : c.Refusal k e
  /-- The session has been opened already, or ended. -/
  | late (q : HandshakeRequest) (asked : k.request? = some (.handshake q))
      (state : c.state ≠ .uninitialized) :
      c.Refusal k (.invalidRequest ("initialize received while " ++ c.state.name))
  /-- No root is named, and there is no working directory. -/
  | rootless (q : HandshakeRequest) (cause : String) (asked : k.request? = some (.handshake q))
      (state : c.state = .uninitialized) (root : q.root = none)
      (directory : k.surroundings.workingDirectory = .error cause) :
      c.Refusal k (.rootResolution cause)
  /-- There has been no handshake that could be complete. -/
  | early (asked : k.request? = some .initialized) (state : c.state = .uninitialized) :
      c.Refusal k .notInitialized
  /-- The session is being opened without a record. -/
  | lost (asked : k.request? = some .initialized) (state : c.state = .initializing)
      (record : c.record? = none) : c.Refusal k (.internal "session record missing")

/-- What one call can do. -/
inductive Effect (c : Controller) (k : Call) (o : Outcome) : Prop where
  /-- It is refused, and changes nothing. -/
  | refuses (e : SessionError) (cause : c.Refusal k e) (outcome : o = c.refuse e)
  /-- It opens the session. -/
  | opens (q : HandshakeRequest) (root : String) (asked : k.request? = some (.handshake q))
      (state : c.state = .uninitialized)
      (resolved : resolveRoot k.surroundings q.root = .ok root)
      (outcome : o = ⟨.ok (.withResult (handshakeResult c.document)),
        { c with
          state := .initializing
          record? := some (.ofHandshake root q.capabilities q.options) }, []⟩)
  /-- It completes the handshake and starts the work of the session. -/
  | starts (r : Record) (asked : k.request? = some .initialized) (state : c.state = .initializing)
      (record : c.record? = some r)
      (outcome : o = ⟨.ok .acknowledge, { c with state := .initialized }, startUp r⟩)
  /-- It is the notice that the handshake is complete, out of season. -/
  | acknowledges (asked : k.request? = some .initialized)
      (state : c.state ≠ .uninitialized ∧ c.state ≠ .initializing)
      (outcome : o = ⟨.ok .acknowledge, c, []⟩)
  /-- It announces the end. -/
  | shutsDown (asked : k.IsShutdown)
      (outcome : o = ⟨.ok .acknowledge, { c with state := .shuttingDown }, []⟩)
  /-- It ends the session. -/
  | exits (status : ExitStatus) (asked : k.IsExit)
      (outcome : o = ⟨.ok (.terminating status.code), { c with state := .exited }, []⟩)

theorem effect_handshake {k : Call} {q : HandshakeRequest}
    (hk : k.request? = some (.handshake q)) : c.Effect k (c.handshake k.surroundings q) := by
  rcases handshake_spec k.surroundings c q with ⟨hstate, ho⟩ | ⟨hnew, e, he, ho⟩ |
    ⟨hnew, root, hroot, ho⟩
  · exact .refuses _ (.late q hk hstate) ho
  · obtain ⟨hnone, cause, hcause, rfl⟩ := resolveRoot_eq_error he
    exact .refuses _ (.rootless q cause hk hnew hnone hcause) ho
  · exact .opens q root hk hnew hroot ho

theorem effect_initialized {k : Call} (hk : k.request? = some .initialized) :
    c.Effect k c.initialized := by
  rcases c.initialized_spec with ⟨hstate, ho⟩ | ⟨hstate, hnone, ho⟩ | ⟨hstate, r, hr, ho⟩ |
    ⟨hstate, ho⟩
  · exact .refuses _ (.early hk hstate) ho
  · exact .refuses _ (.lost hk hstate hnone) ho
  · exact .starts r hk hstate hr ho
  · exact .acknowledges hk hstate ho

theorem effect_handle {k : Call} {r : Request} (hk : k.request? = some r) :
    c.Effect k (c.handle k.surroundings r) := by
  cases r with
  | handshake q => exact effect_handshake hk
  | initialized => exact effect_initialized hk
  | shutdown => exact .shutsDown hk rfl
  | exit status => exact .exits status (.inr ⟨status, hk⟩) rfl

/-- Every call does one of these things. -/
theorem effect (c : Controller) (k : Call) : c.Effect k (c.call k) := by
  cases hk : k.request? with
  | some r =>
    rw [call_eq_handle hk]
    exact effect_handle hk
  | none =>
    obtain ⟨demand, s⟩ := k
    cases demand with
    | request r => cases hk
    | message method params =>
      cases hread : Request.ofMethod method params with
      | ok r =>
        rw [Call.request?_message, hread] at hk
        cases hk
      | error e =>
        rw [call_message, hread]
        exact .refuses e (.unread method params e rfl hread) rfl
    | exitCode => exact .exits c.exitStatus (.inl rfl) rfl

/-- A call that is answered with an error was refused for it, and changed nothing. -/
theorem refusal_of_error {k : Call} {e : SessionError} (h : (c.call k).reply = .error e) :
    c.Refusal k e ∧ c.call k = c.refuse e := by
  have hanswered {reply : Reply} (hreply : (c.call k).reply = .ok reply) :
      c.Refusal k e ∧ c.call k = c.refuse e :=
    nomatch hreply.symm.trans h
  cases c.effect k with
  | refuses e' cause outcome =>
    obtain rfl : e' = e := by
      rw [outcome] at h
      exact Except.error.inj h
    exact ⟨cause, outcome⟩
  | opens _ _ _ _ _ outcome => exact hanswered (congrArg Outcome.reply outcome)
  | starts _ _ _ _ outcome => exact hanswered (congrArg Outcome.reply outcome)
  | acknowledges _ _ outcome => exact hanswered (congrArg Outcome.reply outcome)
  | shutsDown _ outcome => exact hanswered (congrArg Outcome.reply outcome)
  | exits _ _ outcome => exact hanswered (congrArg Outcome.reply outcome)

/-- What is refused is a handshake, the notice that one is complete, or cannot be read. -/
theorem Refusal.not_end {k : Call} {e : SessionError} (hk : c.Refusal k e) :
    ¬k.IsShutdown ∧ ¬k.IsExit := by
  cases hk with
  | unread method params e demand read => exact Call.not_end_of_unread demand read
  | late q asked => exact Call.not_end asked nofun nofun
  | rootless q cause asked => exact Call.not_end asked nofun nofun
  | early asked => exact Call.not_end asked nofun nofun
  | lost asked => exact Call.not_end asked nofun nofun

/-! ## State and record -/

/-- A session has no record before its handshake, and has one while it is being opened. -/
structure Sound (c : Controller) : Prop where
  unopened : c.state = .uninitialized → c.record? = none
  opening : c.state = .initializing → c.record? ≠ none

theorem sound_new (document : Document) : (new document).Sound where
  unopened _ := rfl
  opening hstate := nomatch hstate

theorem Sound.call (hc : c.Sound) (k : Call) : (c.call k).controller.Sound := by
  have hclosed {state : SessionState} {r? : Option Record} (hnew : state ≠ .uninitialized)
      (hrecord : state = .initializing → r? ≠ none) :
      Sound { c with state := state, record? := r? } :=
    { unopened := fun hstate => absurd hstate hnew, opening := hrecord }
  cases c.effect k with
  | refuses e _ outcome =>
    rw [outcome]
    exact hc
  | opens q root _ _ _ outcome =>
    rw [outcome]
    exact hclosed nofun fun _ => Option.some_ne_none _
  | starts r _ _ _ outcome =>
    rw [outcome]
    exact hclosed nofun nofun
  | acknowledges _ _ outcome =>
    rw [outcome]
    exact hc
  | shutsDown _ outcome =>
    rw [outcome]
    exact hclosed nofun nofun
  | exits _ _ outcome =>
    rw [outcome]
    exact hclosed nofun nofun

theorem Sound.after (hc : c.Sound) (ks : List Call) : (c.after ks).Sound :=
  (holds_along (P := Sound) (fun _ k hc => hc.call k) hc ks).2

theorem Sound.before (hc : c.Sound) {ks : List Call} {t : Turn} (ht : t ∈ c.history ks) :
    t.before.Sound :=
  (holds_along (P := Sound) (fun _ k hc => hc.call k) hc ks).1 t ht

end Controller

end SessionGate
