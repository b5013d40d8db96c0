import SessionGate.Proofs.Host.Handshake

/-!
# What one message does to a host

Every message, in every state of the gate, makes one of six moves. What holds of all runs of a host
is proved of these moves and does not look into the host again.

- `Host.Move`: the six moves.
- `Host.move`: every message makes one of them, if the document of the host is in normal form.
- `Host.gate_shutdown`: a shutdown shuts an open gate, whatever its form.

The document matters because a handshake moves the controller before its answer is read against its
shape: an answer that did not fit would leave the gate behind the controller.
-/

namespace SessionGate

/-- A request without parameters. -/
def Message.IsBareRequest (m : Message) : Prop :=
  m.id.isSome ∧ m.params = none

/-- The workspace event that the server registers for. -/
def watchedFiles : String := "didChangeWatchedFiles"

/-- The requests for registrations that a session makes of its client: one, if the client declares
that it lets the server register for changes of files, and none otherwise. -/
def Record.requests (r : Record) : List (List Registration) :=
  if r.clientCapability? ["workspace", watchedFiles, "dynamicRegistration"] = some (.bool true) then
    [[.forEvent r watchedFiles]]
  else []

namespace Host

/-- What one message can do to a host. -/
inductive Move (h h' : Host) (x : Exchange) : Prop where
  /-- Nothing but the parameters that are kept may change. -/
  | idle (gate : h'.gate = h.gate) (controller : x.controller = h.controller)
      (result : x.result? = none) (quiet : x.IsQuiet)
  /-- A handshake opens gate and session. -/
  | opens (p : Json) (r : Record) (closed : h.gate = .uninitialized)
      (state : h.controller.state = .uninitialized)
      (method : x.delivery.message.method = "initialize")
      (params : x.delivery.message.params = some p) (record : r.IsOf x.delivery.surroundings p)
      (gate : h'.gate = .initialized)
      (controller : x.controller = { h.controller with state := .initializing, record? := some r })
      (result : x.result? = some (handshakeResult h.controller.document)) (quiet : x.IsQuiet)
  /-- The notice that the handshake is complete starts the work of the session. -/
  | completes (r : Record) (closed : h.gate = .initialized)
      (state : h.controller.state = .initializing) (record : h.controller.record? = some r)
      (method : x.delivery.message.method = "initialized") (notice : x.delivery.message.id = none)
      (gate : h'.gate = .initialized)
      (controller : x.controller = { h.controller with state := .initialized })
      (result : x.result? = none)
      (triggers : x.triggers = [.startNode (NodeName.forRoot applicationName r.root), .index r])
      (registrations : x.registrations = r.requests)
  /-- A shutdown that the controller never sees closes the gate. -/
  | locks (closed : h.gate = .initialized) (method : x.delivery.message.method = "shutdown")
      (form : ¬x.delivery.message.IsBareRequest) (gate : h'.gate = .shutDown)
      (controller : x.controller = h.controller) (result : x.result? = none) (quiet : x.IsQuiet)
  /-- A shutdown closes the gate and ends the session. -/
  | ends (closed : h.gate = .initialized) (method : x.delivery.message.method = "shutdown")
      (form : x.delivery.message.IsBareRequest) (gate : h'.gate = .shutDown)
      (controller : x.controller = { h.controller with state := .shuttingDown })
      (result : x.result? = some .null) (quiet : x.IsQuiet)
  /-- The host is ended. -/
  | exits (method : x.delivery.message.method = "exit") (gate : h'.gate = .exited)
      (controller : x.controller = h.controller) (result : x.result? = none) (quiet : x.IsQuiet)

/-- A delivery that comes to a host and an emission is a move. -/
def IsMove (h : Host) (d : Delivery) (p : Host × Emission) : Prop :=
  h.Move p.1 ⟨d, some p.2, p.1.controller⟩

variable {h : Host} {d : Delivery}

/-! ## Messages that change nothing -/

theorem IsDenial.isMove {p : Host × Emission} (hp : h.IsDenial p) : h.IsMove d p :=
  .idle hp.gate hp.controller hp.result ⟨hp.triggers, hp.registrations⟩

theorem isMove_silent (raw : RawParams) : h.IsMove d ({ h with raw := raw }, .silent) :=
  (isDenial_silent raw).isMove

theorem isMove_refusal (raw : RawParams) (id : Option Json) (e : WireError) :
    h.IsMove d ({ h with raw := raw }, .refusal id e) :=
  (isDenial_refusal raw id e).isMove

theorem isMove_closed (id : Option Json) : h.IsMove d (h.closed id) := by
  unfold closed
  split
  · exact isMove_refusal h.raw id _
  · exact isMove_refusal h.raw id _

theorem isMove_decline (shape : Shape) (m : Message) : h.IsMove d (h.decline shape m) := by
  unfold decline
  split
  · split
    · exact isMove_refusal h.raw _ _
    · split
      · exact isMove_refusal h.raw _ _
      · exact isMove_refusal h.raw _ _
  · exact isMove_closed m.id

theorem isMove_ignore (m : Message) : h.IsMove d (h.ignore m) := by
  unfold ignore
  split
  · exact isMove_refusal h.raw _ _
  · exact isMove_closed m.id

theorem isMove_unknown (m : Message) : h.IsMove d (h.unknown m) := by
  unfold unknown
  split
  · exact isMove_silent h.raw
  · exact isMove_refusal h.raw _ _

/-! ## The messages of a session's life -/

theorem isMove_handshake (hdocument : h.controller.document.IsNormal)
    (hmethod : d.message.method = "initialize") :
    h.IsMove d (h.handshake ⟨d.surroundings, true⟩ d.message) := by
  by_cases hhands : ∃ q, h.Hands d q
  · obtain ⟨q, hq⟩ := hhands
    obtain ⟨id, hid⟩ := hq.request
    obtain ⟨p, -, hparams, -, hread⟩ := hq.read
    rw [handshake_of_hands hq]
    rcases h.controller.handshake_cases d.surroundings q with ⟨e, he⟩ | ⟨hstate, root, hroot, ho⟩
    · rw [he]
      exact .idle hq.gate.symm rfl (by rw [hid]; rfl) ⟨rfl, rfl⟩
    · rw [ho, Reply.typed_handshakeResult hdocument]
      exact .opens p _ hq.gate hstate hmethod hparams (Record.isOf_ofHandshake hread hroot) rfl rfl
        (by rw [hid]; rfl) ⟨rfl, rfl⟩
  · exact (isDenial_handshake hmethod fun q hq => hhands ⟨q, hq⟩).isMove

theorem registrations_startUp (r : Record) :
    (Controller.startUp r).filterMap Trigger.registrations? = r.requests := by
  have hall : Registration.all r =
      if Registration.isSupported r watchedFiles then [.forEvent r watchedFiles] else [] := by
    unfold Registration.all Registration.events watchedFiles
    cases hsupported : Registration.isSupported r "didChangeWatchedFiles" <;> simp [hsupported]
  unfold Controller.startUp Record.requests
  rw [hall]
  by_cases hdynamic :
      r.clientCapability? ["workspace", watchedFiles, "dynamicRegistration"] = some (.bool true)
  · have hsupported : Registration.isSupported r watchedFiles = true := decide_eq_true hdynamic
    rw [hsupported, if_pos hdynamic]
    rfl
  · have hsupported : Registration.isSupported r watchedFiles = false := decide_eq_false hdynamic
    rw [hsupported, if_neg hdynamic]
    rfl

theorem triggers_startUp (r : Record) :
    (Controller.startUp r).filter (fun t => t.registrations?.isNone)
      = [.startNode (NodeName.forRoot applicationName r.root), .index r] := by
  unfold Controller.startUp
  split <;> rfl

theorem isMove_completed (hmethod : d.message.method = "initialized") :
    h.IsMove d (h.completed d.message) := by
  unfold completed
  split
  · next hgate =>
    split
    · exact isMove_refusal h.raw _ _
    · exact isMove_silent h.raw
    · next hid _ =>
      split
      · exact isMove_silent h.raw
      · rcases h.controller.initialized_cases with ⟨e, he⟩ | ⟨hstate, r, hr, ho⟩ | ho
        · rw [he]
          exact .idle rfl rfl rfl ⟨rfl, rfl⟩
        · rw [ho]
          exact .completes r hgate hstate hr hmethod hid hgate rfl rfl (triggers_startUp r)
            (registrations_startUp r)
        · rw [ho]
          exact .idle rfl rfl rfl ⟨rfl, rfl⟩
  · exact isMove_closed _

theorem isMove_shutdown (hmethod : d.message.method = "shutdown") :
    h.IsMove d (h.shutdown d.message) := by
  unfold shutdown
  split
  · next hgate =>
    dsimp only
    split
    · next hid =>
      refine .locks hgate hmethod (fun hform => ?_) rfl rfl rfl ⟨rfl, rfl⟩
      have hrequest := hform.1
      rw [hid] at hrequest
      cases hrequest
    · next hid hparams =>
      refine .locks hgate hmethod (fun hform => ?_) rfl rfl (by rw [hid]; rfl) ⟨rfl, rfl⟩
      cases hparams.symm.trans hform.2
    · next hid hparams =>
      exact .ends hgate hmethod ⟨by rw [hid]; rfl, hparams⟩ rfl rfl (by rw [hid]; rfl) ⟨rfl, rfl⟩
  · exact isMove_closed _

/-! ## Every message -/

/-- The methods of a session's life and of its end are known by their names alone. -/
theorem ofName?_cases (name : String) :
    (Method.ofName? name = some .handshake ∧ name = "initialize") ∨
      (Method.ofName? name = some .completed ∧ name = "initialized") ∨
      (Method.ofName? name = some .shutdown ∧ name = "shutdown") ∨
      (Method.ofName? name = some .exit ∧ name = "exit") ∨
      Method.ofName? name = some .cancellation ∨
      (∃ shape, Method.ofName? name = some (.request shape)) ∨
      Method.ofName? name = some .notice ∨ Method.ofName? name = none := by
  unfold Method.ofName?
  split
  · exact .inl ⟨rfl, rfl⟩
  · exact .inr (.inl ⟨rfl, rfl⟩)
  · exact .inr (.inr (.inl ⟨rfl, rfl⟩))
  · exact .inr (.inr (.inr (.inl ⟨rfl, rfl⟩)))
  · exact .inr (.inr (.inr (.inr (.inl rfl))))
  · refine .inr (.inr (.inr (.inr (.inr ?_))))
    split
    · exact .inl ⟨_, rfl⟩
    · split
      · exact .inr (.inl rfl)
      · exact .inr (.inr rfl)

theorem isMove_dispatch (hdocument : h.controller.document.IsNormal) :
    h.IsMove d (h.dispatch ⟨d.surroundings, true⟩ d.message) := by
  unfold dispatch
  rcases ofName?_cases d.message.method with ⟨hname, hmethod⟩ | ⟨hname, hmethod⟩ |
    ⟨hname, hmethod⟩ | ⟨hname, hmethod⟩ | hname | ⟨shape, hname⟩ | hname | hname <;> rw [hname]
  · exact isMove_handshake hdocument hmethod
  · exact isMove_completed hmethod
  · exact isMove_shutdown hmethod
  · exact .exits hmethod rfl rfl rfl ⟨rfl, rfl⟩
  · exact isMove_refusal h.raw _ _
  · exact isMove_decline shape _
  · exact isMove_ignore _
  · exact isMove_unknown _

/-- Every message makes one of the six moves. -/
theorem move (hdocument : h.controller.document.IsNormal) (d : Delivery) :
    h.Move (h.receive d).1 (h.exchange d) := by
  unfold exchange receive step
  split
  · exact .idle rfl rfl rfl ⟨rfl, rfl⟩
  · exact isMove_dispatch hdocument

/-- A shutdown shuts an open gate, in whichever form it comes. -/
theorem gate_shutdown (hopen : h.gate = .initialized) {d : Delivery}
    (hmethod : d.message.method = "shutdown") : (h.receive d).1.gate = .shutDown := by
  unfold receive step
  rw [hopen]
  dsimp only
  unfold dispatch
  rw [hmethod]
  show (h.shutdown d.message).1.gate = .shutDown
  unfold shutdown
  rw [hopen]
  dsimp only
  split <;> rfl

end Host

end SessionGate
