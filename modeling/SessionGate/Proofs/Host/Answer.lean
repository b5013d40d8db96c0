import SessionGate.Proofs.Host.Coherence

/-!
# A handshake that is accepted is answered

The controller has moved on before its reply to a handshake is read against the shape of the answer
and written again. A reply that did not fit would come to the client as an internal error and leave
the gate behind the controller. With the standard providers no reply is ever of this kind, whatever
is switched on or off, and the client is sent just what the controller replied.

- `receive_of_hands`, `result?_of_not_hands`: what a host makes of a message by the name of the
  handshake.
- `Accepts`: the controller accepts the handshake that a message brings it.
- `document_after`: the document that is announced stays the one that the host was made with;
  `result?_of_mem_log`: it is the answer to every handshake that is answered.
- `Faithful`: what the client is sent is what the controller replied.
- `handshakes_answered`: every message of every run.
-/

namespace SessionGate

/-- A reply of the controller as the client is to be told it. -/
def Reply.onWire : Except SessionError Reply → Except WireError Json
  | .ok r => .ok r.result
  | .error e => .error (.ofSession e)

namespace Host

/-- The controller accepts the handshake that a message hands it. -/
def Accepts (h : Host) (d : Delivery) : Prop :=
  ∃ q, h.Hands d q ∧ (h.controller.handshake d.surroundings q).reply.toBool = true

variable {h : Host} {d : Delivery} {q : HandshakeRequest}

/-! ## What a handshake comes to -/

theorem dispatch_handshake (setting : HostSetting) {m : Message} (hm : m.method = "initialize") :
    h.dispatch setting m = h.handshake setting m := by
  unfold dispatch
  rw [hm]
  rfl

/-- Before the gate is opened a handshake is looked at. -/
theorem step_of_handshake (setting : HostSetting) {m : Message} (hgate : h.gate = .uninitialized)
    (hm : m.method = "initialize") :
    h.step setting m = ((h.handshake setting m).1, some (h.handshake setting m).2) := by
  unfold step
  rw [dispatch_handshake _ hm, hgate]

theorem receive_of_hands (hq : h.Hands d q) :
    h.receive d =
      (⟨if (Reply.typed (h.controller.handshake d.surroundings q).reply).toBool then .initialized
          else .uninitialized, (h.controller.handshake d.surroundings q).controller, .none⟩,
        some { Emission.answer d.message.id
            (Reply.typed (h.controller.handshake d.surroundings q).reply) with
          notices := ["LSP server initializing"] }) := by
  unfold receive
  rw [step_of_handshake _ hq.gate hq.method, handshake_of_hands hq]

theorem result?_of_not_hands (hmethod : d.message.method = "initialize")
    (hnot : ∀ q, ¬h.Hands d q) : (h.exchange d).result? = none := by
  unfold exchange receive step
  split
  · rfl
  · rw [dispatch_handshake _ hmethod]
    exact (isDenial_handshake hmethod hnot).result

/-! ## What is sent is what was replied -/

/-- The result of a message, from the response to it. -/
theorem result?_of_response {x : Exchange} {e : Emission} {r : Response}
    (hemission : x.emission = some e) (hresponse : e.response = some r) :
    x.result? = r.content.toOption := by
  rw [Exchange.result?, hemission, Option.bind_some, hresponse, Option.bind_some]

/-- A reply in normal form is sent as it is. -/
theorem typed_handshake (hdocument : h.controller.document.IsNormal) (s : Surroundings)
    (q : HandshakeRequest) :
    Reply.typed (h.controller.handshake s q).reply
      = Reply.onWire (h.controller.handshake s q).reply := by
  rcases h.controller.handshake_cases s q with ⟨e, hrefused⟩ | ⟨-, root, -, hopened⟩
  · rw [hrefused]
    rfl
  · rw [hopened]
    exact Reply.typed_handshakeResult hdocument

/-- What the client is told of a handshake is what the controller made of it. -/
structure Faithful (h : Host) (d : Delivery) (result : Json) : Prop where
  /-- Whatever the controller replies to a handshake is sent as it is. -/
  replied : ∀ q, h.Hands d q → ∃ id e, d.message.id = some id ∧
    (h.exchange d).emission = some e ∧
    e.response = some ⟨id, Reply.onWire (h.controller.handshake d.surroundings q).reply⟩
  /-- A handshake that is accepted is answered with this result, and the gate opens. -/
  answered : h.Accepts d → ∃ id e, d.message.id = some id ∧
    (h.exchange d).emission = some e ∧ e.response = some ⟨id, .ok result⟩ ∧
    (h.receive d).1.gate = .initialized
  /-- No other handshake is answered with a result. -/
  accepted_iff_answered : h.Accepts d ↔ (h.exchange d).IsOpening
  /-- Nothing else opens the session. -/
  accepted_iff_opened : h.Accepts d ↔
    h.controller.state = .uninitialized ∧ (h.exchange d).controller.state = .initializing

theorem replied_of_hands (hdocument : h.controller.document.IsNormal) (hq : h.Hands d q) :
    ∃ id e, d.message.id = some id ∧ (h.exchange d).emission = some e ∧
      e.response = some ⟨id, Reply.onWire (h.controller.handshake d.surroundings q).reply⟩ := by
  obtain ⟨id, hid⟩ := hq.request
  refine ⟨id, _, hid, congrArg Prod.snd (receive_of_hands hq), ?_⟩
  rw [typed_handshake hdocument, hid]
  rfl

/-- An accepted handshake opens a session that had none, and is answered with what is announced. -/
theorem handshake_of_accepted {s : Surroundings} {c : Controller}
    (h : (c.handshake s q).reply.toBool = true) :
    c.state = .uninitialized ∧ (c.handshake s q).controller.state = .initializing ∧
      (c.handshake s q).reply = .ok (.withResult (handshakeResult c.document)) := by
  rcases c.handshake_cases s q with ⟨e, hrefused⟩ | ⟨hstate, root, -, hopened⟩
  · rw [hrefused] at h
    cases h
  · rw [hopened]
    exact ⟨hstate, rfl, rfl⟩

theorem answered_of_accepts (hdocument : h.controller.document.IsNormal) (ha : h.Accepts d) :
    ∃ id e, d.message.id = some id ∧ (h.exchange d).emission = some e ∧
      e.response = some ⟨id, .ok (handshakeResult h.controller.document)⟩ ∧
      (h.receive d).1.gate = .initialized := by
  obtain ⟨q, hq, hok⟩ := ha
  obtain ⟨-, -, hreply⟩ := handshake_of_accepted hok
  have hsent : Reply.typed (h.controller.handshake d.surroundings q).reply
      = .ok (handshakeResult h.controller.document) := by
    rw [hreply, Reply.typed_handshakeResult hdocument]
  obtain ⟨id, e, hid, hemission, hresponse⟩ := replied_of_hands hdocument hq
  refine ⟨id, e, hid, hemission, ?_, ?_⟩
  · rw [hresponse, ← typed_handshake hdocument, hsent]
  · rw [receive_of_hands hq, hsent]
    rfl

theorem accepts_of_isOpening (hdocument : h.controller.document.IsNormal)
    (hx : (h.exchange d).IsOpening) : h.Accepts d := by
  obtain ⟨hmethod, hresult⟩ := hx
  by_cases hhands : ∃ q, h.Hands d q
  · obtain ⟨q, hq⟩ := hhands
    refine ⟨q, hq, ?_⟩
    obtain ⟨id, e, -, hemission, hresponse⟩ := replied_of_hands hdocument hq
    cases hreply : (h.controller.handshake d.surroundings q).reply with
    | ok r => rfl
    | error cause =>
      rw [hreply] at hresponse
      rw [result?_of_response hemission hresponse] at hresult
      cases hresult
  · rw [result?_of_not_hands (d := d) hmethod fun q hq => hhands ⟨q, hq⟩] at hresult
    cases hresult

theorem faithful (hc : h.Coherent) (d : Delivery) :
    h.Faithful d (handshakeResult h.controller.document) := by
  have hopening (ha : h.Accepts d) : (h.exchange d).IsOpening := by
    obtain ⟨id, e, -, hemission, hresponse, -⟩ := answered_of_accepts hc.document ha
    refine ⟨ha.choose_spec.1.method, ?_⟩
    rw [result?_of_response hemission hresponse]
    rfl
  have hopened (ha : h.Accepts d) :
      h.controller.state = .uninitialized ∧ (h.exchange d).controller.state = .initializing := by
    obtain ⟨q, hq, hok⟩ := ha
    obtain ⟨hbefore, hafter, -⟩ := handshake_of_accepted hok
    refine ⟨hbefore, ?_⟩
    rw [exchange, receive_of_hands hq]
    exact hafter
  have hcause (hstates : h.controller.state = .uninitialized ∧
      (h.exchange d).controller.state = .initializing) : (h.exchange d).IsOpening := by
    obtain ⟨hbefore, hafter⟩ := hstates
    have hchanged : (h.exchange d).controller ≠ h.controller := fun hsame => by
      rw [hsame, hbefore] at hafter
      cases hafter
    cases hc.move d with
    | idle _ controller => exact absurd controller hchanged
    | opens _ _ _ _ method _ _ _ _ result => exact ⟨method, by rw [result]; rfl⟩
    | completes _ _ state => cases hbefore.symm.trans state
    | locks _ _ _ _ controller => exact absurd controller hchanged
    | ends _ _ _ _ controller => cases hafter.symm.trans (congrArg Controller.state controller)
    | exits _ _ controller => exact absurd controller hchanged
  exact
    { replied := fun q hq => replied_of_hands hc.document hq
      answered := answered_of_accepts hc.document
      accepted_iff_answered := ⟨hopening, accepts_of_isOpening hc.document⟩
      accepted_iff_opened := ⟨hopened, fun h => accepts_of_isOpening hc.document (hcause h)⟩ }

/-! ## Runs of a host -/

/-- No message changes what is announced. -/
theorem document_receive (hc : h.Coherent) (d : Delivery) :
    (h.receive d).1.controller.document = h.controller.document := by
  show (h.exchange d).controller.document = _
  cases hc.move d with
  | idle _ controller => rw [controller]
  | opens _ _ _ _ _ _ _ _ controller => rw [controller]
  | completes _ _ _ _ _ _ _ controller => rw [controller]
  | locks _ _ _ _ controller => rw [controller]
  | ends _ _ _ _ controller => rw [controller]
  | exits _ _ controller => rw [controller]

theorem document_after (hc : h.Coherent) (ds : List Delivery) :
    (h.after ds).controller.document = h.controller.document := by
  induction ds generalizing h with
  | nil => rfl
  | cons d ds ih => rw [after_cons, ih (hc.receive d), document_receive hc d]

theorem result?_of_isOpening (hc : h.Coherent) (hx : (h.exchange d).IsOpening) :
    (h.exchange d).result? = some (handshakeResult h.controller.document) := by
  have ha := (faithful hc d).accepted_iff_answered.mpr hx
  obtain ⟨id, e, -, hemission, hresponse, -⟩ := answered_of_accepts hc.document ha
  rw [result?_of_response hemission hresponse]
  rfl

/-- All handshakes that are answered in a run are answered alike. -/
theorem result?_of_mem_log (hc : h.Coherent) {ds : List Delivery} {x : Exchange}
    (hx : x ∈ h.log ds) (hopening : x.IsOpening) :
    x.result? = some (handshakeResult h.controller.document) := by
  induction ds generalizing h with
  | nil => cases hx
  | cons d ds ih =>
    rw [log_cons] at hx
    rcases List.mem_cons.mp hx with rfl | hrest
    · exact result?_of_isOpening hc hopening
    · rw [ih (hc.receive d) hrest, document_receive hc d]

/-- **Accepted handshakes are answered.** Whatever is switched on or off, and whatever messages a
host has taken, the client is told of the next one just what the controller makes of it: a
handshake that the controller accepts is answered with the document that the host was made with,
and that document is read and written again without a change. -/
theorem handshakes_answered (tag : String) (settings : Settings) (ds : List Delivery)
    (d : Delivery) :
    ((Program.hostOf tag settings).after ds).Faithful d
        (handshakeResult (Document.build (Provider.standard tag) settings.overrides)) ∧
      handshakeResultShape.conform
          (handshakeResult (Document.build (Provider.standard tag) settings.overrides))
        = .ok (handshakeResult (Document.build (Provider.standard tag) settings.overrides)) := by
  have hc := coherent_hostOf tag settings
  refine ⟨?_, Document.conform_handshakeResult hc.document⟩
  have hfaithful := faithful (hc.after ds) d
  rw [document_after hc ds] at hfaithful
  exact hfaithful

example :
    ((Program.hostOf "7" ⟨Overrides.standard.setAll
        [(.signatureHelp, true), (.executeCommand, false), (.rename, true)], {}⟩).exchange
        (.handshake (some (.int 1)) "file:///srv/app")).IsOpening := by
  decide

end Host

end SessionGate
