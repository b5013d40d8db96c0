import SessionGate.Proofs.Capability.Announcement
import SessionGate.Proofs.Host.Log
import SessionGate.Proofs.Session.Calls

/-!
# What a handshake comes to

A message by the name of the handshake either hands the controller a handshake, or it is denied by
the host on its own. These are the two cases in which the host's part of a handshake is used; it is
not looked into again.

- `Hands`: the messages that bring the controller a handshake.
- `handshake_of_conform`: what a handshake comes to that is read; `handshake_of_hands`: the same,
  said of these messages.
- `IsDenial`: nothing comes of a message, and `isDenial_handshake`: what all others come to.
- `Reply.typed`: a reply as the client is sent it, and `typed_handshakeResult`: the announcement of
  a document in normal form is sent as it is.
-/

namespace SessionGate

/-- A reply to a handshake as the client is sent it: in its normal form, if it has the shape of an
answer, and as an internal error if it has not. -/
def Reply.typed : Except SessionError Reply → Except WireError Json
  | .ok r => Host.typedResult r.result
  | .error e => .error (.ofSession e)

theorem Reply.typed_handshakeResult {document : Document} (h : document.IsNormal) :
    Reply.typed (.ok (.withResult (handshakeResult document)))
      = .ok (handshakeResult document) := by
  show Host.typedResult (handshakeResult document) = _
  rw [Host.typedResult, Document.conform_handshakeResult h]

namespace Host

/-- A message hands the controller a handshake: it is a request, it finds the gate not yet opened,
the reader lets its parameters through, and the handshake is read from them as they were sent. -/
structure Hands (h : Host) (d : Delivery) (q : HandshakeRequest) : Prop where
  gate : h.gate = .uninitialized
  method : d.message.method = "initialize"
  request : ∃ id, d.message.id = some id
  read : ∃ p typed, d.message.params = some p ∧ handshakeParams.conform (neutral p) = .ok typed ∧
    q.IsReadFrom p

/-- Nothing comes of a message: gate and controller stay, no result is sent, no work is started. -/
structure IsDenial (h : Host) (p : Host × Emission) : Prop where
  gate : p.1.gate = h.gate
  controller : p.1.controller = h.controller
  result : (p.2.response.bind fun r => r.content.toOption) = none
  triggers : p.2.triggers = []
  registrations : p.2.registrations = []

variable {h : Host} {d : Delivery} {q : HandshakeRequest}

theorem isDenial_silent (raw : RawParams) : h.IsDenial ({ h with raw := raw }, .silent) :=
  ⟨rfl, rfl, rfl, rfl, rfl⟩

theorem isDenial_refusal (raw : RawParams) (id : Option Json) (e : WireError) :
    h.IsDenial ({ h with raw := raw }, .refusal id e) := by
  refine ⟨rfl, rfl, ?_, rfl, rfl⟩
  cases id <;> rfl

/-! ## The controller's part -/

/-- The controller is handed what is kept, and what the reader made of the parameters if nothing
is. -/
theorem openSession_of_read (s : Surroundings) (typed : Json)
    (hread : q.IsReadFrom (h.raw.kept.getD typed)) :
    openSession s typed h = (Reply.typed (h.controller.handshake s q).reply,
      { h with raw := .none, controller := (h.controller.handshake s q).controller }) := by
  have hof : Request.ofMethod "initialize" (h.raw.kept.getD typed) = .ok (.handshake q) :=
    Request.handshakeOf_eq_ok_iff.mpr ⟨q, rfl, hread⟩
  unfold openSession
  dsimp only [RawParams.take]
  rw [hof]
  dsimp only [Controller.handle]
  split
  · next hreply => rw [hreply, Reply.typed]
  · next hreply => rw [hreply, Reply.typed]

/-- The controller has no part in a handshake that cannot be read. -/
theorem openSession_of_error (s : Surroundings) (typed : Json) {e : SessionError}
    (hread : Request.ofMethod "initialize" (h.raw.kept.getD typed) = .error e) :
    openSession s typed h = (.error (.ofSession e), { h with raw := .none }) := by
  unfold openSession
  dsimp only [RawParams.take]
  rw [hread]

theorem openSession_of_unread (s : Surroundings) (typed : Json)
    (hread : ∀ q : HandshakeRequest, ¬q.IsReadFrom (h.raw.kept.getD typed)) :
    ∃ e, openSession s typed h = (.error e, { h with raw := .none }) := by
  cases hof : Request.ofMethod "initialize" (h.raw.kept.getD typed) with
  | error e => exact ⟨_, openSession_of_error s typed hof⟩
  | ok r =>
    obtain ⟨q, -, hq⟩ := Request.handshakeOf_eq_ok_iff.mp hof
    exact absurd hq (hread q)

/-! ## The host's part -/

/-- A request that finds the gate not yet opened, is let through by the reader and is read as a
handshake by the controller is answered with the reply as it is sent, and leaves the controller as
the handshake does. The gate opens with an answer that is a result. -/
theorem handshake_of_conform (setting : HostSetting) {m : Message} {id p typed : Json}
    (hgate : h.gate = .uninitialized) (hid : m.id = some id) (hparams : m.params = some p)
    (hconform : handshakeParams.conform (if setting.keepsRaw then neutral p else p) = .ok typed)
    (hread : q.IsReadFrom ((if setting.keepsRaw then some p else h.raw.kept).getD typed)) :
    h.handshake setting m =
      (⟨if (Reply.typed (h.controller.handshake setting.surroundings q).reply).toBool
          then .initialized else .uninitialized,
          (h.controller.handshake setting.surroundings q).controller, .none⟩,
        { Emission.answer m.id
            (Reply.typed (h.controller.handshake setting.surroundings q).reply) with
          notices := ["LSP server initializing"] }) := by
  obtain ⟨s, keepsRaw⟩ := setting
  unfold handshake
  rw [hparams]
  cases keepsRaw with
  | true =>
    -- the controller is handed the parameters that were put in place a moment ago
    have hopen := openSession_of_read (h := ⟨.uninitialized, h.controller, h.raw.store p⟩) s typed
      hread
    simp only [↓reduceIte] at hconform
    simp only [Option.map_some, ↓reduceIte, hgate, hid, hconform]
    rw [hopen]
  | false =>
    have hopen := openSession_of_read s typed hread
    simp only [Bool.false_eq_true, ↓reduceIte] at hconform
    simp only [Option.map_some, Bool.false_eq_true, ↓reduceIte, hgate, hid, hconform]
    rw [hopen]

theorem handshake_of_hands (hq : h.Hands d q) :
    h.handshake ⟨d.surroundings, true⟩ d.message =
      (⟨if (Reply.typed (h.controller.handshake d.surroundings q).reply).toBool then .initialized
          else .uninitialized, (h.controller.handshake d.surroundings q).controller, .none⟩,
        { Emission.answer d.message.id
            (Reply.typed (h.controller.handshake d.surroundings q).reply) with
          notices := ["LSP server initializing"] }) := by
  obtain ⟨id, hid⟩ := hq.request
  obtain ⟨p, typed, hparams, hconform, hread⟩ := hq.read
  exact handshake_of_conform ⟨d.surroundings, true⟩ hq.gate hid hparams hconform hread

/-- A handshake that is not handed to the controller is denied. -/
theorem isDenial_handshake (hmethod : d.message.method = "initialize")
    (hnot : ∀ q, ¬h.Hands d q) : h.IsDenial (h.handshake ⟨d.surroundings, true⟩ d.message) := by
  unfold handshake
  cases hparams : d.message.params with
  | none =>
    dsimp only [Option.map_none]
    split
    · split
      · exact isDenial_silent h.raw
      · exact isDenial_refusal h.raw _ _
      · contradiction
    · exact isDenial_refusal h.raw _ _
  | some p =>
    simp only [Option.map_some, ↓reduceIte]
    split
    · next hgate =>
      split
      · exact isDenial_silent _
      · contradiction
      · next id shown hid hshown =>
        cases hshown
        split
        · exact isDenial_refusal _ _ _
        · next typed hconform =>
          have hread : ∀ q : HandshakeRequest, ¬q.IsReadFrom p := fun q hq =>
            hnot q ⟨hgate, hmethod, ⟨id, hid⟩, p, typed, hparams, hconform, hq⟩
          obtain ⟨e, he⟩ := openSession_of_unread (h := { h with raw := h.raw.store p })
            d.surroundings typed hread
          rw [he]
          exact ⟨hgate.symm, rfl, by rw [hid]; rfl, rfl, rfl⟩
    · exact isDenial_refusal _ _ _

end Host

end SessionGate
