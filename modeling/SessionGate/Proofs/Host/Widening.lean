import SessionGate.Proofs.Host.Answer
import SessionGate.Proofs.Host.Neutral

/-!
# Keeping the raw parameters only widens what is accepted

A host may hand its controller the parameters of a handshake as they were sent, or as its reader
writes them. Take one of each kind, both fresh, and the same handshake. What the second answers with
a result the first answers in the same way, and both sessions stand alike afterwards.

- `Message.opening`: a handshake as a request.
- `exists_conform_of_result`: what is answered with a result was let through by the reader.
- `Controller.handshake_of_isReading`: two readings of one handshake open the same session, their
  roots and capabilities aside.
- `Host.StandsAs`: what the two sessions have in common.
- `Host.keeping_raw_widens`: every handshake.
-/

namespace SessionGate

/-- A handshake as a request, with an object of parameters. -/
def Message.opening (id : Json) (members : Json.Members) : Message :=
  ⟨"initialize", some id, some (.object members)⟩

/-! ## Two readings of one handshake -/

theorem resolveRoot_eq_ok_of_iff {s : Surroundings} {named named' : Option String} {root : String}
    (hnamed : named = none ↔ named' = none) (h : resolveRoot s named' = .ok root) :
    ∃ root', resolveRoot s named = .ok root' := by
  cases named with
  | some sent => exact ⟨sent, rfl⟩
  | none =>
    rw [hnamed.mp rfl] at h
    exact ⟨root, h⟩

/-- Two readings of one handshake open the same session, their roots and capabilities aside. -/
theorem Controller.handshake_of_isReading {s : Surroundings} {c : Controller}
    {read sent : HandshakeRequest} (hreading : read.IsReading sent) {reply : Reply}
    (h : (c.handshake s read).reply = .ok reply) :
    (c.handshake s sent).reply = .ok reply ∧
      (c.handshake s sent).controller.state = (c.handshake s read).controller.state ∧
      ∃ r r', (c.handshake s sent).controller.record? = some r ∧
        (c.handshake s read).controller.record? = some r' ∧ r.options = r'.options := by
  rcases handshake_cases s c read with ⟨e, hrefused⟩ | ⟨hnew, root, hroot, hopened⟩
  · rw [hrefused] at h
    cases h
  · obtain ⟨root', hroot'⟩ := resolveRoot_eq_ok_of_iff hreading.root hroot
    have hsent : c.handshake s sent = ⟨.ok (.withResult (handshakeResult c.document)),
        { c with
          state := .initializing
          record? := some (.ofHandshake root' sent.capabilities sent.options) }, []⟩ := by
      unfold handshake
      rw [if_neg (not_not.mpr hnew), hroot']
    rw [hopened] at h ⊢
    rw [hsent]
    exact ⟨h, rfl, _, _, rfl, rfl, hreading.options.symm⟩

namespace Host

variable {h : Host} {s : Surroundings} {id : Json} {members : Json.Members}

/-- A host that hands over what the reader writes answers with a result only what the reader lets
through. -/
theorem exists_conform_of_result {result : Json} (hgate : h.gate = .uninitialized)
    (hresult : (h.handshake ⟨s, false⟩ (.opening id members)).2.response
      = some ⟨id, .ok result⟩) :
    ∃ typed, handshakeParams.conform (.object members) = .ok typed := by
  cases hconform : handshakeParams.conform (.object members) with
  | ok typed => exact ⟨typed, rfl⟩
  | error e =>
    unfold handshake at hresult
    simp only [Message.opening, Option.map_some, Bool.false_eq_true, ↓reduceIte, hgate, hconform]
      at hresult
    cases hresult

/-- A session stands as another does: it is at the same stage, and its record holds the same
options. -/
structure StandsAs (h g : Host) : Prop where
  state : h.controller.state = g.controller.state
  record : ∃ r r', h.controller.record? = some r ∧ g.controller.record? = some r' ∧
    r.options = r'.options ∧ r.indexingEnabled = r'.indexingEnabled

/-- **Keeping the raw parameters only widens what is accepted.** Take a handshake as a request, and
two fresh hosts of the same settings in the same surroundings. If the one that hands over what its
reader writes answers with a result, then the one that keeps the raw parameters gives out the very
same, and its session stands as that of the other does. And what the reader writes can always be
read as a handshake again. -/
theorem keeping_raw_widens (tag : String) (settings : Settings) (s : Surroundings) (id : Json)
    (members : Json.Members) :
    (∀ e result, ((Program.hostOf tag settings).step ⟨s, false⟩ (.opening id members)).2 = some e →
      e.response = some ⟨id, .ok result⟩ →
        ((Program.hostOf tag settings).step ⟨s, true⟩ (.opening id members)).2 = some e ∧
        ((Program.hostOf tag settings).step ⟨s, true⟩ (.opening id members)).1.StandsAs
          ((Program.hostOf tag settings).step ⟨s, false⟩ (.opening id members)).1) ∧
      ∀ typed, handshakeParams.conform (.object members) = .ok typed →
        ∃ q, Request.ofMethod "initialize" typed = .ok (.handshake q) := by
  constructor
  · intro e result hemission hresponse
    have hgate : (Program.hostOf tag settings).gate = .uninitialized := rfl
    rw [step_of_handshake _ hgate rfl] at hemission ⊢
    rw [step_of_handshake _ hgate rfl]
    cases hemission
    obtain ⟨typed, hconform⟩ := exists_conform_of_result hgate hresponse
    obtain ⟨sent, read, hsent, hread, hreading⟩ := exists_isReading hconform
    obtain ⟨shown, hshown⟩ := conform_neutral hconform
    have hkept := handshake_of_conform ⟨s, true⟩ (m := .opening id members) hgate rfl rfl hshown
      hsent
    have hbare := handshake_of_conform ⟨s, false⟩ (m := .opening id members) hgate rfl rfl hconform
      hread
    rw [hbare] at hresponse
    cases hreply : ((Program.hostOf tag settings).controller.handshake s read).reply with
    | error e =>
      rw [hreply] at hresponse
      cases hresponse
    | ok reply =>
      obtain ⟨hsame, hstate, r, r', hr, hr', hoptions⟩ :=
        Controller.handshake_of_isReading hreading hreply
      rw [hkept, hbare, hsame, hreply]
      exact ⟨rfl, hstate, r, r', hr, hr', hoptions, by rw [Record.indexingEnabled, hoptions]; rfl⟩
  · intro typed hconform
    obtain ⟨-, read, -, hread, -⟩ := exists_isReading hconform
    exact ⟨read, Request.handshakeOf_eq_ok_iff.mpr ⟨read, rfl, hread⟩⟩

/-- Parameters of a handshake that the reader changes: it normalises the root and drops a member of
the capabilities. -/
def changedMembers : Json.Members :=
  [("capabilities", .object [("custom", .bool true)]),
    ("initializationOptions", .object [("indexingEnabled", .bool false)]),
    ("rootUri", .string "FILE:///a/./b")]

theorem keeping_raw_widens_changed :
    ∃ e result typed,
      ((Program.hostOf "7" {}).step ⟨.lost "No such file or directory", false⟩
        (.opening (.int 1) changedMembers)).2 = some e ∧
      e.response = some ⟨.int 1, .ok result⟩ ∧
      ((Program.hostOf "7" {}).step ⟨.lost "No such file or directory", true⟩
        (.opening (.int 1) changedMembers)).2 = some e ∧
      ((Program.hostOf "7" {}).step ⟨.lost "No such file or directory", true⟩
          (.opening (.int 1) changedMembers)).1.StandsAs
        ((Program.hostOf "7" {}).step ⟨.lost "No such file or directory", false⟩
          (.opening (.int 1) changedMembers)).1 ∧
      handshakeParams.conform (.object changedMembers) = .ok typed ∧
      ∃ q, Request.ofMethod "initialize" typed = .ok (.handshake q) := by
  obtain ⟨hwidens, hreads⟩ := keeping_raw_widens "7" {} (.lost "No such file or directory")
    (.int 1) changedMembers
  obtain ⟨typed, htyped⟩ : ∃ typed, handshakeParams.conform (.object changedMembers) = .ok typed :=
    ⟨_, rfl⟩
  obtain ⟨hsame, hstands⟩ := hwidens _ _ rfl rfl
  exact ⟨_, _, typed, rfl, rfl, hsame, hstands, htyped, hreads typed htyped⟩

/-- More is accepted indeed: capabilities that are no object, for one. -/
example :
    (((Program.hostOf "7" {}).step ⟨.lost "", false⟩ (.opening (.int 1)
        [("capabilities", .int 7), ("rootUri", .string "/a")])).2.bind Emission.response).map
          Response.isResult = some false ∧
      (((Program.hostOf "7" {}).step ⟨.lost "", true⟩ (.opening (.int 1)
        [("capabilities", .int 7), ("rootUri", .string "/a")])).2.bind Emission.response).map
          Response.isResult = some true := by
  decide

end Host

end SessionGate
