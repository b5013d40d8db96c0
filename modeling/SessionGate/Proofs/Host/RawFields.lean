import SessionGate.Proofs.Host.Answer
import SessionGate.Proofs.Host.Neutral
import SessionGate.Proofs.Session.Grammar

/-!
# The reader does not judge what is kept raw

The gate's reader is shown a copy of the parameters of a handshake in which root and capabilities
are neutral. So two handshakes that differ in the values of these two alone are one and the same
handshake to the reader: it lets both through or refuses both with one error. After that the session
reads the parameters as they were sent, and only there a difference can show.

- `Host.KeepsBesideRaw`: what the neutral copy has in common with the parameters it is made from.
- `Host.DifferInRaw`: objects that differ in the values of root and capabilities alone;
  `Host.conform_neutral_congr`: the reader takes them alike.
- `Host.verdict`: what a handshake is answered with, said of its parameters alone;
  `Host.responseTo_eq_verdict`: a host before any message answers so.
- `Host.JudgesAlike`: how a host judges two handshakes.
- `Host.reader_blind_to_raw`: any two handshakes.
-/

namespace SessionGate

open Shape

/-! ## The neutral copy -/

namespace Json

/-- An object has a member that is not null. -/
def HasValue (params : Json) (key : String) : Prop :=
  ∃ v, params.get? key = some v ∧ v ≠ .null

end Json

namespace Host

variable {key : String} {value : Json} {members members' : Json.Members} {params : Json}

/-- Where a member is absent or null, there is nothing to make neutral. -/
theorem neutralMember_of_null (h : (Json.Members.get? key members).getD .null = .null) :
    neutralMember key value members = members := by
  unfold neutralMember
  cases hget : Json.Members.get? key members with
  | none => rfl
  | some v =>
    rw [hget, Option.getD_some] at h
    subst h
    rfl

/-- Where a member is not null, it is replaced, whatever it is. -/
theorem neutralMember_of_value (h : (Json.object members).HasValue key) :
    neutralMember key value members = Json.Members.insert key value members := by
  obtain ⟨v, hget, hne⟩ := h
  change Json.Members.get? key members = some v at hget
  unfold neutralMember
  rw [hget]
  cases v with
  | null => exact absurd rfl hne
  | _ => rfl

theorem get?_neutralMember_of_value (h : (Json.object members).HasValue key) :
    Json.Members.get? key (neutralMember key value members) = some value := by
  rw [neutralMember_of_value h, Json.Members.get?_insert_self]

theorem neutralMember_neutralMember (key : String) (value : Json) (members : Json.Members) :
    neutralMember key value (neutralMember key value members) = neutralMember key value members := by
  by_cases hnull : (Json.Members.get? key members).getD .null = .null
  · have hsame : neutralMember key value members = members := neutralMember_of_null hnull
    rw [hsame, hsame]
  have hvalue : (Json.object members).HasValue key := ⟨_, Json.eq_some_getD hnull, hnull⟩
  have hget : Json.Members.get? key (neutralMember key value members) = some value :=
    get?_neutralMember_of_value hvalue
  -- the value that has been put in place may be null itself
  by_cases hneutral : value = .null
  · exact neutralMember_of_null (by rw [hget, hneutral, Option.getD_some])
  · rw [neutralMember_of_value ⟨value, hget, hneutral⟩, neutralMember_of_value hvalue,
      Json.Members.insert_insert_self]

theorem isSome_get?_neutralMember (k : String) :
    (Json.Members.get? k (neutralMember key value members)).isSome
      = (Json.Members.get? k members).isSome := by
  by_cases hkey : k = key
  · subst hkey
    rw [get?_neutralMember_self, Option.isSome_map]
  · rw [get?_neutralMember_of_ne hkey]

theorem get?_neutralMember_of_null {k : String} (h : Json.Members.get? k members = some .null) :
    Json.Members.get? k (neutralMember key value members) = some .null := by
  by_cases hkey : k = key
  · subst hkey
    rw [get?_neutralMember_self, h]
    rfl
  · rw [get?_neutralMember_of_ne hkey, h]

/-- A root that has been made neutral is null, or it is not there. -/
theorem getD_get?_neutral_root (members : Json.Members) :
    (Json.Members.get? "rootUri"
      (neutralMember "capabilities" .empty (neutralMember "rootUri" .null members))).getD .null
      = .null := by
  rw [get?_neutralMember_of_ne (by decide), get?_neutralMember_self]
  cases Json.Members.get? "rootUri" members with
  | none => rfl
  | some v => cases v <;> rfl

/-- What the neutral copy of parameters has in common with them. -/
structure KeepsBesideRaw (params : Json) : Prop where
  other : ∀ key, key ≠ "rootUri" → key ≠ "capabilities" →
    (neutral params).get? key = params.get? key
  present : ∀ key, ((neutral params).get? key).isSome = (params.get? key).isSome
  null : ∀ key, params.get? key = some .null → (neutral params).get? key = some .null
  noObject : (∀ members, params ≠ .object members) → neutral params = params
  /-- A copy of the copy is the copy. -/
  again : neutral (neutral params) = neutral params

theorem keepsBesideRaw (params : Json) : KeepsBesideRaw params := by
  cases params with
  | object members =>
    constructor
    case other =>
      intro key hroot hcapabilities
      exact (get?_neutralMember_of_ne hcapabilities).trans (get?_neutralMember_of_ne hroot)
    case present =>
      exact fun key => (isSome_get?_neutralMember key).trans (isSome_get?_neutralMember key)
    case null => exact fun key h => get?_neutralMember_of_null (get?_neutralMember_of_null h)
    case noObject => exact fun h => absurd rfl (h members)
    case again =>
      -- in the copy the root is null or absent, so that only the capabilities are written again
      rw [neutral_object, neutral_object, neutralMember_of_null (getD_get?_neutral_root members),
        neutralMember_neutralMember]
  | _ => exact ⟨fun _ _ _ => rfl, fun _ => rfl, fun _ h => h, fun _ => rfl, rfl⟩

/-! ## Two objects to one reader -/

/-- Two objects of parameters hold the same, root and capabilities apart, and hold values for
these. -/
structure DifferInRaw (members members' : Json.Members) : Prop where
  others : ∀ key, key ≠ "rootUri" → key ≠ "capabilities" →
    Json.Members.get? key members = Json.Members.get? key members'
  root : (Json.object members).HasValue "rootUri"
  root' : (Json.object members').HasValue "rootUri"
  capabilities : (Json.object members).HasValue "capabilities"
  capabilities' : (Json.object members').HasValue "capabilities"

theorem get?_neutral_root (h : (Json.object members).HasValue "rootUri") :
    (neutral (.object members)).get? "rootUri" = some .null := by
  rw [neutral_object, Json.get?, get?_neutralMember_of_ne (by decide),
    get?_neutralMember_of_value h]

theorem get?_neutral_capabilities (h : (Json.object members).HasValue "capabilities") :
    (neutral (.object members)).get? "capabilities" = some .empty := by
  obtain ⟨v, hget, hne⟩ := h
  have hkept : Json.Members.get? "capabilities" (neutralMember "rootUri" .null members) = some v :=
    (get?_neutralMember_of_ne (by decide)).trans hget
  exact get?_neutralMember_of_value ⟨v, hkept, hne⟩

/-- Their neutral copies hold the same under every key. -/
theorem get?_neutral_congr (h : DifferInRaw members members') (key : String) :
    (neutral (.object members)).get? key = (neutral (.object members')).get? key := by
  by_cases hroot : key = "rootUri"
  · rw [hroot, get?_neutral_root h.root, get?_neutral_root h.root']
  · by_cases hcapabilities : key = "capabilities"
    · rw [hcapabilities, get?_neutral_capabilities h.capabilities,
        get?_neutral_capabilities h.capabilities']
    · rw [(keepsBesideRaw _).other key hroot hcapabilities,
        (keepsBesideRaw _).other key hroot hcapabilities]
      exact h.others key hroot hcapabilities

/-- The reader makes the same of both, or refuses both with one error. -/
theorem conform_neutral_congr (h : DifferInRaw members members') :
    handshakeParams.conform (neutral (.object members))
      = handshakeParams.conform (neutral (.object members')) := by
  rw [neutral_object, neutral_object, conform, conform, handshakeParams_eq]
  exact conformIn_record_congr fun f _ => get?_neutral_congr h f.1

/-- Where there are capabilities and a root, all that can be wrong with a handshake is that the root
is no text. -/
theorem exists_ofMethod_eq_ok_iff (hroot : (Json.object members).HasValue "rootUri")
    (hcapabilities : (Json.object members).HasValue "capabilities") :
    (∃ r, Request.ofMethod "initialize" (.object members) = .ok r) ↔
      ∃ text, Json.Members.get? "rootUri" members = some (.string text) := by
  show (∃ r, Request.handshakeOf (.object members) = .ok r) ↔ _
  rw [Request.exists_handshakeOf_eq_ok_iff]
  obtain ⟨root, hfound, hne⟩ := hroot
  change Json.Members.get? "rootUri" members = some root at hfound
  constructor
  · rintro ⟨_, _, ⟨⟩, -, -, hnone | hnull | htext⟩
    · cases hfound.symm.trans hnone
    · exact absurd (Option.some.inj (hfound.symm.trans hnull)) hne
    · exact htext
  · intro htext
    obtain ⟨capabilities, hget, hvalue⟩ := hcapabilities
    exact ⟨members, capabilities, rfl, hget, hvalue, .inr (.inr htext)⟩

/-! ## What a handshake is answered with -/

/-- What a handshake is answered with by a host before any message, said of its parameters alone:
the error of the reader, the error of the session, or the announcement. -/
def verdict (document : Document) (params : Json) : Except WireError Json :=
  match handshakeParams.conform (neutral params), Request.ofMethod "initialize" params with
  | .error e, _ => .error (.invalidParams e.message)
  | .ok _, .error e => .error (.ofSession e)
  | .ok _, .ok _ => .ok (handshakeResult document)

/-- The response of a host to a handshake as a request. -/
def responseTo (h : Host) (s : Surroundings) (id params : Json) : Option Response :=
  (h.step ⟨s, true⟩ ⟨"initialize", some id, some params⟩).2.bind Emission.response

variable {h : Host} {s : Surroundings} {id : Json}

/-- What the reader refuses is answered with its error. -/
theorem response_of_refused {m : Message} {e : ShapeError} (hgate : h.gate = .uninitialized)
    (hid : m.id = some id) (hparams : m.params = some params)
    (hconform : handshakeParams.conform (neutral params) = .error e) :
    (h.handshake ⟨s, true⟩ m).2.response = some ⟨id, .error (.invalidParams e.message)⟩ := by
  unfold handshake
  rw [hparams]
  simp only [Option.map_some, ↓reduceIte, hgate, hid, hconform]
  rfl

/-- What the session cannot read is answered with its error. -/
theorem response_of_unread {m : Message} {typed : Json} {e : SessionError}
    (hgate : h.gate = .uninitialized) (hid : m.id = some id) (hparams : m.params = some params)
    (hconform : handshakeParams.conform (neutral params) = .ok typed)
    (hread : Request.ofMethod "initialize" params = .error e) :
    (h.handshake ⟨s, true⟩ m).2.response = some ⟨id, .error (.ofSession e)⟩ := by
  -- the session is handed what was kept a moment ago, not what the reader made of its copy
  have hopen := openSession_of_error (h := ⟨.uninitialized, h.controller, h.raw.store params⟩) s
    typed hread
  unfold handshake
  rw [hparams]
  simp only [Option.map_some, ↓reduceIte, hgate, hid, hconform]
  rw [hopen]
  rfl

/-- A session that has not been opened is opened by a handshake that names a root. -/
theorem reply_handshake_of_root {c : Controller} {q : HandshakeRequest} {root : String}
    (hstate : c.state = .uninitialized) (hroot : q.root = some root) :
    (c.handshake s q).reply = .ok (.withResult (handshakeResult c.document)) := by
  unfold Controller.handshake
  rw [if_neg (not_not.mpr hstate), hroot]
  rfl

/-- A host before any message answers a handshake by the verdict on its parameters, whatever its
surroundings, provided that what can be read of them names a root. -/
theorem responseTo_eq_verdict (hc : h.Coherent) (hgate : h.gate = .uninitialized)
    (hstate : h.controller.state = .uninitialized)
    (hroot : ∀ q : HandshakeRequest, q.IsReadFrom params → ∃ root, q.root = some root) :
    h.responseTo s id params = some ⟨id, verdict h.controller.document params⟩ := by
  unfold responseTo verdict
  rw [step_of_handshake _ hgate rfl, Option.bind_some]
  cases hconform : handshakeParams.conform (neutral params) with
  | error e => exact response_of_refused hgate rfl rfl hconform
  | ok typed =>
    cases hread : Request.ofMethod "initialize" params with
    | error e => exact response_of_unread hgate rfl rfl hconform hread
    | ok r =>
      obtain ⟨q, -, hq⟩ := Request.handshakeOf_eq_ok_iff.mp hread
      obtain ⟨root, hnamed⟩ := hroot q hq
      have hsent : Reply.typed (h.controller.handshake s q).reply
          = .ok (handshakeResult h.controller.document) := by
        rw [reply_handshake_of_root hstate hnamed]
        exact Reply.typed_handshakeResult hc.document
      rw [handshake_of_conform ⟨s, true⟩ hgate rfl rfl hconform hq, hsent]
      rfl

/-- What is read of parameters with a root names one. -/
theorem root_of_hasValue (hroot : params.HasValue "rootUri") {q : HandshakeRequest}
    (hq : q.IsReadFrom params) : ∃ root, q.root = some root := by
  obtain ⟨v, hget, hne⟩ := hroot
  have hsent := hq.root
  rw [hget, Option.getD_some] at hsent
  cases hnamed : q.root with
  | none =>
    rw [hnamed] at hsent
    exact absurd hsent hne
  | some root => exact ⟨root, rfl⟩

/-! ## Any two handshakes -/

/-- How a host judges two handshakes. -/
structure JudgesAlike (h : Host) (members members' : Json.Members) : Prop where
  /-- The reader makes the same of what it is shown of both, or refuses both with one error. -/
  read : handshakeParams.conform (neutral (.object members))
    = handshakeParams.conform (neutral (.object members'))
  /-- Besides the reader, only the session has a say, and it reads what was sent. -/
  answer : ∀ s id, h.responseTo s id (.object members)
    = some ⟨id, verdict h.controller.document (.object members)⟩
  answer' : ∀ s id, h.responseTo s id (.object members')
    = some ⟨id, verdict h.controller.document (.object members')⟩
  /-- Where one is answered with a result and the other is not, the session refuses the other, and
  its root is no text. -/
  differ : ∀ s s' id id' result, h.responseTo s id (.object members) = some ⟨id, .ok result⟩ →
    (∀ result', h.responseTo s' id' (.object members') ≠ some ⟨id', .ok result'⟩) →
      ∃ e, Request.ofMethod "initialize" (.object members') = .error e ∧
        h.responseTo s' id' (.object members') = some ⟨id', .error (.ofSession e)⟩ ∧
        ∀ text, Json.Members.get? "rootUri" members' ≠ some (.string text)
  /-- Where both roots are texts, both get the same response. -/
  same : ∀ text text', Json.Members.get? "rootUri" members = some (.string text) →
    Json.Members.get? "rootUri" members' = some (.string text') →
    ∀ s s' id, h.responseTo s id (.object members) = h.responseTo s' id (.object members')

theorem judgesAlike (hc : h.Coherent) (hgate : h.gate = .uninitialized)
    (hstate : h.controller.state = .uninitialized) (hraw : DifferInRaw members members') :
    h.JudgesAlike members members' := by
  have hread := conform_neutral_congr hraw
  have hanswer (s : Surroundings) (id : Json) : h.responseTo s id (.object members)
      = some ⟨id, verdict h.controller.document (.object members)⟩ :=
    responseTo_eq_verdict hc hgate hstate fun _ => root_of_hasValue hraw.root
  have hanswer' (s : Surroundings) (id : Json) : h.responseTo s id (.object members')
      = some ⟨id, verdict h.controller.document (.object members')⟩ :=
    responseTo_eq_verdict hc hgate hstate fun _ => root_of_hasValue hraw.root'
  constructor
  case read => exact hread
  case answer => exact hanswer
  case answer' => exact hanswer'
  case differ =>
    intro s s' id id' result haccepted hrefused
    rw [hanswer] at haccepted
    simp only [hanswer'] at hrefused ⊢
    unfold verdict at haccepted hrefused ⊢
    rw [hread] at haccepted
    -- the reader let the first through, so it did the second
    cases hconform : handshakeParams.conform (neutral (.object members')) with
    | error e =>
      rw [hconform] at haccepted
      cases haccepted
    | ok typed =>
      cases hmethod : Request.ofMethod "initialize" (.object members') with
      | ok r =>
        rw [hconform, hmethod] at hrefused
        exact absurd rfl (hrefused _)
      | error e =>
        refine ⟨e, rfl, rfl, fun text htext => ?_⟩
        obtain ⟨r, hok⟩ :=
          (exists_ofMethod_eq_ok_iff hraw.root' hraw.capabilities').mpr ⟨text, htext⟩
        cases hmethod.symm.trans hok
  case same =>
    intro text text' htext htext' s s' id
    obtain ⟨r, hr⟩ := (exists_ofMethod_eq_ok_iff hraw.root hraw.capabilities).mpr ⟨text, htext⟩
    obtain ⟨r', hr'⟩ :=
      (exists_ofMethod_eq_ok_iff hraw.root' hraw.capabilities').mpr ⟨text', htext'⟩
    rw [hanswer, hanswer', verdict, verdict, hread, hr, hr']
    cases handshakeParams.conform (neutral (.object members')) with
    | error e => rfl
    | ok typed => rfl

/-- Without capabilities a handshake is refused for its parameters, by the reader or by the
session. -/
theorem refused_without_capabilities (hc : h.Coherent) (hgate : h.gate = .uninitialized)
    (hstate : h.controller.state = .uninitialized) (hnone : ¬params.HasValue "capabilities") :
    ∃ e, h.responseTo s id params = some ⟨id, .error e⟩ ∧ e.code = -32602 := by
  have hunread (q : HandshakeRequest) : ¬q.IsReadFrom params := fun hq =>
    hnone ⟨q.capabilities, hq.capabilities, hq.capabilities_ne⟩
  rw [responseTo_eq_verdict hc hgate hstate fun q hq => absurd hq (hunread q), verdict]
  cases handshakeParams.conform (neutral params) with
  | error e => exact ⟨_, rfl, rfl⟩
  | ok typed =>
    cases hread : Request.ofMethod "initialize" params with
    | ok r =>
      obtain ⟨q, -, hq⟩ := Request.handshakeOf_eq_ok_iff.mp hread
      exact absurd hq (hunread q)
    | error e =>
      obtain ⟨detail, rfl, -⟩ := Request.handshakeOf_eq_error_iff.mp hread
      exact ⟨_, rfl, rfl⟩

/-- **The reader is blind to what is kept raw.** Take a host before any message. Of two handshakes
that differ in the values of root and capabilities alone its reader makes the same, or refuses both
with one error; only the session can tell them apart, by a root that is no text. What the reader is
shown of any parameters is what was sent, these two values apart; and a handshake without
capabilities is refused for its parameters all the same. -/
theorem reader_blind_to_raw (tag : String) (settings : Settings) :
    (∀ members members' : Json.Members, DifferInRaw members members' →
        (Program.hostOf tag settings).JudgesAlike members members') ∧
      (∀ params, KeepsBesideRaw params) ∧
      ∀ params : Json, ¬params.HasValue "capabilities" → ∀ s id,
        ∃ e, (Program.hostOf tag settings).responseTo s id params = some ⟨id, .error e⟩ ∧
          e.code = -32602 := by
  have hc := coherent_hostOf tag settings
  exact ⟨fun _ _ => judgesAlike hc rfl rfl, keepsBesideRaw, fun _ hnone _ _ =>
    refused_without_capabilities hc rfl rfl hnone⟩

/-- A root that is a number makes a difference, capabilities that are one do not. -/
theorem reader_blind_to_raw_number :
    DifferInRaw [("capabilities", .int 7), ("rootUri", .string "/a")]
        [("capabilities", .empty), ("rootUri", .int 1)] ∧
      handshakeParams.conform (neutral (.object [("capabilities", .empty), ("rootUri", .int 1)]))
        = handshakeParams.conform
            (neutral (.object [("capabilities", .int 7), ("rootUri", .string "/a")])) ∧
      (Program.hostOf "7" {}).responseTo (.lost "") (.int 1)
          (.object [("capabilities", .int 7), ("rootUri", .string "/a")])
        = some ⟨.int 1, .ok (handshakeResult (Program.hostOf "7" {}).controller.document)⟩ ∧
      (Program.hostOf "7" {}).responseTo (.lost "") (.int 1)
          (.object [("capabilities", .empty), ("rootUri", .int 1)])
        = some ⟨.int 1, .error ⟨-32602,
            "Invalid params: rootUri must be a string or null, got 1", none⟩⟩ ∧
      ∃ e, (Program.hostOf "7" {}).responseTo (.lost "") (.int 1) .empty
          = some ⟨.int 1, .error e⟩ ∧ e.code = -32602 := by
  obtain ⟨halike, -, hnone⟩ := reader_blind_to_raw "7" {}
  have hraw : DifferInRaw [("capabilities", .int 7), ("rootUri", .string "/a")]
      [("capabilities", .empty), ("rootUri", .int 1)] :=
    { others := fun key hroot hcapabilities => by
        simp [Json.Members.get?, hroot.symm, hcapabilities.symm]
      root := ⟨.string "/a", rfl, by decide⟩
      root' := ⟨.int 1, rfl, by decide⟩
      capabilities := ⟨.int 7, rfl, by decide⟩
      capabilities' := ⟨.empty, rfl, by decide⟩ }
  have hempty : ¬Json.empty.HasValue "capabilities" := by
    rintro ⟨v, hget, -⟩
    cases hget
  have hjudged := halike _ _ hraw
  exact ⟨hraw, hjudged.read.symm, hjudged.answer _ _, hjudged.answer' _ _,
    hnone .empty hempty _ _⟩

end Host

end SessionGate
