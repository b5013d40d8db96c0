import SessionGate.Proofs.Schema.Acceptance
import SessionGate.Proofs.Session.History

/-!
# The grammar of requests

Which parameters make a handshake and which an exit, and what is wrong with the others, said of the
parameters as they were sent. Both sides are relations that mention no reader. Whatever the
parameters are, one of the two applies, and the reader follows both; so it accepts exactly the
first, and words every refusal as the second says.

- `HandshakeRequest.IsIn`, `HandshakeRequest.Unfit`: parameters that make a handshake, and what is
  wrong with those that do not; capabilities are looked at before the root.
- `ExitStatus.IsGiven`, `ExitStatus.Unfit`: the status that parameters give, and what is wrong with
  those that give none.
- `Request.handshakeOf_eq_error_iff`, `Request.exitOf_eq_ok_iff`, `Request.exitOf_eq_error_iff`: the
  reader follows them.
- `Request.ReadsByGrammar`: how parameters are read, method by method.
- `Request.reads_by_grammar`: all parameters.
-/

namespace SessionGate

open Shape

/-! ## Two relations -/

/-- Parameters that make a handshake: an object with capabilities, in which a root is a text. What
is null counts as absent. -/
def HandshakeRequest.IsIn (params : Json) : Prop :=
  ∃ members capabilities, params = .object members ∧
    Json.Members.get? "capabilities" members = some capabilities ∧ capabilities ≠ .null ∧
    (Json.Members.get? "rootUri" members = none ∨
      Json.Members.get? "rootUri" members = some .null ∨
      ∃ root, Json.Members.get? "rootUri" members = some (.string root))

/-- What is wrong with parameters that make no handshake, and how it is worded. A root is looked at
only where there are capabilities. -/
inductive HandshakeRequest.Unfit : Json → String → Prop where
  | noObject (params : Json) (kind : ∀ members, params ≠ .object members) :
      Unfit params "initialize params must be an object"
  | noCapabilities (members : Json.Members)
      (absent : (Json.Members.get? "capabilities" members).getD .null = .null) :
      Unfit (.object members) "missing field `capabilities`"
  | badRoot (members : Json.Members) (root : Json)
      (capabilities : (Json.Members.get? "capabilities" members).getD .null ≠ .null)
      (found : Json.Members.get? "rootUri" members = some root) (ne_null : root ≠ .null)
      (ne_text : ∀ text, root ≠ .string text) :
      Unfit (.object members) ("rootUri must be a string or null, got " ++ root.compact)

/-- The status that parameters of an exit give: the member of this name, or the only item of an
array. -/
inductive ExitStatus.IsGiven (v : Json) : Json → Prop where
  | member (members : Json.Members) (found : Json.Members.get? "status" members = some v) :
      IsGiven v (.object members)
  | item : IsGiven v (.array [v])

/-- What is wrong with parameters that give no status, and how it is worded. -/
inductive ExitStatus.Unfit : Json → String → Prop where
  | noRecord (params : Json) (noObject : ∀ members, params ≠ .object members)
      (noArray : ∀ items, params ≠ .array items) :
      Unfit params
        ("invalid type: " ++ ShapeError.describe params ++ ", expected struct ExitParams")
  | noStatus (members : Json.Members) (absent : Json.Members.get? "status" members = none) :
      Unfit (.object members) "missing field `status`"
  | noItem : Unfit (.array []) "invalid length 0, expected struct ExitParams with 1 element"
  | surplus (v w : Json) (more : List Json) :
      Unfit (.array (v :: w :: more))
        ("invalid length " ++ toString (more.length + 2) ++ ", expected fewer elements in array")

/-! ## Handshakes -/

namespace HandshakeRequest

/-- Whatever the parameters are, a handshake is read from them or something is wrong with them. -/
theorem isReadFrom_or_unfit (params : Json) :
    (∃ q : HandshakeRequest, q.IsReadFrom params) ∨ ∃ detail, Unfit params detail := by
  cases params with
  | object members =>
    by_cases hcapabilities : (Json.Members.get? "capabilities" members).getD .null = .null
    · exact .inr ⟨_, .noCapabilities members hcapabilities⟩
    have hread (root : Option String)
        (hroot : (Json.Members.get? "rootUri" members).getD .null = Json.stringOrNull root) :
        ∃ q : HandshakeRequest, q.IsReadFrom (.object members) :=
      ⟨⟨root, _, _⟩, Json.eq_some_getD hcapabilities, hcapabilities, hroot, rfl⟩
    -- what is not null is there, so that it can be named
    have hbad (hnull : (Json.Members.get? "rootUri" members).getD .null ≠ .null)
        (htext : ∀ text, (Json.Members.get? "rootUri" members).getD .null ≠ .string text) :
        ∃ detail, Unfit (.object members) detail :=
      ⟨_, .badRoot members _ hcapabilities (Json.eq_some_getD hnull) hnull htext⟩
    cases hroot : (Json.Members.get? "rootUri" members).getD .null with
    | null => exact .inl (hread none hroot)
    | string text => exact .inl (hread (some text) hroot)
    | _ =>
      rw [hroot] at hbad
      exact .inr (hbad Json.noConfusion fun _ => Json.noConfusion)
  | _ => exact .inr ⟨_, .noObject _ nofun⟩

theorem isIn_iff {params : Json} : IsIn params ↔ ∃ q : HandshakeRequest, q.IsReadFrom params := by
  constructor
  · rintro ⟨members, capabilities, rfl, hcapabilities, hne, hroot⟩
    have hread (root : Option String)
        (hroot : (Json.Members.get? "rootUri" members).getD .null = Json.stringOrNull root) :
        ∃ q : HandshakeRequest, q.IsReadFrom (.object members) :=
      ⟨⟨root, capabilities, _⟩, hcapabilities, hne, hroot, rfl⟩
    rcases hroot with hnone | hnull | ⟨root, htext⟩
    · exact hread none (by rw [hnone]; rfl)
    · exact hread none (by rw [hnull]; rfl)
    · exact hread (some root) (by rw [htext]; rfl)
  · rintro ⟨⟨root, capabilities, options⟩, hcapabilities, hne, hroot, -⟩
    cases params with
    | object members =>
      refine ⟨members, capabilities, rfl, hcapabilities, hne, ?_⟩
      change (Json.Members.get? "rootUri" members).getD .null = _ at hroot
      cases hfound : Json.Members.get? "rootUri" members with
      | none => exact .inl rfl
      | some v =>
        rw [hfound, Option.getD_some] at hroot
        subst hroot
        cases root with
        | none => exact .inr (.inl rfl)
        | some text => exact .inr (.inr ⟨text, rfl⟩)
    | _ => cases hcapabilities

end HandshakeRequest

namespace Request

variable {params : Json} {detail : String} {e : SessionError} {r : Request}

theorem handshakeOf_of_unfit (h : HandshakeRequest.Unfit params detail) :
    handshakeOf params = .error (.invalidParams detail) := by
  cases h with
  | noObject _ kind =>
    cases params with
    | object members => exact absurd rfl (kind members)
    | _ => rfl
  | noCapabilities members absent =>
    unfold handshakeOf
    dsimp only
    rw [absent]
    rfl
  | badRoot members root capabilities found ne_null ne_text =>
    unfold handshakeOf
    dsimp only
    rw [found, Option.getD_some]
    split
    · next hnull => exact absurd hnull capabilities
    -- the capabilities are there, so the root is looked at
    · cases root with
      | null => exact absurd rfl ne_null
      | string text => exact absurd rfl (ne_text text)
      | _ => rfl

theorem exists_handshakeOf_eq_ok_iff :
    (∃ r, handshakeOf params = .ok r) ↔ HandshakeRequest.IsIn params := by
  rw [HandshakeRequest.isIn_iff]
  constructor
  · rintro ⟨r, hr⟩
    obtain ⟨q, -, hq⟩ := handshakeOf_eq_ok_iff.mp hr
    exact ⟨q, hq⟩
  · rintro ⟨q, hq⟩
    exact ⟨_, handshakeOf_eq_ok_iff.mpr ⟨q, rfl, hq⟩⟩

/-- A handshake is refused exactly if something is wrong with its parameters, in these words. -/
theorem handshakeOf_eq_error_iff :
    handshakeOf params = .error e ↔
      ∃ detail, e = .invalidParams detail ∧ HandshakeRequest.Unfit params detail := by
  constructor
  · intro h
    rcases HandshakeRequest.isReadFrom_or_unfit params with ⟨q, hq⟩ | ⟨detail, hbad⟩
    · cases h.symm.trans (handshakeOf_eq_ok_iff.mpr ⟨q, rfl, hq⟩)
    · exact ⟨detail, Except.error.inj (h.symm.trans (handshakeOf_of_unfit hbad)), hbad⟩
  · rintro ⟨detail, rfl, hbad⟩
    exact handshakeOf_of_unfit hbad

/-- No member but these three has a part in a handshake. -/
theorem handshakeOf_congr {members members' : Json.Members}
    (h : ∀ key ∈ ["capabilities", "rootUri", "initializationOptions"],
      Json.Members.get? key members = Json.Members.get? key members') :
    handshakeOf (.object members) = handshakeOf (.object members') := by
  simp only [List.forall_mem_cons] at h
  obtain ⟨hcapabilities, hroot, hoptions, -⟩ := h
  unfold handshakeOf
  dsimp only
  rw [hcapabilities, hroot, hoptions]

end Request

/-! ## Exits -/

namespace ExitStatus

/-- Only one text is read as a shutdown, and no value of another kind is. -/
theorem ofJson_eq_shutdown_iff (v : Json) : ofJson v = .shutdown ↔ v = .string "shutdown" := by
  cases v with
  | string s => by_cases hs : s = "shutdown" <;> simp [ofJson, hs]
  | _ => simp [ofJson]

theorem code_ofJson (v : Json) :
    (ofJson v).code = if v = .string "shutdown" then 0 else 1 := by
  cases hstatus : ofJson v with
  | shutdown => rw [if_pos ((ofJson_eq_shutdown_iff v).mp hstatus), code]
  | other text =>
    have hne : v ≠ .string "shutdown" := by
      intro hv
      cases hstatus.symm.trans ((ofJson_eq_shutdown_iff v).mpr hv)
    rw [if_neg hne, code]

/-- Whatever the parameters are, they give a status or something is wrong with them. -/
theorem isGiven_or_unfit (params : Json) :
    (∃ v, IsGiven v params) ∨ ∃ detail, Unfit params detail := by
  cases params with
  | object members =>
    cases hfound : Json.Members.get? "status" members with
    | none => exact .inr ⟨_, .noStatus members hfound⟩
    | some v => exact .inl ⟨v, .member members hfound⟩
  | array items =>
    rcases items with _ | ⟨v, _ | ⟨w, more⟩⟩
    · exact .inr ⟨_, .noItem⟩
    · exact .inl ⟨v, .item⟩
    · exact .inr ⟨_, .surplus v w more⟩
  | _ => exact .inr ⟨_, .noRecord _ nofun nofun⟩

end ExitStatus

/-! ### Reading a status -/

section

variable {params v : Json}

theorem conform_exitParams_object (members : Json.Members) :
    exitParams.conform (.object members) =
      match Json.Members.get? "status" members with
      | some v => .ok (.ofMembers [("status", v)])
      | none => .error (.missingField "status") := by
  unfold exitParams conform
  rw [conformIn, readFields_eq_found, List.map_cons, List.map_nil, found_req]
  cases Json.Members.get? "status" members with
  | none => rfl
  | some v =>
    rw [Option.map_some, conformIn]
    rfl

/-- An array of one item stands for the record of its one member. -/
theorem conform_exitParams_item (v : Json) :
    exitParams.conform (.array [v]) = .ok (.ofMembers [("status", v)]) := by
  unfold exitParams conform
  simp only [conformIn, readItems, req, countsAsAbsent_required]
  rfl

theorem conform_exitParams_noItem :
    exitParams.conform (.array []) = .error (.wrongLength 0 (arrayName "ExitParams" 1)) := by
  unfold exitParams conform
  simp only [conformIn, readItems, req]
  rfl

theorem conform_exitParams_surplus (v w : Json) (more : List Json) :
    exitParams.conform (.array (v :: w :: more))
      = .error (.wrongLength (more.length + 2) "fewer elements in array") := by
  -- the reader counts what it has taken and what is left
  have hlength : 0 + 1 + (w :: more).length = more.length + 2 := by
    rw [List.length_cons]
    omega
  unfold exitParams conform
  simp only [conformIn, readItems, req, countsAsAbsent_required]
  rw [hlength]
  rfl

theorem conform_exitParams_noRecord (noObject : ∀ members, params ≠ .object members)
    (noArray : ∀ items, params ≠ .array items) :
    exitParams.conform params = .error (.wrongType params (recordName "ExitParams")) := by
  unfold exitParams conform
  rw [conformIn]
  · exact noObject
  · exact noArray

theorem conform_exitParams_of_isGiven (h : ExitStatus.IsGiven v params) :
    exitParams.conform params = .ok (.ofMembers [("status", v)]) := by
  cases h with
  | member members found => rw [conform_exitParams_object, found]
  | item => exact conform_exitParams_item v

theorem conform_exitParams_of_unfit {detail : String} (h : ExitStatus.Unfit params detail) :
    ∃ e, exitParams.conform params = .error e ∧ e.message = detail := by
  cases h with
  | noRecord _ noObject noArray =>
    have hexpected : ", expected " ++ recordName "ExitParams" = ", expected struct ExitParams" := by
      decide
    refine ⟨_, conform_exitParams_noRecord noObject noArray, ?_⟩
    show _ ++ ", expected " ++ recordName "ExitParams" = _
    rw [String.append_assoc, hexpected]
  | noStatus members absent => exact ⟨_, by rw [conform_exitParams_object, absent], rfl⟩
  | noItem => exact ⟨_, conform_exitParams_noItem, by decide⟩
  | surplus v w more =>
    have hexpected : ", expected " ++ "fewer elements in array"
        = ", expected fewer elements in array" := by
      decide
    refine ⟨_, conform_exitParams_surplus v w more, ?_⟩
    show _ ++ ", expected " ++ "fewer elements in array" = _
    rw [String.append_assoc, hexpected]

/-- The reader lets parameters of an exit through exactly if they give a status. -/
theorem exists_conform_exitParams_iff :
    (∃ w, exitParams.conform params = .ok w) ↔ ∃ v, ExitStatus.IsGiven v params := by
  constructor
  · rintro ⟨w, hread⟩
    rcases ExitStatus.isGiven_or_unfit params with hgiven | ⟨detail, hbad⟩
    · exact hgiven
    · obtain ⟨e, herror, -⟩ := conform_exitParams_of_unfit hbad
      cases hread.symm.trans herror
  · rintro ⟨v, hv⟩
    exact ⟨_, conform_exitParams_of_isGiven hv⟩

end

namespace Request

variable {params v : Json} {detail : String} {e : SessionError} {r : Request}

theorem exitOf_of_isGiven (h : ExitStatus.IsGiven v params) :
    exitOf params = .ok (.exit (.ofJson v)) := by
  unfold exitOf
  rw [conform_exitParams_of_isGiven h]
  rfl

theorem exitOf_of_unfit (h : ExitStatus.Unfit params detail) :
    exitOf params = .error (.invalidParams detail) := by
  obtain ⟨e, hread, hdetail⟩ := conform_exitParams_of_unfit h
  unfold exitOf
  rw [hread, ← hdetail]

/-- Parameters are read as an exit exactly if they give a status, and as an exit with that one. -/
theorem exitOf_eq_ok_iff :
    exitOf params = .ok r ↔ ∃ v, r = .exit (.ofJson v) ∧ ExitStatus.IsGiven v params := by
  constructor
  · intro h
    rcases ExitStatus.isGiven_or_unfit params with ⟨v, hv⟩ | ⟨detail, hbad⟩
    · exact ⟨v, Except.ok.inj (h.symm.trans (exitOf_of_isGiven hv)), hv⟩
    · cases h.symm.trans (exitOf_of_unfit hbad)
  · rintro ⟨v, rfl, hv⟩
    exact exitOf_of_isGiven hv

/-- An exit is refused exactly if something is wrong with its parameters, in these words. -/
theorem exitOf_eq_error_iff :
    exitOf params = .error e ↔
      ∃ detail, e = .invalidParams detail ∧ ExitStatus.Unfit params detail := by
  constructor
  · intro h
    rcases ExitStatus.isGiven_or_unfit params with ⟨v, hv⟩ | ⟨detail, hbad⟩
    · cases h.symm.trans (exitOf_of_isGiven hv)
    · exact ⟨detail, Except.error.inj (h.symm.trans (exitOf_of_unfit hbad)), hbad⟩
  · rintro ⟨detail, rfl, hbad⟩
    exact exitOf_of_unfit hbad

/-- No member but the status has a part in an exit. -/
theorem exitOf_congr {members members' : Json.Members}
    (h : Json.Members.get? "status" members = Json.Members.get? "status" members') :
    exitOf (.object members) = exitOf (.object members') := by
  unfold exitOf
  rw [conform_exitParams_object, conform_exitParams_object, h]

/-! ## All parameters -/

/-- How parameters are read, method by method. -/
structure ReadsByGrammar (params : Json) : Prop where
  /-- A handshake is read from an object with capabilities and no root but a text, and from nothing
  else. -/
  handshake_iff : (∃ r, ofMethod "initialize" params = .ok r) ↔ HandshakeRequest.IsIn params
  /-- It consists of the members as they were sent. -/
  handshake : ∀ r, ofMethod "initialize" params = .ok r ↔
    ∃ q, r = .handshake q ∧ q.IsReadFrom params
  /-- A refusal says what is wrong, first of the capabilities, then of the root. -/
  handshake_refused : ∀ e, ofMethod "initialize" params = .error e ↔
    ∃ detail, e = .invalidParams detail ∧ HandshakeRequest.Unfit params detail
  initialized : ofMethod "initialized" params = .ok .initialized
  shutdown : ofMethod "shutdown" params = .ok .shutdown
  /-- An exit is read where a status is given, whatever that is, and from nothing else. -/
  exit : ∀ r, ofMethod "exit" params = .ok r ↔
    ∃ v, r = .exit (.ofJson v) ∧ ExitStatus.IsGiven v params
  exit_refused : ∀ e, ofMethod "exit" params = .error e ↔
    ∃ detail, e = .invalidParams detail ∧ ExitStatus.Unfit params detail
  /-- It ends the process with zero if the status is the text of a shutdown and with one if not, at
  whatever stage the session is. -/
  code : ∀ v, ExitStatus.IsGiven v params → ∀ (c : Controller) (s : Surroundings),
    c.call ⟨.message "exit" params, s⟩ =
      ⟨.ok (.terminating (if v = .string "shutdown" then 0 else 1)),
        { c with state := .exited }, []⟩
  /-- No value of another kind is read as a shutdown. -/
  never_shutdown : ∀ v, (∀ text, v ≠ .string text) → ExitStatus.ofJson v ≠ .shutdown

/-- **Requests are read by their grammar.** Whatever the parameters are, a handshake and an exit are
read from them exactly as the grammar says, and refused in its words; a notice that a handshake is
complete and a shutdown are read from anything. Besides capabilities, root and options no member has
a part in a handshake, and besides the status none has a part in an exit. -/
theorem reads_by_grammar :
    (∀ params, ReadsByGrammar params) ∧
      (∀ members members' : Json.Members,
        (∀ key ∈ ["capabilities", "rootUri", "initializationOptions"],
          Json.Members.get? key members = Json.Members.get? key members') →
        ofMethod "initialize" (.object members) = ofMethod "initialize" (.object members')) ∧
      ∀ members members' : Json.Members,
        Json.Members.get? "status" members = Json.Members.get? "status" members' →
        ofMethod "exit" (.object members) = ofMethod "exit" (.object members') := by
  refine ⟨fun params => ?_, fun _ _ h => handshakeOf_congr h, fun _ _ h => exitOf_congr h⟩
  constructor
  case handshake_iff => exact exists_handshakeOf_eq_ok_iff
  case handshake => exact fun _ => handshakeOf_eq_ok_iff
  case handshake_refused => exact fun _ => handshakeOf_eq_error_iff
  case initialized => rfl
  case shutdown => rfl
  case exit => exact fun _ => exitOf_eq_ok_iff
  case exit_refused => exact fun _ => exitOf_eq_error_iff
  case code =>
    intro v hv c s
    have hread : ofMethod "exit" params = .ok (.exit (.ofJson v)) := exitOf_of_isGiven hv
    rw [Controller.call_message, hread, ← ExitStatus.code_ofJson]
    rfl
  case never_shutdown =>
    intro v hkind hshutdown
    exact hkind "shutdown" ((ExitStatus.ofJson_eq_shutdown_iff v).mp hshutdown)

/-- A malformed process and an unknown member make no difference to a handshake, and a null status
is a status. -/
theorem reads_beside_noise :
    (∀ key ∈ ["capabilities", "rootUri", "initializationOptions"],
        Json.Members.get? key [("capabilities", .empty), ("rootUri", .string "FILE:///a/./b")]
          = Json.Members.get? key [("capabilities", .empty), ("processId", .bool true),
              ("rootUri", .string "FILE:///a/./b"), ("status", .null)]) ∧
      ofMethod "initialize" (.object [("capabilities", .empty), ("processId", .bool true),
          ("rootUri", .string "FILE:///a/./b"), ("status", .null)])
        = .ok (.handshake ⟨some "FILE:///a/./b", .empty, none⟩) ∧
      ofMethod "exit" (.object [("capabilities", .empty), ("status", .null)])
        = .ok (.exit (.other "null")) := by
  obtain ⟨hreads, hhandshake, hexit⟩ := reads_by_grammar
  have hsame : ∀ key ∈ ["capabilities", "rootUri", "initializationOptions"],
      Json.Members.get? key [("capabilities", .empty), ("rootUri", .string "FILE:///a/./b")]
        = Json.Members.get? key [("capabilities", .empty), ("processId", .bool true),
            ("rootUri", .string "FILE:///a/./b"), ("status", .null)] := by
    decide
  refine ⟨hsame, ?_, ?_⟩
  · rw [← hhandshake _ _ hsame]
    exact ((hreads _).handshake _).mpr ⟨_, rfl, rfl, nofun, rfl, rfl⟩
  · have hstatus := hexit [("capabilities", .empty), ("status", .null)] [("status", .null)] rfl
    rw [hstatus]
    exact ((hreads _).exit _).mpr ⟨.null, by decide, .member _ rfl⟩

end Request

end SessionGate
