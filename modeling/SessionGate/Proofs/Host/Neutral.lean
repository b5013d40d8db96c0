import SessionGate.Host.Basic
import SessionGate.Proofs.Schema.Acceptance
import SessionGate.Proofs.Session.Calls

/-!
# What the reader makes of a handshake

The reader of the gate changes what it lets through: a root is normalised, capabilities lose what is
not known, and null options are dropped. A session can be opened with what is left nonetheless, and
with the same options. Neutral values in place of root and capabilities never make the reader refuse
what it would let through without them.

- `handshakeFields`: the fields of the parameters of a handshake.
- `HandshakeRequest.IsReading`: a handshake says after the reader what it said before, as far as its
  outcome depends on it.
- `exists_isReading`: what the reader lets through can be read as a handshake, before it and after.
- `Host.conform_neutral`: it lets the neutral copy through as well.
-/

namespace SessionGate

open Shape

/-- The fields of the parameters of a handshake. -/
def handshakeFields : Fields :=
  match handshakeParams with
  | .record _ own _ => own
  | _ => []

theorem handshakeParams_eq : handshakeParams = .record "InitializeParams" handshakeFields [] := rfl

theorem nodup_handshakeFields : (handshakeFields.map Prod.fst).Nodup := by decide

/-- The field of the root. -/
def rootField : String × Presence × Shape := ("rootUri", .keptDefaulted, .uri)

/-- The field of the capabilities. -/
def capabilitiesField : String × Presence × Shape := req "capabilities" clientCapabilities

/-- The field of the options. -/
def optionsField : String × Presence × Shape := opt "initializationOptions" .any

theorem rootField_mem : rootField ∈ handshakeFields := by
  simp [handshakeFields, handshakeParams, rootField]

theorem optionsField_mem : optionsField ∈ handshakeFields := by
  simp [handshakeFields, handshakeParams, optionsField]

theorem capabilitiesField_mem : capabilitiesField ∈ handshakeFields := by
  simp [handshakeFields, handshakeParams, capabilitiesField]

/-- A field is known by its name. -/
theorem eq_of_mem_handshakeFields {f g : String × Presence × Shape} (hf : f ∈ handshakeFields)
    (hg : g ∈ handshakeFields) (hname : f.1 = g.1) : f = g :=
  List.inj_on_of_nodup_map nodup_handshakeFields hf hg hname

/-! ## Before and after the reader -/

section

variable {members : Json.Members}

theorem found_rootField : found .own members rootField
    = (Json.Members.get? "rootUri" members).bind fun v =>
      if v.isNull then none else some (conformUri v) := by
  have hfound : found .own members rootField = _ := found_of_takesNull rfl nofun
  simpa only [conformIn] using hfound

theorem found_optionsField : found .own members optionsField
    = (Json.Members.get? "initializationOptions" members).bind fun v =>
      if v.isNull then none else some (.ok v) := by
  have hfound : found .own members optionsField = _ := found_of_takesNull rfl nofun
  simpa only [conformIn] using hfound

theorem found_capabilitiesField : found .own members capabilitiesField
    = (Json.Members.get? "capabilities" members).map (conformIn .own clientCapabilities) :=
  found_req .own members "capabilities" clientCapabilities

/-- A root that the reader lets through is a text before and after it, or null before and after. -/
theorem written?_rootField (hfits : Fits .own members rootField) :
    ∃ sent read : Option String,
      (Json.Members.get? "rootUri" members).getD .null = Json.stringOrNull sent ∧
        written? .own members rootField = some (Json.stringOrNull read) ∧
        (sent = none ↔ read = none) := by
  have haccepted := hfits.accepted
  unfold written?
  rw [found_rootField] at haccepted ⊢
  cases hget : Json.Members.get? "rootUri" members with
  | none => exact ⟨none, none, rfl, rfl, Iff.rfl⟩
  | some v =>
    rw [hget] at haccepted
    cases v with
    | null => exact ⟨none, none, rfl, rfl, Iff.rfl⟩
    | string text =>
      cases hparse : Uri.parse text with
      | error e =>
        refine absurd ?_ (haccepted (.badUri text e))
        simp [conformUri, hparse, Json.isNull]
      | ok u =>
        refine ⟨some text, some (String.ofList u.text), rfl, ?_, by simp⟩
        simp [conformUri, hparse, Json.isNull, Json.stringOrNull]
    -- a value of another kind is refused
    | _ => exact absurd rfl (haccepted _)

/-- Capabilities that the reader lets through are not null, neither before it nor after. -/
theorem written?_capabilitiesField (hfits : Fits .own members capabilitiesField) :
    ∃ sent read, Json.Members.get? "capabilities" members = some sent ∧ sent ≠ .null ∧
      written? .own members capabilitiesField = some read ∧ read ≠ .null := by
  have hfound : found .own members capabilitiesField = _ := found_capabilitiesField
  cases hget : Json.Members.get? "capabilities" members with
  | none =>
    rw [hget] at hfound
    cases hfits.present hfound
  | some sent =>
    rw [hget, Option.map_some] at hfound
    cases hconform : conformIn .own clientCapabilities sent with
    | error e =>
      rw [hconform] at hfound
      exact absurd hfound (hfits.accepted e)
    | ok read =>
      obtain ⟨ms, rfl⟩ := exists_object_of_conformIn hconform
      exact ⟨sent, .object ms, rfl, ne_null_of_conformIn hconform,
        by rw [written?, hfound, hconform], Json.noConfusion⟩

/-- The reader keeps the members of the options. -/
theorem optionMembers_written?_optionsField :
    Record.optionMembers (written? .own members optionsField)
      = Record.optionMembers (Json.Members.get? "initializationOptions" members) := by
  rw [written?, found_optionsField]
  cases Json.Members.get? "initializationOptions" members with
  | none => rfl
  | some v => cases v <;> rfl

end

/-- A handshake says after the reader what it said before, as far as its outcome depends on it:
whether it names a root, and the members of its options. -/
structure HandshakeRequest.IsReading (read sent : HandshakeRequest) : Prop where
  root : sent.root = none ↔ read.root = none
  options : Record.optionMembers read.options = Record.optionMembers sent.options

/-- What the reader lets through can be read as a handshake, before it and after. -/
theorem exists_isReading {members : Json.Members} {typed : Json}
    (h : handshakeParams.conform (.object members) = .ok typed) :
    ∃ sent read : HandshakeRequest, sent.IsReadFrom (.object members) ∧ read.IsReadFrom typed ∧
      read.IsReading sent := by
  rw [conform, handshakeParams_eq] at h
  obtain ⟨hfits, rfl⟩ := conformIn_record_eq_ok_iff.mp h
  obtain ⟨sentRoot, readRoot, hsentRoot, hreadRoot, hroot⟩ :=
    written?_rootField (hfits _ rootField_mem)
  obtain ⟨sentCapabilities, readCapabilities, hsent, hsentNe, hread, hreadNe⟩ :=
    written?_capabilitiesField (hfits _ capabilitiesField_mem)
  have hget {f : String × Presence × Shape} (hf : f ∈ handshakeFields) :
      (Json.ofMembers (entries .own members handshakeFields)).get? f.1
        = written? .own members f :=
    get?_record nodup_handshakeFields hf
  refine ⟨⟨sentRoot, sentCapabilities, Json.Members.get? "initializationOptions" members⟩,
    ⟨readRoot, readCapabilities, written? .own members optionsField⟩,
    ⟨hsent, hsentNe, hsentRoot, rfl⟩,
    ⟨(hget capabilitiesField_mem).trans hread, hreadNe, ?_, hget optionsField_mem⟩,
    hroot, optionMembers_written?_optionsField⟩
  rw [show Json.get? _ "rootUri" = _ from (hget rootField_mem).trans hreadRoot]
  rfl

/-! ## Neutral values -/

namespace Host

variable {key : String} {value : Json} {members : Json.Members}

theorem get?_neutralMember_of_ne {k : String} (h : k ≠ key) :
    Json.Members.get? k (neutralMember key value members) = Json.Members.get? k members := by
  unfold neutralMember
  split
  · split
    · rfl
    · exact Json.Members.get?_insert_of_ne h.symm value members
  · rfl

/-- Under its own key the neutral value stands for whatever is not null. -/
theorem get?_neutralMember_self :
    Json.Members.get? key (neutralMember key value members)
      = (Json.Members.get? key members).map fun v => if v.isNull then v else value := by
  unfold neutralMember
  cases hget : Json.Members.get? key members with
  | none => exact hget
  | some v =>
    dsimp only [Option.map_some]
    split
    · exact hget
    · exact Json.Members.get?_insert_self key value members

/-- An object without members is fit to be capabilities: none of them has to be there. -/
theorem conform_empty_capabilities :
    ∃ w, conformIn .own clientCapabilities .empty = .ok w := by
  refine ⟨_, conformIn_record_eq_ok_iff.mpr ⟨fun f hf => ⟨nofun, fun _ => ?_⟩, rfl⟩⟩
  revert f
  decide

theorem fits_neutral_capabilities {sent : Json}
    (hsent : Json.Members.get? "capabilities" members = some sent) (hne : sent ≠ .null) :
    Fits .own (neutralMember "capabilities" .empty members) capabilitiesField := by
  obtain ⟨w, hw⟩ := conform_empty_capabilities
  refine fits_of_found_ok (v := w) ?_
  rw [found_capabilitiesField, get?_neutralMember_self, hsent]
  cases sent with
  | null => exact absurd rfl hne
  | _ => exact congrArg some hw

theorem fits_neutral_root {members' : Json.Members}
    (h : Json.Members.get? "rootUri" members'
      = Json.Members.get? "rootUri" (neutralMember "rootUri" .null members)) :
    Fits .own members' rootField := by
  refine fits_of_found_none ?_ rfl
  rw [found_rootField, h, get?_neutralMember_self]
  cases Json.Members.get? "rootUri" members with
  | none => rfl
  | some v => cases v <;> rfl

/-- The members of the neutral copy of parameters. -/
theorem neutral_object (members : Json.Members) :
    neutral (.object members)
      = .object (neutralMember "capabilities" .empty (neutralMember "rootUri" .null members)) :=
  rfl

/-- The reader lets the neutral copy of parameters through if it lets them through as they are. -/
theorem conform_neutral {typed : Json}
    (h : handshakeParams.conform (.object members) = .ok typed) :
    ∃ shown, handshakeParams.conform (neutral (.object members)) = .ok shown := by
  rw [conform, handshakeParams_eq] at h
  obtain ⟨hfits, -⟩ := conformIn_record_eq_ok_iff.mp h
  rw [conform, handshakeParams_eq, neutral_object]
  refine ⟨_, conformIn_record_eq_ok_iff.mpr ⟨fun f hf => ?_, rfl⟩⟩
  by_cases hcapabilities : f.1 = "capabilities"
  · -- the capabilities are there, and are shown as an object without members
    rw [eq_of_mem_handshakeFields hf capabilitiesField_mem hcapabilities]
    obtain ⟨sent, -, hsent, hne, -⟩ := written?_capabilitiesField (hfits _ capabilitiesField_mem)
    exact fits_neutral_capabilities ((get?_neutralMember_of_ne (by decide)).trans hsent) hne
  · by_cases hroot : f.1 = "rootUri"
    · -- the root is shown as null, or is not there
      rw [eq_of_mem_handshakeFields hf rootField_mem hroot]
      exact fits_neutral_root (get?_neutralMember_of_ne (by decide))
    · refine (hfits f hf).congr (found_congr ?_)
      rw [get?_neutralMember_of_ne hcapabilities, get?_neutralMember_of_ne hroot]

end Host

end SessionGate
