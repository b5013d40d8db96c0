import SessionGate.Proofs.Session.Grammar

/-!
# Why a message is refused

A method and its parameters are read as a request, and the request is handed to the controller. On
the way five things can be wrong with a message, several of them at once. Each is said here of the
message, the stage of the session and its surroundings alone; the first of them in a fixed order
decides.

- `Request.Reading`: what a method and parameters are read as, and `Request.reading`.
- `Fault`, `Fault.Holds`: what can be wrong with a message, one independent of the other.
- `Fault.IsFirst`: the fault that decides; `Fault.Raises`: the error that it is answered with.
- `Controller.refuse_of_isFirst`, `Controller.ok_of_no_fault`: a session refuses a message for its
  first fault, and only for a fault.
- `Controller.refused_for_first_fault`: every message to every session that can be reached.
-/

namespace SessionGate

/-! ## Reading a message -/

/-- Parameters with a status: an object with such a member, or the array of one item. -/
def ExitStatus.IsIn (params : Json) : Prop :=
  (∃ v, params.get? "status" = some v) ∨ ∃ v, params = .array [v]

namespace Request

/-- The methods of a session's life. -/
def methods : List String := ["initialize", "initialized", "shutdown", "exit"]

/-- What parameters must hold for a method: a handshake what it consists of, an exit a status, and
the others nothing. -/
def Readable (method : String) (params : Json) : Prop :=
  match method with
  | "initialize" => ∃ q : HandshakeRequest, q.IsReadFrom params
  | "exit" => ExitStatus.IsIn params
  | _ => True

/-- What a method and parameters are read as. -/
inductive Reading (method : String) (params : Json) : Except SessionError Request → Prop where
  | unknown (other : method ∉ methods) : Reading method params (.error (.methodNotFound method))
  | unreadable (known : method ∈ methods) (bad : ¬Readable method params) (detail : String) :
      Reading method params (.error (.invalidParams detail))
  | handshake (named : method = "initialize") (q : HandshakeRequest) (read : q.IsReadFrom params) :
      Reading method params (.ok (.handshake q))
  | initialized (named : method = "initialized") : Reading method params (.ok .initialized)
  | shutdown (named : method = "shutdown") : Reading method params (.ok .shutdown)
  | exit (named : method = "exit") (has : ExitStatus.IsIn params) (status : ExitStatus) :
      Reading method params (.ok (.exit status))

theorem reading_handshake (params : Json) : Reading "initialize" params (handshakeOf params) := by
  cases hread : handshakeOf params with
  | ok r =>
    obtain ⟨q, rfl, hq⟩ := handshakeOf_eq_ok_iff.mp hread
    exact .handshake rfl q hq
  | error e =>
    have hbad : ¬Readable "initialize" params := by
      rintro ⟨q, hq⟩
      cases hread.symm.trans (handshakeOf_eq_ok_iff.mpr ⟨q, rfl, hq⟩)
    obtain ⟨detail, rfl, -⟩ := handshakeOf_eq_error_iff.mp hread
    exact .unreadable (by decide) hbad detail

/-- Parameters are read as an exit exactly if there is a status in them. -/
theorem conform_exitParams_iff (params : Json) :
    (∃ v, exitParams.conform params = .ok v) ↔ ExitStatus.IsIn params := by
  rw [exists_conform_exitParams_iff]
  constructor
  · rintro ⟨v, hgiven⟩
    cases hgiven with
    | member members found => exact .inl ⟨v, found⟩
    | item => exact .inr ⟨v, rfl⟩
  · rintro (⟨v, hget⟩ | ⟨v, rfl⟩)
    · cases params with
      | object members => exact ⟨v, .member members hget⟩
      | _ => cases hget
    · exact ⟨v, .item⟩

theorem reading_exit (params : Json) : Reading "exit" params (exitOf params) := by
  unfold exitOf
  split
  · next v hok => exact .exit rfl ((conform_exitParams_iff params).mp ⟨v, hok⟩) _
  · next e herror =>
    have hbad : ¬Readable "exit" params := by
      intro hhas
      obtain ⟨v, hok⟩ := (conform_exitParams_iff params).mpr hhas
      cases herror.symm.trans hok
    exact .unreadable (by decide) hbad _

/-- Every method and parameters are read as one of these. -/
theorem reading (method : String) (params : Json) :
    Reading method params (ofMethod method params) := by
  unfold ofMethod
  split
  · exact reading_handshake params
  · exact .initialized rfl
  · exact .shutdown rfl
  · exact reading_exit params
  · next hhandshake hinitialized hshutdown hexit =>
    refine .unknown fun hmem => ?_
    simp only [methods, List.mem_cons, List.not_mem_nil, or_false] at hmem
    rcases hmem with rfl | rfl | rfl | rfl
    · exact hhandshake rfl
    · exact hinitialized rfl
    · exact hshutdown rfl
    · exact hexit rfl

variable {method : String} {params : Json}

theorem ofMethod_of_unknown (h : method ∉ methods) :
    ofMethod method params = .error (.methodNotFound method) := by
  have hread := reading method params
  generalize ofMethod method params = result at hread
  cases hread with
  | unknown _ => rfl
  | unreadable known _ _ => exact absurd known h
  | handshake named _ _ => exact absurd (named ▸ by decide) h
  | initialized named => exact absurd (named ▸ by decide) h
  | shutdown named => exact absurd (named ▸ by decide) h
  | exit named _ _ => exact absurd (named ▸ by decide) h

theorem ofMethod_of_unreadable (hknown : method ∈ methods) (hbad : ¬Readable method params) :
    ∃ detail, ofMethod method params = .error (.invalidParams detail) := by
  have hread := reading method params
  generalize ofMethod method params = result at hread
  cases hread with
  | unknown other => exact absurd hknown other
  | unreadable _ _ detail => exact ⟨detail, rfl⟩
  | handshake named q read =>
    subst named
    exact absurd ⟨q, read⟩ hbad
  | initialized named =>
    subst named
    exact absurd trivial hbad
  | shutdown named =>
    subst named
    exact absurd trivial hbad
  | exit named has _ =>
    subst named
    exact absurd has hbad

end Request

/-! ## Faults -/

/-- What can be wrong with a message. -/
inductive Fault where
  /-- Its method is none of a session's life. -/
  | unknownMethod
  /-- Its parameters do not hold what the method is read with. -/
  | unreadable
  /-- It is a handshake, and the session has been opened already, or ended. -/
  | late
  /-- It is a handshake that names no root, and there is no working directory. -/
  | rootless
  /-- It is the notice that a handshake is complete, and there was none. -/
  | early

namespace Fault

/-- The place of a fault in the order in which they are looked for. -/
def place : Fault → Nat
  | unknownMethod => 0
  | unreadable => 1
  | late => 2
  | rootless => 3
  | early => 4

/-- Whether a message to a session has a fault, whatever other faults it has. -/
def Holds (c : Controller) (s : Surroundings) (method : String) (params : Json) : Fault → Prop
  | unknownMethod => method ∉ Request.methods
  | unreadable => ¬Request.Readable method params
  | late => method = "initialize" ∧ c.state ≠ .uninitialized
  | rootless => method = "initialize" ∧ (params.get? "rootUri").getD .null = .null ∧
      ∃ cause, s.workingDirectory = .error cause
  | early => method = "initialized" ∧ c.state = .uninitialized

/-- The errors that a fault is answered with. -/
def Raises (c : Controller) (s : Surroundings) (method : String) : Fault → SessionError → Prop
  | unknownMethod, e => e = .methodNotFound method
  | unreadable, e => ∃ detail, e = .invalidParams detail
  | late, e => e = .invalidRequest ("initialize received while " ++ c.state.name)
  | rootless, e => ∃ cause, s.workingDirectory = .error cause ∧ e = .rootResolution cause
  | early, e => e = .notInitialized

/-- A fault decides: the message has it, and none that is looked for before it. -/
structure IsFirst (c : Controller) (s : Surroundings) (method : String) (params : Json)
    (f : Fault) : Prop where
  holds : f.Holds c s method params
  earlier : ∀ g : Fault, g.place < f.place → ¬g.Holds c s method params

/-- Of the faults that a message has, one is the first. -/
theorem exists_isFirst {c : Controller} {s : Surroundings} {method : String} {params : Json}
    {f : Fault} (hf : f.Holds c s method params) :
    ∃ g : Fault, g.IsFirst c s method params := by
  -- by induction on the place: either nothing is wrong before it, or something earlier is
  induction hplace : f.place using Nat.strongRecOn generalizing f with
  | ind n ih =>
    by_cases hearlier : ∃ g : Fault, g.place < f.place ∧ g.Holds c s method params
    · obtain ⟨g, hlt, hg⟩ := hearlier
      exact ih g.place (hplace ▸ hlt) hg rfl
    · exact ⟨f, hf, fun g hlt hg => hearlier ⟨g, hlt, hg⟩⟩

end Fault

namespace Controller

open Fault Request

variable {c : Controller} {s : Surroundings} {method : String} {params : Json} {f : Fault}

/-- A message that has a fault is refused for its first one, and changes nothing. -/
theorem refuse_of_isFirst (hf : f.IsFirst c s method params) :
    ∃ e, f.Raises c s method e ∧ c.call ⟨.message method params, s⟩ = c.refuse e := by
  have hknown (hplace : 0 < f.place) : method ∈ methods :=
    Decidable.not_not.mp (hf.earlier .unknownMethod hplace)
  have hreadable (hplace : 1 < f.place) : Readable method params := by
    by_contra hbad
    exact hf.earlier .unreadable hplace hbad
  rw [call_message]
  cases f with
  | unknownMethod => exact ⟨_, rfl, by rw [ofMethod_of_unknown hf.holds]⟩
  | unreadable =>
    obtain ⟨detail, hread⟩ := ofMethod_of_unreadable (hknown (by decide)) hf.holds
    exact ⟨_, ⟨detail, rfl⟩, by rw [hread]⟩
  | late =>
    obtain ⟨rfl, hstate⟩ := hf.holds
    obtain ⟨q, hq⟩ := hreadable (by decide)
    have hread : ofMethod "initialize" params = .ok (.handshake q) :=
      handshakeOf_eq_ok_iff.mpr ⟨q, rfl, hq⟩
    refine ⟨_, rfl, ?_⟩
    rw [hread]
    rcases handshake_spec s c q with ⟨-, hrefused⟩ | ⟨hnew, -⟩ | ⟨hnew, -⟩
    · exact hrefused
    · exact absurd hnew hstate
    · exact absurd hnew hstate
  | rootless =>
    obtain ⟨rfl, hnull, cause, hcause⟩ := hf.holds
    obtain ⟨q, hq⟩ := hreadable (by decide)
    have hread : ofMethod "initialize" params = .ok (.handshake q) :=
      handshakeOf_eq_ok_iff.mpr ⟨q, rfl, hq⟩
    -- no root is named, so the working directory is asked for
    have hroot : resolveRoot s q.root = .error (.rootResolution cause) := by
      have hnamed := hnull.symm.trans hq.root
      cases hq' : q.root with
      | none =>
        rw [resolveRoot, hcause]
        rfl
      | some root =>
        rw [hq'] at hnamed
        cases hnamed
    have hnew : ¬c.state ≠ .uninitialized := fun hstate =>
      hf.earlier .late (by decide) ⟨rfl, hstate⟩
    refine ⟨_, ⟨cause, hcause, rfl⟩, ?_⟩
    rw [hread]
    rcases handshake_spec s c q with ⟨hstate, -⟩ | ⟨-, e, he, hrefused⟩ | ⟨-, root, hok, -⟩
    · exact absurd hstate hnew
    · cases hroot.symm.trans he
      exact hrefused
    · cases hroot.symm.trans hok
  | early =>
    obtain ⟨rfl, hstate⟩ := hf.holds
    refine ⟨_, rfl, ?_⟩
    show c.initialized = _
    rcases c.initialized_spec with ⟨-, hrefused⟩ | ⟨hopening, -⟩ | ⟨hopening, -⟩ | ⟨⟨hne, -⟩, -⟩
    · exact hrefused
    · cases hstate.symm.trans hopening
    · cases hstate.symm.trans hopening
    · exact absurd hstate hne

/-- A message without a fault is answered. -/
theorem ok_of_no_fault (hc : c.Sound) (hnone : ∀ f : Fault, ¬f.Holds c s method params) :
    ∃ reply, (c.call ⟨.message method params, s⟩).reply = .ok reply := by
  rw [call_message]
  have hread := reading method params
  generalize ofMethod method params = result at hread ⊢
  cases hread with
  | unknown other => exact absurd other (hnone .unknownMethod)
  | unreadable known bad detail => exact absurd bad (hnone .unreadable)
  | handshake named q read =>
    show ∃ reply, (c.handshake s q).reply = .ok reply
    rcases handshake_spec s c q with ⟨hstate, -⟩ | ⟨-, e, he, -⟩ | ⟨-, root, -, hopened⟩
    · exact absurd ⟨named, hstate⟩ (hnone .late)
    · obtain ⟨hroot, cause, hcause, -⟩ := resolveRoot_eq_error he
      have hnull : (params.get? "rootUri").getD .null = .null := by
        rw [read.root, hroot]
        rfl
      exact absurd ⟨named, hnull, cause, hcause⟩ (hnone .rootless)
    · rw [hopened]
      exact ⟨_, rfl⟩
  | initialized named =>
    show ∃ reply, c.initialized.reply = .ok reply
    rcases c.initialized_spec with ⟨hstate, -⟩ | ⟨hopening, hlost, -⟩ | ⟨-, r, -, ho⟩ | ⟨-, ho⟩
    · exact absurd ⟨named, hstate⟩ (hnone .early)
    · exact absurd hlost (hc.opening hopening)
    · rw [ho]
      exact ⟨_, rfl⟩
    · rw [ho]
      exact ⟨_, rfl⟩
  | shutdown named => exact ⟨_, rfl⟩
  | exit named has status => exact ⟨_, rfl⟩

/-- A session that was opened as it should be never misses its record. -/
theorem reply_ne_internal (hc : c.Sound) (k : Call) (detail : String) :
    (c.call k).reply ≠ .error (.internal detail) := by
  intro h
  obtain ⟨hrefusal, -⟩ := refusal_of_error h
  cases hrefusal with
  | unread method params _ _ hread =>
    have hreading := reading method params
    rw [hread] at hreading
    cases hreading
  | lost _ state record => exact hc.opening state record

/-! ## Every session -/

/-- How a session takes the messages and calls that it may get next. -/
structure Judges (c : Controller) : Prop where
  /-- A message is refused exactly if it has a fault. -/
  refused_iff : ∀ s method params,
    (∃ e, (c.call ⟨.message method params, s⟩).reply = .error e) ↔
      ∃ f : Fault, f.Holds c s method params
  /-- The first of its faults decides about the error; nothing is changed, and nothing started. -/
  first : ∀ s method params, ∀ f : Fault, f.IsFirst c s method params →
    ∃ e, f.Raises c s method e ∧ (c.call ⟨.message method params, s⟩).reply = .error e ∧
      (c.call ⟨.message method params, s⟩).controller = c ∧
      (c.call ⟨.message method params, s⟩).triggers = []
  /-- A shutdown is acknowledged, whatever comes with it. -/
  shutdown : ∀ s params, (c.call ⟨.message "shutdown" params, s⟩).reply = .ok .acknowledge
  /-- An exit with a status ends the process. -/
  exit : ∀ s params, ExitStatus.IsIn params →
    ∃ status : ExitStatus,
      (c.call ⟨.message "exit" params, s⟩).reply = .ok (.terminating status.code)
  /-- No call finds that the record is missing. -/
  never_lost : ∀ k detail, (c.call k).reply ≠ .error (.internal detail)

/-- **A message is refused for its first fault.** In every session that calls of any kind can lead
to, a message is refused exactly if something is wrong with it, and the error is that of the first
of its faults, in the order: method, parameters, stage of a handshake, its root, stage of the notice
that it is complete. A refusal leaves stage and record as they were and starts nothing. A shutdown
and an exit that can be read are never refused, and the record is never missing. -/
theorem refused_for_first_fault (document : Document) (ks : List Call) :
    ((new document).after ks).Judges := by
  have hc : ((new document).after ks).Sound := (sound_new document).after ks
  generalize (new document).after ks = c at hc
  constructor
  case refused_iff =>
    intro s method params
    constructor
    · rintro ⟨e, he⟩
      by_contra hnone
      obtain ⟨reply, hok⟩ := ok_of_no_fault hc fun f hf => hnone ⟨f, hf⟩
      cases he.symm.trans hok
    · rintro ⟨f, hf⟩
      obtain ⟨g, hg⟩ := exists_isFirst hf
      obtain ⟨e, -, hrefused⟩ := refuse_of_isFirst hg
      exact ⟨e, congrArg Outcome.reply hrefused⟩
  case first =>
    intro s method params f hf
    obtain ⟨e, hraises, hrefused⟩ := refuse_of_isFirst hf
    rw [hrefused]
    exact ⟨e, hraises, rfl, rfl, rfl⟩
  case shutdown => exact fun _ _ => rfl
  case exit =>
    intro s params hhas
    obtain ⟨v, hv⟩ := (conform_exitParams_iff params).mpr hhas
    refine ⟨.ofJson ((v.get? "status").getD .null), ?_⟩
    rw [call_message, show ofMethod "exit" params = exitOf params from rfl, exitOf, hv]
    rfl
  case never_lost => exact reply_ne_internal hc

/-- This handshake comes after the end, without capabilities, and without a root where there is no
working directory. Its parameters decide. -/
example (document : Document) :
    (((new document).after [.bare (.exit .shutdown)]).call
        ⟨.message "initialize" .empty, .lost "No such file or directory"⟩).reply
      = .error (.invalidParams (ShapeError.missingField "capabilities").message) := rfl

end Controller

end SessionGate
