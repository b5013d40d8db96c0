import Mathlib.Data.List.Induction
import SessionGate.Proofs.Session.History

/-!
# What the exit code says of a history

The exit code is read off the stage of a session, and says something of its whole history: whether
the last shutdown is still standing, that is, no exit came after it. The asking for an exit code is
an exit itself. Of all calls only these two kinds count: a shutdown makes the answer zero and an exit
makes it one, and any other call leaves it, whether it is accepted or refused.

- `Call.IsGreeting`: the calls of a handshake, whether or not they can be read.
- `EndsShutDown`: the last shutdown among calls is followed by no exit.
- `shuttingDown_call_iff`, `shuttingDown_after_iff`: which calls leave a session shut down.
- `exitCode_of_last_shutdown`: every run, and the exit code at any point of it.
-/

namespace SessionGate

namespace Call

/-- A handshake, or the notice that one is complete, whether or not it can be read. -/
def IsGreeting (k : Call) : Prop :=
  match k.demand with
  | .request r => r.method = "initialize" ∨ r.method = "initialized"
  | .message method _ => method = "initialize" ∨ method = "initialized"
  | .exitCode => False

/-- A greeting ends nothing, whatever becomes of it. -/
theorem IsGreeting.not_end {k : Call} (hk : k.IsGreeting) : ¬k.IsShutdown ∧ ¬k.IsExit := by
  obtain ⟨demand, s⟩ := k
  cases demand with
  | request r =>
    have hnamed : r.method = "initialize" ∨ r.method = "initialized" := hk
    refine Call.not_end (r := r) rfl ?_ fun status => ?_
    · rintro rfl
      exact absurd hnamed (by decide)
    · rintro rfl
      rcases hnamed with h | h <;> simp [Request.method] at h
  | message method params =>
    rcases hk with rfl | rfl
    · cases hread : Request.ofMethod "initialize" params with
      | ok r =>
        obtain ⟨q, rfl, -⟩ := Request.handshakeOf_eq_ok_iff.mp hread
        have hasked : Call.request? ⟨.message "initialize" params, s⟩ = some (.handshake q) := by
          rw [request?_message, hread]
          rfl
        exact Call.not_end hasked nofun nofun
      | error e => exact Call.not_end_of_unread rfl hread
    · exact Call.not_end (r := .initialized) rfl nofun nofun
  | exitCode => exact hk.elim

end Call

namespace Controller

variable {c c' : Controller} {k : Call} {ks : List Call}

/-- The last shutdown among calls is followed by no exit. -/
def EndsShutDown (ks : List Call) : Prop :=
  ∃ js k ls, ks = js ++ k :: ls ∧ k.IsShutdown ∧ ∀ l ∈ ls, ¬l.IsShutdown ∧ ¬l.IsExit

theorem not_endsShutDown_nil : ¬EndsShutDown [] := by
  rintro ⟨js, k, ls, hcut, -⟩
  simp at hcut

/-- A call at the end decides if it is a shutdown or an exit, and changes nothing if it is not. -/
theorem endsShutDown_concat_iff (ks : List Call) (k : Call) :
    EndsShutDown (ks ++ [k]) ↔ k.IsShutdown ∨ EndsShutDown ks ∧ ¬k.IsExit := by
  constructor
  · rintro ⟨js, l, ls, hcut, hl, hafter⟩
    rcases List.eq_nil_or_concat ls with rfl | ⟨ls, m, rfl⟩
    · obtain ⟨-, hk⟩ := List.append_inj' hcut rfl
      cases hk
      exact .inl hl
    · rw [List.concat_eq_append, ← List.cons_append, ← List.append_assoc] at hcut
      obtain ⟨rfl, hk⟩ := List.append_inj' hcut rfl
      cases hk
      rw [List.concat_eq_append, List.forall_mem_append] at hafter
      have hlast := hafter.2 k List.mem_cons_self
      exact .inr ⟨⟨js, l, ls, rfl, hl, hafter.1⟩, hlast.2⟩
  · intro h
    by_cases hk : k.IsShutdown
    · exact ⟨ks, k, [], rfl, hk, by simp⟩
    · obtain ⟨⟨js, l, ls, rfl, hl, hafter⟩, hexit⟩ := h.resolve_left hk
      refine ⟨js, l, ls ++ [k], by simp, hl, ?_⟩
      rw [List.forall_mem_append]
      exact ⟨hafter, by simpa using ⟨hk, hexit⟩⟩

/-! ## The stage after calls -/

/-- After a call the session is shut down if the call was a shutdown, or if it had been shut down
before and the call was no exit. -/
theorem shuttingDown_call_iff (c : Controller) (k : Call) :
    (c.call k).controller.state = .shuttingDown ↔
      k.IsShutdown ∨ c.state = .shuttingDown ∧ ¬k.IsExit := by
  have hopen {r : Request} (hr : k.request? = some r) (hne : r ≠ .shutdown)
      (hbefore : c.state ≠ .shuttingDown) (hafter : (c.call k).controller.state ≠ .shuttingDown) :
      (c.call k).controller.state = .shuttingDown ↔
        k.IsShutdown ∨ c.state = .shuttingDown ∧ ¬k.IsExit :=
    iff_of_false hafter (not_or_intro (fun h => hne (Option.some.inj (hr.symm.trans h)))
      fun h => hbefore h.1)
  cases c.effect k with
  | refuses e cause outcome =>
    rw [outcome, or_iff_right cause.not_end.1]
    exact (and_iff_left cause.not_end.2).symm
  | opens q root asked state _ outcome =>
    exact hopen asked nofun (by rw [state]; nofun) (by rw [outcome]; nofun)
  | starts r asked state _ outcome =>
    exact hopen asked nofun (by rw [state]; nofun) (by rw [outcome]; nofun)
  | acknowledges asked _ outcome =>
    have hshutdown : ¬k.IsShutdown := fun h => nomatch asked.symm.trans h
    rw [outcome, or_iff_right hshutdown]
    exact (and_iff_left (Call.not_isExit asked nofun)).symm
  | shutsDown asked outcome =>
    rw [outcome]
    exact iff_of_true rfl (.inl asked)
  | exits status asked outcome =>
    rw [outcome]
    exact iff_of_false nofun
      (not_or_intro (Call.not_isShutdown_of_isExit asked) fun h => h.2 asked)

/-- After calls the session is shut down if they end so, or if it had been before and none of them
was an exit. -/
theorem shuttingDown_after_iff (c : Controller) (ks : List Call) :
    (c.after ks).state = .shuttingDown ↔
      EndsShutDown ks ∨ c.state = .shuttingDown ∧ ∀ k ∈ ks, ¬k.IsExit := by
  -- from the end of the calls, since the last of them decides
  induction ks using List.reverseRecOn with
  | nil =>
    rw [after_nil, or_iff_right not_endsShutDown_nil]
    exact (and_iff_left nofun).symm
  | append_singleton ks k ih =>
    have hexits : (∀ l ∈ ks ++ [k], ¬l.IsExit) ↔ (∀ l ∈ ks, ¬l.IsExit) ∧ ¬k.IsExit := by
      rw [List.forall_mem_append, List.forall_mem_singleton]
    calc
      (c.after (ks ++ [k])).state = .shuttingDown
      _ ↔ k.IsShutdown ∨ (c.after ks).state = .shuttingDown ∧ ¬k.IsExit := by
        rw [after_append, after_cons, after_nil, shuttingDown_call_iff]
      _ ↔ k.IsShutdown ∨
            (EndsShutDown ks ∨ c.state = .shuttingDown ∧ ∀ l ∈ ks, ¬l.IsExit) ∧ ¬k.IsExit := by
        rw [ih]
      _ ↔ EndsShutDown (ks ++ [k]) ∨ c.state = .shuttingDown ∧ ∀ l ∈ ks ++ [k], ¬l.IsExit := by
        rw [endsShutDown_concat_iff, hexits, or_and_right, or_assoc, and_assoc]

/-! ## The exit code -/

/-- Two sessions of which both or none are shut down end with the same exit code. -/
theorem exitCode_congr (h : c.state = .shuttingDown ↔ c'.state = .shuttingDown) :
    c.exitCode.1 = c'.exitCode.1 := by
  by_cases hstate : c.state = .shuttingDown
  · rw [(exitCode_eq_zero_iff c).mpr hstate, (exitCode_eq_zero_iff c').mpr (h.mp hstate)]
  · have hstate' : c'.state ≠ .shuttingDown := fun hs => hstate (h.mpr hs)
    rw [(exitCode_eq_one_iff c).mpr hstate, (exitCode_eq_one_iff c').mpr hstate']

/-- Greetings leave a session shut down or not, as it was. -/
theorem shuttingDown_after_greetings (hks : ∀ k ∈ ks, k.IsGreeting) :
    (c.after ks).state = .shuttingDown ↔ c.state = .shuttingDown := by
  have hnone : ¬EndsShutDown ks := by
    rintro ⟨js, k, ls, rfl, hk, -⟩
    exact (hks k (by simp)).not_end.1 hk
  rw [shuttingDown_after_iff, or_iff_right hnone]
  exact and_iff_left fun k hk => (hks k hk).not_end.2

/-- **The exit code tells whether the last shutdown stands.** After any calls, in any order, it is
zero exactly if there was a shutdown and no exit came after the last one, and one exactly if that is
not so; the exit code that a process asks for counts as an exit. The asking leaves the record as it
is and the session exited, so that the next answer is one. Handshakes and notices that one is
complete, accepted or refused, make no difference wherever they come. -/
theorem exitCode_of_last_shutdown (document : Document) (ks : List Call) :
    (((new document).after ks).exitCode.1 = 0 ↔ EndsShutDown ks) ∧
      (((new document).after ks).exitCode.1 = 1 ↔ ¬EndsShutDown ks) ∧
      ((new document).after ks).exitCode.2.record? = ((new document).after ks).record? ∧
      ((new document).after ks).exitCode.2.state = .exited ∧
      ((new document).after ks).exitCode.2.exitCode.1 = 1 ∧
      ∀ js greetings ls, ks = js ++ ls → (∀ k ∈ greetings, k.IsGreeting) →
        ((new document).after (js ++ greetings ++ ls)).exitCode.1
          = ((new document).after ks).exitCode.1 := by
  have hended : ((new document).after ks).state = .shuttingDown ↔ EndsShutDown ks := by
    rw [shuttingDown_after_iff]
    exact or_iff_left fun h => nomatch h.1
  refine ⟨?_, ?_, rfl, rfl, rfl, ?_⟩
  · rw [exitCode_eq_zero_iff, hended]
  · rw [exitCode_eq_one_iff, Ne, hended]
  · rintro js greetings ls rfl hgreetings
    refine exitCode_congr ?_
    rw [after_append, after_append, after_append, shuttingDown_after_iff,
      shuttingDown_after_greetings hgreetings, ← shuttingDown_after_iff]

/-- A handshake that is refused, one that cannot be read and a notice that comes too late follow a
shutdown, and the exit code stays zero. -/
theorem exitCode_after_late_greetings :
    let ks := [Call.handshake (some "file:///srv/app"), .bare .shutdown]
    let greetings := [Call.handshake (some "file:///b"),
      ⟨.message "initialize" .empty, .lost "No such file or directory"⟩, .bare .initialized]
    ks = ks ++ [] ∧ (∀ k ∈ greetings, k.IsGreeting) ∧
      ((new (.build [] .none)).after (ks ++ greetings ++ [])).exitCode.1 = 0 := by
  intro ks greetings
  have hgreetings : ∀ k ∈ greetings, k.IsGreeting := by
    simp [greetings, Call.handshake, Call.bare, Call.IsGreeting, Request.method]
  obtain ⟨hzero, -, -, -, -, hsame⟩ := exitCode_of_last_shutdown (.build [] .none) ks
  refine ⟨rfl, hgreetings, ?_⟩
  rw [hsame ks greetings [] rfl hgreetings, hzero]
  exact ⟨[.handshake (some "file:///srv/app")], .bare .shutdown, [], rfl, rfl, nofun⟩

end Controller

end SessionGate
