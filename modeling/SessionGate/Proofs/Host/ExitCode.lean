import SessionGate.Proofs.Host.Order

/-!
# What the exit code says of a run

The exit code is read off the stage in which the last message leaves the controller. Along a run it
tells whether the client was ever answered a shutdown: no other message brings a session to its end,
and nothing that follows takes it back.

- `shuttingDown_receive_iff`, `shuttingDown_after_iff`: when a session has ended, after one message
  and after any.
- `exitCode_after_log`: the exit code of every run.
-/

namespace SessionGate

namespace Host

variable {h : Host}

/-- A handshake that is answered is no shutdown. -/
theorem not_isShutdown_of_isOpening {x : Exchange} (hx : x.IsOpening) : ¬x.IsShutdown :=
  fun hshutdown => absurd (hx.1.symm.trans hshutdown.1) (by decide)

/-- After a message the session has ended if it had ended before, or if the message was a shutdown
and was answered. -/
theorem shuttingDown_receive_iff (hc : h.Coherent) (d : Delivery) :
    (h.receive d).1.controller.state = .shuttingDown ↔
      h.controller.state = .shuttingDown ∨ (h.exchange d).IsShutdown := by
  show (h.exchange d).controller.state = .shuttingDown ↔ _
  cases exchange_course hc d with
  | stays controller _ no_shutdown =>
    rw [controller]
    exact (or_iff_left no_shutdown).symm
  | opens _ before after cause =>
    rw [after, before]
    exact iff_of_false nofun (not_or_intro nofun (not_isShutdown_of_isOpening cause))
  | completes _ before after _ cause =>
    rw [after, before]
    refine iff_of_false nofun (not_or_intro nofun fun hshutdown => ?_)
    exact absurd (cause.1.symm.trans hshutdown.1) (by decide)
  | ends _ after cause => exact iff_of_true (congrArg Controller.state after) (.inr cause)

theorem shuttingDown_after_iff (hc : h.Coherent) (ds : List Delivery) :
    (h.after ds).controller.state = .shuttingDown ↔
      h.controller.state = .shuttingDown ∨ ∃ x ∈ h.log ds, x.IsShutdown := by
  induction ds generalizing h with
  | nil =>
    have hnone : ¬∃ x ∈ h.log [], x.IsShutdown := by simp
    exact (or_iff_left hnone).symm
  | cons d ds ih =>
    calc
      (h.after (d :: ds)).controller.state = .shuttingDown
      _ ↔ (h.receive d).1.controller.state = .shuttingDown ∨
            ∃ x ∈ (h.receive d).1.log ds, x.IsShutdown := ih (hc.receive d)
      _ ↔ (h.controller.state = .shuttingDown ∨ (h.exchange d).IsShutdown) ∨
            ∃ x ∈ (h.receive d).1.log ds, x.IsShutdown := by rw [shuttingDown_receive_iff hc d]
      _ ↔ h.controller.state = .shuttingDown ∨ ∃ x ∈ h.log (d :: ds), x.IsShutdown := by
        rw [or_assoc, log_cons]
        simp only [List.mem_cons, exists_eq_or_imp]

/-- The session of a fresh host has ended exactly if a shutdown has been answered. -/
theorem shuttingDown_hostOf_iff (tag : String) (settings : Settings) (ds : List Delivery) :
    ((Program.hostOf tag settings).after ds).controller.state = .shuttingDown ↔
      ∃ x ∈ (Program.hostOf tag settings).log ds, x.IsShutdown := by
  have hnew : (Program.hostOf tag settings).controller.state ≠ .shuttingDown := nofun
  rw [shuttingDown_after_iff (coherent_hostOf tag settings) ds, or_iff_right hnew]

/-- **The exit code tells whether a shutdown was answered.** After any messages, in whatever order,
the process ends with zero exactly if some shutdown among them was answered with null, and with one
exactly if none was. The session has come to its last stage in both cases. -/
theorem exitCode_after_log (tag : String) (settings : Settings) (ds : List Delivery) :
    (((Program.hostOf tag settings).after ds).controller.exitCode.1 = 0 ↔
        ∃ x ∈ (Program.hostOf tag settings).log ds, x.IsShutdown) ∧
      (((Program.hostOf tag settings).after ds).controller.exitCode.1 = 1 ↔
        ∀ x ∈ (Program.hostOf tag settings).log ds, ¬x.IsShutdown) ∧
      ((Program.hostOf tag settings).after ds).controller.exitCode.2.state = .exited := by
  refine ⟨?_, ?_, rfl⟩
  · rw [Controller.exitCode_eq_zero_iff]
    exact shuttingDown_hostOf_iff tag settings ds
  · rw [Controller.exitCode_eq_one_iff, Ne, shuttingDown_hostOf_iff tag settings ds]
    simp only [not_exists, not_and]

example :
    ((Program.hostOf "7" {}).after
        [.handshake (some (.int 1)) "file:///srv/app", .bare "shutdown" (some (.int 2)) none,
          .bare "shutdown" (some (.int 3)) none, .bare "exit" none none,
          .handshake (some (.int 4)) "file:///srv/app"]).controller.exitCode.1 = 0 := by
  decide

end Host

end SessionGate
