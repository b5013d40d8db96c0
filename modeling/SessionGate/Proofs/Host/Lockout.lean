import SessionGate.Proofs.Host.Coherence

/-!
# When gate and controller agree on the end

The gate is shut by any message that asks for a shutdown, before its form is looked at; the
controller is told only of a request without parameters. Any other form shuts the gate behind a
session that goes on, and nothing that follows can make up for it.

- `Agrees`: a host whose gate is shut only if its session has ended.
- `state_after_shutdown`: what a shutdown does behind an open gate, in whichever form it comes.
- `agrees_iff_bare_requests`: which runs keep gate and controller together, exactly.
- `shutdown_unseen`: the smallest runs that do not.
-/

namespace SessionGate

namespace Host

/-- If the gate has been shut down, the session has ended and the process ends with zero. -/
def Agrees (h : Host) : Prop :=
  h.gate = .shutDown → h.controller.state = .shuttingDown ∧ h.controller.exitCode.1 = 0

variable {h : Host}

theorem agrees_of_shuttingDown (hstate : h.controller.state = .shuttingDown) : h.Agrees :=
  fun _ => ⟨hstate, h.controller.exitCode_eq_zero_iff.mpr hstate⟩

/-- A shutdown behind an open gate ends the session exactly if it is a request without parameters;
whatever follows, the session has ended then or never will. -/
theorem state_after_shutdown (hc : h.Coherent) (hopen : h.gate = .initialized) {d : Delivery}
    (hmethod : d.message.method = "shutdown") (ds : List Delivery) :
    (h.after (d :: ds)).controller.state = .shuttingDown ↔ d.message.IsBareRequest := by
  have hgate := gate_shutdown hopen hmethod
  rw [after_cons, controller_after_of_shut (hc.receive d) (.inl hgate)]
  show (h.exchange d).controller.state = .shuttingDown ↔ _
  cases hc.move d with
  | idle gate => cases hopen.symm.trans (gate.symm.trans hgate)
  | opens _ _ closed => cases hopen.symm.trans closed
  | completes _ _ _ _ _ _ gate => cases hgate.symm.trans gate
  | locks _ _ form _ controller =>
    -- behind an open gate no session has ended yet, and this shutdown ends none
    refine iff_of_false (fun hstate => ?_) form
    rw [controller] at hstate
    rcases hc.opened hopen with hbefore | hbefore <;> cases hbefore.symm.trans hstate
  | ends _ _ form _ controller => exact iff_of_true (congrArg Controller.state controller) form
  | exits _ gate => cases hgate.symm.trans gate

/-- The messages that shut an open gate are requests without parameters. -/
def ShutByBareRequests (h : Host) (ds : List Delivery) : Prop :=
  ∀ es d, es ++ [d] <+: ds → (h.after es).gate = .initialized →
    d.message.method = "shutdown" → d.message.IsBareRequest

theorem Agrees.receive (hc : h.Coherent) (ha : h.Agrees) {d : Delivery}
    (hd : h.gate = .initialized → d.message.method = "shutdown" → d.message.IsBareRequest) :
    (h.receive d).1.Agrees := by
  cases hc.move d with
  | idle gate controller =>
    intro hshut
    show (h.exchange d).controller.state = _ ∧ (h.exchange d).controller.exitCode.1 = 0
    rw [controller]
    exact ha (gate.symm.trans hshut)
  | opens _ _ _ _ _ _ _ gate => exact fun hshut => nomatch gate.symm.trans hshut
  | completes _ _ _ _ _ _ gate => exact fun hshut => nomatch gate.symm.trans hshut
  | locks closed method form => exact absurd (hd closed method) form
  | ends _ _ _ _ controller => exact agrees_of_shuttingDown (congrArg Controller.state controller)
  | exits _ gate => exact fun hshut => nomatch gate.symm.trans hshut

theorem Agrees.after (hc : h.Coherent) (ha : h.Agrees) {ds : List Delivery}
    (hds : h.ShutByBareRequests ds) : (h.after ds).Agrees := by
  induction ds generalizing h with
  | nil => exact ha
  | cons d ds ih =>
    refine ih (hc.receive d) (ha.receive hc (hds [] d ?_)) fun es e hes => ?_
    · exact ⟨ds, rfl⟩
    · exact hds (d :: es) e (List.cons_prefix_cons.mpr ⟨rfl, hes⟩)

/-- **When gate and controller agree on the end.** Along a run the gate is shut down only behind a
session that has ended, exactly if every message that shuts the open gate is a request without
parameters. Such a message ends the session for good; a shutdown of any other form shuts the gate
all the same and leaves a session that no later message ends, so that the process ends with one. -/
theorem agrees_iff_bare_requests (tag : String) (settings : Settings) (ds : List Delivery) :
    ((∀ es, es <+: ds → ((Program.hostOf tag settings).after es).Agrees) ↔
        (Program.hostOf tag settings).ShutByBareRequests ds) ∧
      (((Program.hostOf tag settings).after ds).gate = .initialized →
        ∀ d es, d.message.method = "shutdown" →
          ((Program.hostOf tag settings).after (ds ++ [d])).gate = .shutDown ∧
          (((Program.hostOf tag settings).after (ds ++ d :: es)).controller.state = .shuttingDown ↔
            d.message.IsBareRequest) ∧
          (((Program.hostOf tag settings).after (ds ++ d :: es)).controller.exitCode.1 = 0 ↔
            d.message.IsBareRequest)) := by
  have hc := coherent_hostOf tag settings
  have hstate {ds : List Delivery} {d : Delivery} (es : List Delivery)
      (hopen : ((Program.hostOf tag settings).after ds).gate = .initialized)
      (hmethod : d.message.method = "shutdown") :
      ((Program.hostOf tag settings).after (ds ++ d :: es)).controller.state = .shuttingDown ↔
        d.message.IsBareRequest := by
    rw [after_append]
    exact state_after_shutdown (hc.after ds) hopen hmethod es
  have hgate {ds : List Delivery} {d : Delivery}
      (hopen : ((Program.hostOf tag settings).after ds).gate = .initialized)
      (hmethod : d.message.method = "shutdown") :
      ((Program.hostOf tag settings).after (ds ++ [d])).gate = .shutDown := by
    rw [after_append]
    exact gate_shutdown hopen hmethod
  refine ⟨⟨fun hagrees es d hes hopen hmethod => ?_, fun hbare es hes => ?_⟩,
    fun hopen d es hmethod => ⟨hgate hopen hmethod, hstate es hopen hmethod, ?_⟩⟩
  -- what agrees to the end agrees right after the shutdown
  · exact (hstate [] hopen hmethod).mp (hagrees _ hes (hgate hopen hmethod)).1
  · refine Agrees.after hc (fun hshut => nomatch hshut) fun fs d hfs => ?_
    exact hbare fs d (hfs.trans hes)
  · rw [Controller.exitCode_eq_zero_iff]
    exact hstate es hopen hmethod

/-- A shutdown request with an empty object for parameters, and one without an id, shut the gate
behind a session that has not ended. -/
theorem shutdown_unseen :
    ¬((Program.hostOf "7" {}).after [.handshake (some (.int 1)) "file:///srv/app",
        .bare "shutdown" (some (.int 2)) (some .empty)]).Agrees ∧
      ¬((Program.hostOf "7" {}).after [.handshake (some (.int 1)) "file:///srv/app",
        .bare "shutdown" none none]).Agrees := by
  refine ⟨fun hagrees => ?_, fun hagrees => ?_⟩
  · exact absurd (hagrees (by decide)).1 (by decide)
  · exact absurd (hagrees (by decide)).1 (by decide)

end Host

end SessionGate
