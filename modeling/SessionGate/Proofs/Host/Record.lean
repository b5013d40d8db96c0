import SessionGate.Proofs.Host.Coherence

/-!
# Where the record of a session comes from

The parameters of a handshake reach the controller by way of a place that holds one value and is
filled before the gate decides. What a refused handshake leaves there is never read.

- `record?_after_of_no_opening`: without an answered handshake the record stays what it is.
- `record_of_answered_handshake`: along every run.
-/

namespace SessionGate

namespace Host

variable {h : Host}

theorem record?_after_of_no_opening (hc : h.Coherent) {ds : List Delivery}
    (hds : ∀ x ∈ h.log ds, ¬x.IsOpening) :
    (h.after ds).controller.record? = h.controller.record? := by
  induction ds generalizing h with
  | nil => rfl
  | cons d ds ih =>
    rw [log_cons, List.forall_mem_cons] at hds
    rcases record?_cases hc d with ⟨-, hsame⟩ | ⟨hopening, -⟩
    · rw [after_cons, ih (hc.receive d) hds.2, hsame]
    · exact absurd hopening hds.1

/-- **The record is that of the answered handshake.** As long as no handshake has been answered with
a result there is no record. A handshake that is answered with one finds none, and from then on,
whatever follows, the record is the one that the parameters of this very message call for. -/
theorem record_of_answered_handshake (tag : String) (settings : Settings) (ds : List Delivery) :
    ((∀ x ∈ (Program.hostOf tag settings).log ds, ¬x.IsOpening) →
        ((Program.hostOf tag settings).after ds).controller.record? = none) ∧
      ∀ d, (((Program.hostOf tag settings).after ds).exchange d).IsOpening →
        ((Program.hostOf tag settings).after ds).controller.record? = none ∧
          ∃ p r, d.message.params = some p ∧ r.IsOf d.surroundings p ∧
            ∀ es, ((Program.hostOf tag settings).after (ds ++ d :: es)).controller.record?
              = some r := by
  have hc := coherent_hostOf tag settings
  refine ⟨record?_after_of_no_opening hc, fun d hd => ?_⟩
  rcases record?_cases (hc.after ds) d with ⟨hnot, -⟩ | ⟨-, hnone, p, r, hparams, hrecord, hr⟩
  · exact absurd hd hnot
  · refine ⟨hnone, p, r, hparams, hrecord, fun es => ?_⟩
    rw [after_append, after_cons]
    exact record?_after ((hc.after ds).receive d) hr es

/-- The root of a notice that looks like a handshake is kept, but is not that of the record. -/
theorem record_after_stale_handshake :
    (((Program.hostOf "7" {}).after [.handshake none "file:///stale"]).exchange
        (.handshake (some (.int 1)) "file:///srv/app")).IsOpening ∧
      ∃ p r, (Delivery.handshake (some (.int 1)) "file:///srv/app").message.params = some p ∧
        r.IsOf (.lost "No such file or directory") p ∧
        ∀ es, ((Program.hostOf "7" {}).after ([.handshake none "file:///stale"] ++
          .handshake (some (.int 1)) "file:///srv/app" :: es)).controller.record? = some r := by
  have hopening : (((Program.hostOf "7" {}).after [.handshake none "file:///stale"]).exchange
      (.handshake (some (.int 1)) "file:///srv/app")).IsOpening := by decide
  exact ⟨hopening, ((record_of_answered_handshake "7" {} _).2 _ hopening).2⟩

end Host

end SessionGate
