import SessionGate.Program
import SessionGate.Proofs.Host.Move

/-!
# Gate and controller along a run

The gate and the controller keep a state each. This is what they agree on after any messages.

- `Host.Coherent`: the invariant, with `coherent_hostOf`, `Coherent.receive` and `Coherent.after`.
- `record?_cases`, `record?_after`: the record of a session is written once, by the handshake that
  is answered.
- `controller_after_of_shut`: a gate that has been shut lets nothing through to the controller.
-/

namespace SessionGate

namespace Host

/-- What gate and controller agree on: behind an open gate the session is being opened or is open,
and there is a record exactly from the handshake on. -/
structure Coherent (h : Host) : Prop where
  document : h.controller.document.IsNormal
  opened : h.gate = .initialized →
    h.controller.state = .initializing ∨ h.controller.state = .initialized
  record : h.controller.record? = none ↔ h.controller.state = .uninitialized

theorem coherent_hostOf (tag : String) (settings : Settings) :
    (Program.hostOf tag settings).Coherent where
  document := isNormal_build_standard tag settings.overrides
  opened hgate := nomatch hgate
  record := ⟨fun _ => rfl, fun _ => rfl⟩

variable {h : Host}

theorem Coherent.move (hc : h.Coherent) (d : Delivery) :
    h.Move (h.receive d).1 (h.exchange d) :=
  Host.move hc.document d

theorem Coherent.receive (hc : h.Coherent) (d : Delivery) : (h.receive d).1.Coherent := by
  -- a move leaves the controller as it is, or writes its state together with a record
  have hkept {h' : Host} (hcontroller : h'.controller = h.controller)
      (hgate : h'.gate = .initialized → h.gate = .initialized) : h'.Coherent :=
    { document := by rw [hcontroller]; exact hc.document
      opened := fun hopen => by rw [hcontroller]; exact hc.opened (hgate hopen)
      record := by rw [hcontroller]; exact hc.record }
  have hmoved {h' : Host} {state : SessionState} {r? : Option Record}
      (hcontroller : h'.controller = { h.controller with state := state, record? := r? })
      (hopened : h'.gate = .initialized → state = .initializing ∨ state = .initialized)
      (hrecord : r? ≠ none) (hstate : state ≠ .uninitialized) : h'.Coherent :=
    { document := by rw [hcontroller]; exact hc.document
      opened := fun hopen => by rw [hcontroller]; exact hopened hopen
      record := by rw [hcontroller]; exact iff_of_false hrecord hstate }
  have hthere (hopen : h.gate = .initialized) : h.controller.record? ≠ none := fun hnone => by
    rcases hc.opened hopen with hstate | hstate <;> cases hstate.symm.trans (hc.record.mp hnone)
  cases hc.move d with
  | idle gate controller => exact hkept controller fun hopen => gate.symm.trans hopen
  | opens p r _ _ _ _ _ _ controller =>
    exact hmoved controller (fun _ => .inl rfl) (Option.some_ne_none r) nofun
  | completes r _ _ record _ _ _ controller =>
    exact hmoved controller (fun _ => .inr rfl) (by rw [record]; exact Option.some_ne_none r) nofun
  | locks _ _ _ gate controller => exact hkept controller fun hopen => nomatch gate.symm.trans hopen
  | ends closed _ _ gate controller =>
    exact hmoved controller (fun hopen => nomatch gate.symm.trans hopen) (hthere closed) nofun
  | exits _ gate controller => exact hkept controller fun hopen => nomatch gate.symm.trans hopen

theorem Coherent.after (hc : h.Coherent) (ds : List Delivery) : (h.after ds).Coherent := by
  induction ds generalizing h with
  | nil => exact hc
  | cons d ds ih => exact ih (hc.receive d)

/-! ## The record is written once -/

/-- No message but an answered handshake touches the record; an answered handshake finds none and
makes the one that its own parameters call for. -/
theorem record?_cases (hc : h.Coherent) (d : Delivery) :
    ¬(h.exchange d).IsOpening ∧
        (h.receive d).1.controller.record? = h.controller.record? ∨
      (h.exchange d).IsOpening ∧ h.controller.record? = none ∧
        ∃ p r, d.message.params = some p ∧ r.IsOf d.surroundings p ∧
          (h.receive d).1.controller.record? = some r := by
  cases hc.move d with
  | idle _ controller result =>
    exact .inl ⟨Exchange.not_isOpening result, congrArg Controller.record? controller⟩
  | opens p r _ state method params record _ controller result =>
    exact .inr ⟨⟨method, by rw [result]; rfl⟩, hc.record.mpr state, p, r, params, record,
      congrArg Controller.record? controller⟩
  | completes _ _ _ _ _ _ _ controller result =>
    have hsame := congrArg Controller.record? controller
    exact .inl ⟨Exchange.not_isOpening result, hsame⟩
  | locks _ _ _ _ controller result =>
    exact .inl ⟨Exchange.not_isOpening result, congrArg Controller.record? controller⟩
  | ends _ method _ _ controller =>
    -- a shutdown is answered too, but it is no handshake
    have hsame := congrArg Controller.record? controller
    refine .inl ⟨fun hopening => ?_, hsame⟩
    exact absurd (hopening.1.symm.trans method) (by decide)
  | exits _ _ controller result =>
    exact .inl ⟨Exchange.not_isOpening result, congrArg Controller.record? controller⟩

theorem record?_receive {r : Record} (hc : h.Coherent) (hr : h.controller.record? = some r)
    (d : Delivery) : (h.receive d).1.controller.record? = some r := by
  rcases record?_cases hc d with ⟨-, hsame⟩ | ⟨-, hnone, -⟩
  · exact hsame.trans hr
  · cases hnone.symm.trans hr

theorem record?_after {r : Record} (hc : h.Coherent) (hr : h.controller.record? = some r)
    (ds : List Delivery) : (h.after ds).controller.record? = some r := by
  induction ds generalizing h with
  | nil => exact hr
  | cons d ds ih => exact ih (hc.receive d) (record?_receive hc hr d)

/-! ## A gate that has been shut -/

/-- The gate lets nothing through to the controller any more. -/
def IsShut (h : Host) : Prop :=
  h.gate = .shutDown ∨ h.gate = .exited

theorem IsShut.not_open (hs : h.IsShut) : h.gate ≠ .uninitialized ∧ h.gate ≠ .initialized := by
  rcases hs with hgate | hgate <;> rw [hgate] <;> exact ⟨nofun, nofun⟩

theorem IsShut.receive (hc : h.Coherent) (hs : h.IsShut) (d : Delivery) :
    (h.receive d).1.IsShut ∧ (h.receive d).1.controller = h.controller := by
  obtain ⟨hnew, hopen⟩ := hs.not_open
  cases hc.move d with
  | idle gate controller => exact ⟨by rw [IsShut, gate]; exact hs, controller⟩
  | opens _ _ closed => exact absurd closed hnew
  | completes _ closed => exact absurd closed hopen
  | locks closed => exact absurd closed hopen
  | ends closed => exact absurd closed hopen
  | exits _ gate controller => exact ⟨.inr gate, controller⟩

theorem controller_after_of_shut (hc : h.Coherent) (hs : h.IsShut) (ds : List Delivery) :
    (h.after ds).controller = h.controller := by
  induction ds generalizing h with
  | nil => rfl
  | cons d ds ih =>
    obtain ⟨hshut, hsame⟩ := hs.receive hc d
    rw [after_cons, ih (hc.receive d) hshut, hsame]

end Host

end SessionGate
