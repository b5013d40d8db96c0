import SessionGate.Proofs.Host.Record

/-!
# Refused traffic leaves no trace

Until a handshake is answered, all that messages can change in a host are the parameters it keeps.
Those are replaced before they are read, so a host cannot tell what it refused before.

- `Alike`: hosts that differ at most in the parameters they keep.
- `Alike.receive`, `Alike.log`: such hosts give out the same and stay alike.
- `alike_after_of_refused`: messages of which no handshake is answered and none ends the host.
- `log_after_refused`: what follows them is the same as on a new host.
-/

namespace SessionGate

namespace Host

/-- Hosts that differ at most in the parameters they keep. -/
structure Alike (h k : Host) : Prop where
  gate : h.gate = k.gate
  controller : h.controller = k.controller

theorem Alike.refl (h : Host) : h.Alike h := ⟨rfl, rfl⟩

theorem Alike.trans {h k l : Host} (hk : h.Alike k) (kl : k.Alike l) : h.Alike l :=
  ⟨hk.gate.trans kl.gate, hk.controller.trans kl.controller⟩

/-- Outcomes of a message that nobody outside can tell apart. -/
def SameOutcome (p q : Host × Emission) : Prop :=
  p.1.Alike q.1 ∧ p.2 = q.2

variable {h k : Host}

theorem sameOutcome_closed (hk : h.Alike k) (id : Option Json) :
    SameOutcome (h.closed id) (k.closed id) := by
  unfold closed
  rw [hk.gate]
  split
  · exact ⟨hk, rfl⟩
  · exact ⟨hk, rfl⟩

theorem sameOutcome_decline (hk : h.Alike k) (shape : Shape) (m : Message) :
    SameOutcome (h.decline shape m) (k.decline shape m) := by
  unfold decline
  rw [hk.gate]
  split
  · split
    · exact ⟨hk, rfl⟩
    · split
      · exact ⟨hk, rfl⟩
      · exact ⟨hk, rfl⟩
  · exact sameOutcome_closed hk m.id

theorem sameOutcome_ignore (hk : h.Alike k) (m : Message) :
    SameOutcome (h.ignore m) (k.ignore m) := by
  unfold ignore
  rw [hk.gate]
  split
  · exact ⟨hk, rfl⟩
  · exact sameOutcome_closed hk m.id

theorem sameOutcome_unknown (hk : h.Alike k) (m : Message) :
    SameOutcome (h.unknown m) (k.unknown m) := by
  unfold unknown
  split
  · exact ⟨hk, rfl⟩
  · exact ⟨hk, rfl⟩

theorem sameOutcome_completed (hk : h.Alike k) (m : Message) :
    SameOutcome (h.completed m) (k.completed m) := by
  unfold completed
  rw [hk.gate, hk.controller]
  split
  · split
    · exact ⟨hk, rfl⟩
    · exact ⟨hk, rfl⟩
    · split
      · exact ⟨hk, rfl⟩
      · dsimp only
        split
        · exact ⟨⟨rfl, rfl⟩, rfl⟩
        · exact ⟨⟨rfl, rfl⟩, rfl⟩
  · exact sameOutcome_closed hk m.id

theorem sameOutcome_shutdown (hk : h.Alike k) (m : Message) :
    SameOutcome (h.shutdown m) (k.shutdown m) := by
  unfold shutdown
  rw [hk.gate, hk.controller]
  split
  · dsimp only
    split
    · exact ⟨⟨rfl, rfl⟩, rfl⟩
    · exact ⟨⟨rfl, rfl⟩, rfl⟩
    · exact ⟨⟨rfl, rfl⟩, rfl⟩
  · exact sameOutcome_closed hk m.id

/-- A handshake with parameters puts them in the place of what was kept; one without is refused
before anything that is kept is read. -/
theorem sameOutcome_handshake (hk : h.Alike k) (s : Surroundings) (m : Message) :
    SameOutcome (h.handshake ⟨s, true⟩ m) (k.handshake ⟨s, true⟩ m) := by
  unfold handshake
  cases hparams : m.params with
  | some p =>
    -- the two hosts become one before anything else is done
    have hsame : { h with raw := h.raw.store p } = { k with raw := k.raw.store p } := by
      rw [hk.gate, hk.controller]
      rfl
    simp only [↓reduceIte]
    rw [hsame, hk.gate]
    exact ⟨.refl _, rfl⟩
  | none =>
    dsimp only [Option.map_none]
    rw [hk.gate]
    split
    · split
      · exact ⟨hk, rfl⟩
      · exact ⟨hk, rfl⟩
      · contradiction
    · exact ⟨hk, rfl⟩

theorem sameOutcome_dispatch (hk : h.Alike k) (s : Surroundings) (m : Message) :
    SameOutcome (h.dispatch ⟨s, true⟩ m) (k.dispatch ⟨s, true⟩ m) := by
  unfold dispatch
  split
  · exact sameOutcome_handshake hk s m
  · exact sameOutcome_completed hk m
  · exact sameOutcome_shutdown hk m
  · exact ⟨⟨rfl, hk.controller⟩, rfl⟩
  · exact ⟨hk, rfl⟩
  · exact sameOutcome_decline hk _ m
  · exact sameOutcome_ignore hk m
  · exact sameOutcome_unknown hk m

/-- Hosts that are alike give out the same and stay alike. -/
theorem Alike.receive (hk : h.Alike k) (d : Delivery) :
    (h.receive d).1.Alike (k.receive d).1 ∧ h.exchange d = k.exchange d := by
  have hboth : (h.receive d).1.Alike (k.receive d).1 ∧ (h.receive d).2 = (k.receive d).2 := by
    unfold Host.receive step
    rw [hk.gate]
    split
    · exact ⟨hk, rfl⟩
    · obtain ⟨halike, hemission⟩ := sameOutcome_dispatch hk d.surroundings d.message
      exact ⟨halike, congrArg some hemission⟩
  refine ⟨hboth.1, ?_⟩
  rw [exchange, exchange, hboth.2, hboth.1.controller]

theorem Alike.after (hk : h.Alike k) (ds : List Delivery) : (h.after ds).Alike (k.after ds) := by
  induction ds generalizing h k with
  | nil => exact hk
  | cons d ds ih => exact ih (hk.receive d).1

theorem Alike.log (hk : h.Alike k) (ds : List Delivery) : h.log ds = k.log ds := by
  induction ds generalizing h k with
  | nil => rfl
  | cons d ds ih =>
    obtain ⟨halike, hexchange⟩ := hk.receive d
    rw [log_cons, log_cons, hexchange, ih halike]

/-! ## Refused messages -/

theorem alike_of_refused (hc : h.Coherent) (hgate : h.gate = .uninitialized) {d : Delivery}
    (hexit : d.message.method ≠ "exit") (hd : ¬(h.exchange d).IsOpening) :
    (h.receive d).1.Alike h := by
  cases hc.move d with
  | idle gate controller => exact ⟨gate, controller⟩
  | opens _ _ _ _ method _ _ _ _ result => exact absurd ⟨method, by rw [result]; rfl⟩ hd
  | completes _ closed => cases hgate.symm.trans closed
  | locks closed => cases hgate.symm.trans closed
  | ends closed => cases hgate.symm.trans closed
  | exits method => exact absurd method hexit

theorem alike_after_of_refused (hc : h.Coherent) (hgate : h.gate = .uninitialized)
    {ds : List Delivery} (hexit : ∀ d ∈ ds, d.message.method ≠ "exit")
    (hds : ∀ x ∈ h.log ds, ¬x.IsOpening) : (h.after ds).Alike h := by
  induction ds generalizing h with
  | nil => exact .refl h
  | cons d ds ih =>
    rw [log_cons, List.forall_mem_cons] at hds
    rw [List.forall_mem_cons] at hexit
    have hstep := alike_of_refused hc hgate hexit.1 hds.1
    exact (ih (hc.receive d) (hstep.gate.trans hgate) hexit.2 hds.2).trans hstep

/-- **Refused traffic is invisible.** After messages of which none ends the host and no handshake is
answered with a result, whatever follows gives out, message by message, what it gives out on a new
host, leaves the controller as it does there, and comes to the same exit code. -/
theorem log_after_refused (tag : String) (settings : Settings) (ds es : List Delivery)
    (hexit : ∀ d ∈ ds, d.message.method ≠ "exit")
    (hds : ∀ x ∈ (Program.hostOf tag settings).log ds, ¬x.IsOpening) :
    ((Program.hostOf tag settings).after ds).log es = (Program.hostOf tag settings).log es ∧
      ((Program.hostOf tag settings).after (ds ++ es)).controller.exitCode
        = ((Program.hostOf tag settings).after es).controller.exitCode := by
  have halike := alike_after_of_refused (coherent_hostOf tag settings) rfl hexit hds
  refine ⟨halike.log es, ?_⟩
  rw [after_append, (halike.after es).controller]

/-- A notice that looks like a handshake leaves its parameters in the host, and nobody can tell. -/
theorem log_after_stale_handshake :
    (∀ d ∈ [Delivery.handshake none "file:///stale"], d.message.method ≠ "exit") ∧
      (∀ x ∈ (Program.hostOf "7" {}).log [.handshake none "file:///stale"], ¬x.IsOpening) ∧
      ((Program.hostOf "7" {}).after [.handshake none "file:///stale"]).log
          [.handshake (some (.int 1)) "file:///srv/app",
            .bare "shutdown" (some (.int 2)) none]
        = (Program.hostOf "7" {}).log
          [.handshake (some (.int 1)) "file:///srv/app",
            .bare "shutdown" (some (.int 2)) none] := by
  have hexit : ∀ d ∈ [Delivery.handshake none "file:///stale"], d.message.method ≠ "exit" := by
    decide
  have hrefused : ∀ x ∈ (Program.hostOf "7" {}).log [.handshake none "file:///stale"],
      ¬x.IsOpening := by
    decide
  exact ⟨hexit, hrefused, (log_after_refused "7" {} _ _ hexit hrefused).1⟩

end Host

end SessionGate
