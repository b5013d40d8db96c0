import SessionGate.Proofs.Session.History

/-!
# Which way the stages of a session go

Shutdown and exit are accepted in every stage and write the stage whatever it was. An exit cannot
lead back from anywhere. A shutdown leads back from the last stage, and this is the only way back
that there is.

- `rank_call_lt_iff`, `exited_call_iff`: when one call leads back, and when the session has exited
  after it.
- `never_goes_back_iff`: which runs never lead back, exactly.
- `shutdown_reopens_exited`: the smallest run that does.
-/

namespace SessionGate

namespace Controller

variable {c : Controller}

theorem rank_le_exited (s : SessionState) : s.rank ≤ SessionState.exited.rank := by
  cases s <;> decide

/-- Only the last stage lies behind that of a shutdown. -/
theorem shuttingDown_rank_lt_iff (s : SessionState) :
    SessionState.shuttingDown.rank < s.rank ↔ s = .exited := by
  cases s <;> decide

/-- A call leads back exactly if it is a shutdown of a session that has exited. -/
theorem rank_call_lt_iff (c : Controller) (k : Call) :
    (c.call k).controller.state.rank < c.state.rank ↔ c.state = .exited ∧ k.IsShutdown := by
  have hforward {r : Request} {s : SessionState} (hr : k.request? = some r) (hne : r ≠ .shutdown)
      (hafter : (c.call k).controller.state = s) (hle : c.state.rank ≤ s.rank) :
      (c.call k).controller.state.rank < c.state.rank ↔ c.state = .exited ∧ k.IsShutdown := by
    rw [hafter]
    exact iff_of_false (Nat.not_lt.mpr hle) fun h => hne (Option.some.inj (hr.symm.trans h.2))
  cases c.effect k with
  | refuses e cause outcome =>
    rw [outcome]
    exact iff_of_false (Nat.lt_irrefl _) fun h => cause.not_end.1 h.2
  | opens q root asked state _ outcome =>
    exact hforward (s := .initializing) asked nofun (by rw [outcome]) (by rw [state]; decide)
  | starts r asked state _ outcome =>
    exact hforward (s := .initialized) asked nofun (by rw [outcome]) (by rw [state]; decide)
  | acknowledges asked _ outcome =>
    exact hforward asked nofun (by rw [outcome]) (Nat.le_refl _)
  | shutsDown asked outcome =>
    rw [outcome]
    show SessionState.shuttingDown.rank < c.state.rank ↔ _
    rw [shuttingDown_rank_lt_iff]
    exact (and_iff_left asked).symm
  | exits status asked outcome =>
    rw [outcome]
    exact iff_of_false (Nat.not_lt.mpr (rank_le_exited c.state))
      fun h => Call.not_isShutdown_of_isExit asked h.2

/-- After a call the session has exited if the call was an exit, or if it had exited before and the
call was no shutdown. -/
theorem exited_call_iff (c : Controller) (k : Call) :
    (c.call k).controller.state = .exited ↔ k.IsExit ∨ c.state = .exited ∧ ¬k.IsShutdown := by
  have hlive {r : Request} (hr : k.request? = some r) (hne : ∀ status, r ≠ .exit status)
      (hbefore : c.state ≠ .exited) (hafter : (c.call k).controller.state ≠ .exited) :
      (c.call k).controller.state = .exited ↔ k.IsExit ∨ c.state = .exited ∧ ¬k.IsShutdown :=
    iff_of_false hafter (not_or_intro (Call.not_isExit hr hne) fun h => hbefore h.1)
  cases c.effect k with
  | refuses e cause outcome =>
    rw [outcome, or_iff_right cause.not_end.2]
    exact (and_iff_left cause.not_end.1).symm
  | opens q root asked state _ outcome =>
    exact hlive asked nofun (by rw [state]; nofun) (by rw [outcome]; nofun)
  | starts r asked state _ outcome =>
    exact hlive asked nofun (by rw [state]; nofun) (by rw [outcome]; nofun)
  | acknowledges asked _ outcome =>
    have hshutdown : ¬k.IsShutdown := fun h => nomatch asked.symm.trans h
    rw [outcome, or_iff_right (Call.not_isExit asked nofun)]
    exact (and_iff_left hshutdown).symm
  | shutsDown asked outcome =>
    rw [outcome]
    exact iff_of_false nofun (not_or_intro (Call.not_isExit asked nofun) fun h => h.2 asked)
  | exits status asked outcome =>
    rw [outcome]
    exact iff_of_true rfl (.inl asked)

/-- A history in which no shutdown finds an exited session, said of the calls alone: no shutdown
follows an exit, and none is made at all if the session has exited to begin with. -/
theorem no_shutdown_of_exited_iff (c : Controller) (ks : List Call) :
    (∀ t ∈ c.history ks, ¬(t.before.state = .exited ∧ t.call.IsShutdown)) ↔
      (c.state = .exited → ∀ k ∈ ks, ¬k.IsShutdown) ∧
        ks.Pairwise fun j k => j.IsExit → ¬k.IsShutdown := by
  induction ks generalizing c with
  | nil => simp
  | cons k ks ih =>
    -- the rest starts exited if `k` was an exit, which is where the pairs of `k` come from
    rw [history_cons, List.forall_mem_cons, ih, exited_call_iff, List.forall_mem_cons,
      List.pairwise_cons]
    constructor
    · rintro ⟨hk, hrest, hpairs⟩
      refine ⟨fun hexited => ?_, fun l hl hexit => hrest (.inl hexit) l hl, hpairs⟩
      have hlive : ¬k.IsShutdown := fun hshutdown => hk ⟨hexited, hshutdown⟩
      exact ⟨hlive, hrest (.inr ⟨hexited, hlive⟩)⟩
    · rintro ⟨hstays, hfollow, hpairs⟩
      refine ⟨fun h => (hstays h.1).1 h.2, ?_, hpairs⟩
      rintro (hexit | ⟨hexited, -⟩)
      · exact fun l hl => hfollow l hl hexit
      · exact (hstays hexited).2

/-- **When a session never goes back.** Along a run no call leads to an earlier stage, and a session
that has exited stays so, exactly if no shutdown follows an exit; the exit code that a process asks
for counts as an exit. The only step back that there is leads from the last stage to the one before
it, and is a shutdown. -/
theorem never_goes_back_iff (document : Document) (ks : List Call) :
    ((∀ t ∈ (new document).history ks,
          t.before.state.rank ≤ t.outcome.controller.state.rank) ↔
        ks.Pairwise fun j k => j.IsExit → ¬k.IsShutdown) ∧
      ((∀ t ∈ (new document).history ks,
          t.before.state = .exited → t.outcome.controller.state = .exited) ↔
        ks.Pairwise fun j k => j.IsExit → ¬k.IsShutdown) ∧
      ∀ t ∈ (new document).history ks,
        t.outcome.controller.state.rank < t.before.state.rank →
          t.before.state = .exited ∧ t.call.IsShutdown ∧
            t.outcome.controller.state = .shuttingDown := by
  have hcalls : (∀ t ∈ (new document).history ks,
      ¬(t.before.state = .exited ∧ t.call.IsShutdown)) ↔
        ks.Pairwise fun j k => j.IsExit → ¬k.IsShutdown := by
    rw [no_shutdown_of_exited_iff]
    exact and_iff_right nofun
  refine ⟨?_, ?_, fun t _ hback => ?_⟩
  · rw [← hcalls]
    refine forall₂_congr fun t _ => ?_
    rw [← Nat.not_lt]
    exact not_congr (rank_call_lt_iff t.before t.call)
  · rw [← hcalls]
    refine forall₂_congr fun t _ => ?_
    rw [Turn.outcome, exited_call_iff, not_and]
    refine ⟨fun h hexited => ?_, fun h hexited => .inr ⟨hexited, h hexited⟩⟩
    rcases h hexited with hexit | ⟨-, hno⟩
    · exact Call.not_isShutdown_of_isExit hexit
    · exact hno
  · obtain ⟨hexited, hshutdown⟩ := (rank_call_lt_iff t.before t.call).mp hback
    refine ⟨hexited, hshutdown, ?_⟩
    rw [Turn.outcome, call_of_isShutdown hshutdown]

/-- A shutdown after an exit brings the session back from its last stage. -/
theorem shutdown_reopens_exited :
    ¬∀ t ∈ (new (.build [] .none)).history [.bare (.exit (.other "crashed")), .bare .shutdown],
      t.before.state.rank ≤ t.outcome.controller.state.rank := by
  intro hforward
  rw [history_cons, history_cons, List.forall_mem_cons, List.forall_mem_cons] at hforward
  exact absurd hforward.2.1 (by decide)

end Controller

end SessionGate
