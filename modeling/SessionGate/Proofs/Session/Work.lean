import SessionGate.Proofs.Session.Record

/-!
# The work of a session is started once

A session can be asked to start its work at any time and any number of times, between calls of every
other kind. The work is started by the first notice that finds the session being opened, in the
order registrations, node, index, and for the record that was made when it was opened.

- `triggers_call_eq_nil_iff`: the only calls that start anything.
- `IsPastOpening`: a session that has been opened completely, or has ended; it stays so, and starts
  nothing.
- `OneStart`: what a history is like around the turn that starts the work.
- `work_started_once`: every run.
-/

namespace SessionGate

namespace Controller

variable {c : Controller}

/-! ## What one call starts -/

/-- The work of a session, in order: one request for registrations if there are any, the node, the
index. -/
theorem startUp_eq (r : Record) :
    startUp r =
      (if Registration.all r = [] then [] else [.register (Registration.all r)]) ++
        [.startNode (NodeName.forRoot "erlang_ls" r.root), .index r] := by
  unfold startUp
  cases hall : Registration.all r with
  | nil => rfl
  | cons g gs => rfl

theorem startUp_ne_nil (r : Record) : startUp r ≠ [] := by
  unfold startUp
  exact List.append_ne_nil_of_right_ne_nil _ (List.cons_ne_nil _ _)

/-- A refused call is not one that should have started the work. -/
theorem Refusal.not_isStart (hc : c.Sound) {k : Call} {e : SessionError} (hk : c.Refusal k e) :
    ¬Turn.IsStart ⟨c, k⟩ := by
  rintro ⟨hasked, hstate⟩
  cases hk with
  | unread method params e demand read =>
    cases (Call.request?_of_unread demand read).symm.trans hasked
  | late q asked => cases asked.symm.trans hasked
  | rootless q cause asked => cases asked.symm.trans hasked
  | early _ state => cases state.symm.trans hstate
  | lost _ _ record => exact hc.opening hstate record

/-- A call starts something exactly if it is the notice that the handshake is complete, taken by a
session that is being opened. -/
theorem triggers_call_eq_nil_iff (hc : c.Sound) (k : Call) :
    (c.call k).triggers = [] ↔ ¬Turn.IsStart ⟨c, k⟩ := by
  have hquiet (htriggers : (c.call k).triggers = []) (hno : ¬Turn.IsStart ⟨c, k⟩) :
      (c.call k).triggers = [] ↔ ¬Turn.IsStart ⟨c, k⟩ :=
    iff_of_true htriggers hno
  have hother {r : Request} (hk : k.request? = some r) (hne : r ≠ .initialized) :
      ¬Turn.IsStart ⟨c, k⟩ :=
    fun h => hne (Option.some.inj (hk.symm.trans h.1))
  cases c.effect k with
  | refuses e cause outcome => exact hquiet (by rw [outcome]; rfl) (cause.not_isStart hc)
  | opens q root asked _ _ outcome => exact hquiet (by rw [outcome]) (hother asked nofun)
  | starts r asked state _ outcome =>
    rw [outcome]
    exact iff_of_false (startUp_ne_nil r) (not_not_intro ⟨asked, state⟩)
  | acknowledges _ state outcome => exact hquiet (by rw [outcome]) fun h => state.2 h.2
  | shutsDown asked outcome => exact hquiet (by rw [outcome]) (hother asked nofun)
  | exits status asked outcome =>
    refine hquiet (by rw [outcome]) fun h => ?_
    exact Call.not_isExit h.1 nofun asked

theorem call_of_isStart {k : Call} {r : Record} (ht : Turn.IsStart ⟨c, k⟩)
    (hr : c.record? = some r) :
    c.call k = ⟨.ok .acknowledge, { c with state := .initialized }, startUp r⟩ := by
  obtain ⟨hasked, hstate⟩ := ht
  rw [call_eq_handle hasked]
  show c.initialized = _
  rcases c.initialized_spec with ⟨hnew, -⟩ | ⟨-, hnone, -⟩ | ⟨-, _, hheld, ho⟩ | ⟨hpast, -⟩
  · cases hnew.symm.trans hstate
  · cases hnone.symm.trans hr
  · cases hheld.symm.trans hr
    exact ho
  · exact absurd hstate hpast.2

/-! ## After the opening -/

/-- The session has been opened completely, or has ended. -/
def IsPastOpening (c : Controller) : Prop :=
  c.state ≠ .uninitialized ∧ c.state ≠ .initializing

theorem IsPastOpening.call (hpast : c.IsPastOpening) (k : Call) :
    (c.call k).controller.IsPastOpening := by
  cases c.effect k with
  | refuses e _ outcome =>
    rw [outcome]
    exact hpast
  | opens _ _ _ state => exact absurd state hpast.1
  | starts _ _ state => exact absurd state hpast.2
  | acknowledges _ _ outcome =>
    rw [outcome]
    exact hpast
  | shutsDown _ outcome =>
    rw [outcome]
    exact ⟨nofun, nofun⟩
  | exits _ _ outcome =>
    rw [outcome]
    exact ⟨nofun, nofun⟩

/-- The notice that the handshake is complete means nothing any more. -/
theorem call_of_isPastOpening (hpast : c.IsPastOpening) {k : Call}
    (hk : k.request? = some .initialized) : c.call k = ⟨.ok .acknowledge, c, []⟩ := by
  rw [call_eq_handle hk]
  show c.initialized = _
  rcases c.initialized_spec with ⟨hstate, -⟩ | ⟨hstate, -⟩ | ⟨hstate, -⟩ | ⟨-, ho⟩
  · exact absurd hstate hpast.1
  · exact absurd hstate hpast.2
  · exact absurd hstate hpast.2
  · exact ho

theorem quiet_of_isPastOpening (hc : c.Sound) (hpast : c.IsPastOpening) (ks : List Call) :
    ∀ t ∈ c.history ks, ¬t.IsStart ∧ t.outcome.triggers = [] ∧
      (t.call.request? = some .initialized → t.outcome = ⟨.ok .acknowledge, t.before, []⟩) := by
  have hkept (c : Controller) (k : Call) (h : c.Sound ∧ c.IsPastOpening) :
      (c.call k).controller.Sound ∧ (c.call k).controller.IsPastOpening :=
    ⟨h.1.call k, h.2.call k⟩
  intro t ht
  obtain ⟨hsound, hlate⟩ := (holds_along hkept ⟨hc, hpast⟩ ks).1 t ht
  have hno : ¬t.IsStart := fun h => hlate.2 h.2
  exact ⟨hno, (triggers_call_eq_nil_iff hsound t.call).mpr hno, call_of_isPastOpening hlate⟩

/-! ## Runs of a controller -/

/-- The history of a run around the turn that starts the work of its session: the turns before it,
the turn itself, those after it, and the record that the work is for. -/
structure OneStart (us : List Turn) (t : Turn) (vs : List Turn) (r : Record) : Prop where
  /-- It is the first of its kind, and before it nothing is started. -/
  before : ∀ u ∈ us, ¬u.IsStart ∧ u.outcome.triggers = []
  /-- The record was made by the one handshake of the run that was answered. -/
  opening : ∃ ps o qs, us = ps ++ o :: qs ∧ o.IsOpening ∧
    o.outcome.controller.record? = some r ∧ ∀ u ∈ ps ++ qs ++ t :: vs, ¬u.IsOpening
  start : t.IsStart
  reply : t.outcome.reply = .ok .acknowledge
  /-- Registrations are asked for in one request, if there are any; then come node and index. -/
  work : t.outcome.triggers =
    (if Registration.all r = [] then [] else [.register (Registration.all r)]) ++
      [.startNode (NodeName.forRoot "erlang_ls" r.root), .index r]
  /-- After it nothing is started, and any further notice is acknowledged and changes nothing. -/
  after : ∀ v ∈ vs, ¬v.IsStart ∧ v.outcome.triggers = [] ∧
    (v.call.request? = some .initialized → v.outcome = ⟨.ok .acknowledge, v.before, []⟩)

/-- A history is cut at its first start, if it has one. -/
theorem cut_at_first_start (ts : List Turn) :
    (∀ t ∈ ts, ¬t.IsStart) ∨
      ∃ us t vs, ts = us ++ t :: vs ∧ t.IsStart ∧ ∀ u ∈ us, ¬u.IsStart := by
  cases hfind : ts.find? fun t => t.IsStart with
  | none => exact .inl (by simpa using hfind)
  | some t =>
    obtain ⟨ht, us, vs, hcut, hfirst⟩ := List.find?_eq_some_iff_append.mp hfind
    exact .inr ⟨us, t, vs, hcut, by simpa using ht, by simpa using hfirst⟩

theorem oneStart_of_cut (hc : c.Sound) (hnone : c.record? = none) {ks : List Call}
    {us vs : List Turn} {t : Turn} (hcut : c.history ks = us ++ t :: vs) (ht : t.IsStart)
    (hfirst : ∀ u ∈ us, ¬u.IsStart) : ∃ r, OneStart us t vs r := by
  obtain ⟨js, ls, rfl, rfl, hbefore, rfl⟩ := history_eq_append_cons hcut
  have hfound : t.before.Sound := hbefore ▸ hc.after js
  obtain ⟨r, hr⟩ := Option.ne_none_iff_exists'.mp (hfound.opening ht.2)
  obtain ⟨ps, o, qs, hps, ho, hmade, hsole⟩ := exists_sole_opening hc hnone (hbefore ▸ hr)
  have hwork : t.outcome = _ := call_of_isStart ht hr
  -- the start found the record, so that no handshake is answered from it on
  have hlater : ∀ v ∈ t :: t.outcome.controller.history ls, ¬v.IsOpening :=
    fun v hv => ((record?_kept hfound hr (t.call :: ls)).1 v hv).1
  have hpast : t.outcome.controller.IsPastOpening := by
    rw [hwork]
    exact ⟨nofun, nofun⟩
  refine ⟨r, ?_, ⟨ps, o, qs, hps, ho, hmade, ?_⟩, ht, by rw [hwork], ?_, ?_⟩
  · intro u hu
    exact ⟨hfirst u hu, (triggers_call_eq_nil_iff (hc.before hu) u.call).mpr (hfirst u hu)⟩
  · exact List.forall_mem_append.mpr ⟨hsole, hlater⟩
  · rw [hwork]
    exact startUp_eq r
  · exact quiet_of_isPastOpening (hfound.call t.call) hpast ls

/-- **The work of a session is started once.** In a run either nothing is ever started, and no
notice that the handshake is complete finds the session being opened; or the first that does starts
the work of the session, in order, for the record of the one handshake that was answered, and
nothing is started before or after it. -/
theorem work_started_once (document : Document) (ks : List Call) :
    (∀ t ∈ (new document).history ks, ¬t.IsStart ∧ t.outcome.triggers = []) ∨
      ∃ us t vs r, (new document).history ks = us ++ t :: vs ∧ OneStart us t vs r := by
  have hc := sound_new document
  rcases cut_at_first_start ((new document).history ks) with hno | ⟨us, t, vs, hcut, ht, hfirst⟩
  · refine .inl fun t hmem => ⟨hno t hmem, ?_⟩
    exact (triggers_call_eq_nil_iff (hc.before hmem) t.call).mpr (hno t hmem)
  · obtain ⟨r, hr⟩ := oneStart_of_cut hc rfl hcut ht hfirst
    exact .inr ⟨us, t, vs, r, hcut, hr⟩

example :
    ((new (.build [] .none)).history
        [.bare .initialized, .handshake (some "file:///srv/app"), .bare .initialized,
          .bare .initialized, .bare .shutdown, .bare .initialized]).map
        (fun t => (t.outcome.controller.state, t.outcome.triggers.length))
      = [(.uninitialized, 0), (.initializing, 0), (.initialized, 2), (.initialized, 0),
          (.shuttingDown, 0), (.shuttingDown, 0)] := by
  decide

end Controller

end SessionGate
