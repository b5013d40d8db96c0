import SessionGate.Proofs.Session.History

/-!
# The record of a session is written once

A session can be shut down and ended before it is opened, and can be called again after that. In
whatever order this happens, the record is written by the first handshake that is answered with a
result, and no call writes it again.

- `record?_call_cases`: what one call does to the record.
- `record?_kept`: what is written stays, and no later call looks at the surroundings.
- `record?_after_iff`: there is a record exactly if a handshake was answered.
- `exists_sole_opening`: a record comes from one turn of the history, and from no other.
- `record_of_sole_opening`: every run.
-/

namespace SessionGate

namespace Controller

variable {c : Controller}

theorem not_isOpening_of_refused {k : Call} {e : SessionError} (h : c.call k = c.refuse e) :
    ¬Turn.IsOpening ⟨c, k⟩ := by
  rintro ⟨-, reply, hreply⟩
  rw [Turn.outcome, h] at hreply
  cases hreply

theorem not_isOpening_of_ne {k : Call} (hk : ∀ q, k.request? ≠ some (.handshake q)) :
    ¬Turn.IsOpening ⟨c, k⟩ :=
  fun hopening => hopening.1.elim hk

/-- No call but an answered handshake touches the record; an answered handshake finds none and
writes the one it calls for. -/
theorem record?_call_cases (hc : c.Sound) (k : Call) :
    ¬Turn.IsOpening ⟨c, k⟩ ∧ (c.call k).controller.record? = c.record? ∨
      Turn.IsOpening ⟨c, k⟩ ∧ c.record? = none ∧
        ∃ q root, k.request? = some (.handshake q) ∧
          resolveRoot k.surroundings q.root = .ok root ∧
          (c.call k).controller.record? = some (.ofHandshake root q.capabilities q.options) := by
  have hother {r : Request} (hk : k.request? = some r) (hr : ∀ q, r ≠ .handshake q)
      (hsame : (c.call k).controller.record? = c.record?) :
      ¬Turn.IsOpening ⟨c, k⟩ ∧ (c.call k).controller.record? = c.record? :=
    ⟨not_isOpening_of_ne fun q h => hr q (Option.some.inj (hk.symm.trans h)), hsame⟩
  cases c.effect k with
  | refuses e _ outcome => exact .inl ⟨not_isOpening_of_refused outcome, by rw [outcome]; rfl⟩
  | opens q root asked state resolved outcome =>
    refine .inr ⟨⟨⟨q, asked⟩, _, congrArg Outcome.reply outcome⟩, hc.unopened state, q, root, asked,
      resolved, ?_⟩
    rw [outcome]
  | starts r asked _ _ outcome => exact .inl (hother asked nofun (by rw [outcome]))
  | acknowledges asked _ outcome => exact .inl (hother asked nofun (by rw [outcome]))
  | shutsDown asked outcome => exact .inl (hother asked nofun (by rw [outcome]))
  | exits status asked outcome =>
    refine .inl ⟨not_isOpening_of_ne fun q h => Call.not_isExit h nofun asked, ?_⟩
    rw [outcome]

/-! ## What is written stays -/

theorem handshake_of_opened (hopened : c.state ≠ .uninitialized) (s : Surroundings)
    (q : HandshakeRequest) : c.handshake s q
      = c.refuse (.invalidRequest ("initialize received while " ++ c.state.name)) := by
  rcases handshake_spec s c q with ⟨-, hrefused⟩ | ⟨hnew, -⟩ | ⟨hnew, -⟩
  · exact hrefused
  · exact absurd hnew hopened
  · exact absurd hnew hopened

/-- A session that has been opened looks at its surroundings no more. -/
theorem call_of_opened (hopened : c.state ≠ .uninitialized) (demand : Demand)
    (s s' : Surroundings) : c.call ⟨demand, s⟩ = c.call ⟨demand, s'⟩ := by
  have hhandle (r : Request) : c.handle s r = c.handle s' r := by
    cases r with
    | handshake q =>
      show c.handshake s q = c.handshake s' q
      rw [handshake_of_opened hopened, handshake_of_opened hopened]
    | _ => rfl
  cases demand with
  | request r => exact hhandle r
  | message method params =>
    rw [call_message, call_message]
    split
    · exact hhandle _
    · rfl
  | exitCode => rfl

theorem record?_call {r : Record} (hc : c.Sound) (hr : c.record? = some r) (k : Call) :
    ¬Turn.IsOpening ⟨c, k⟩ ∧ (c.call k).controller.record? = some r := by
  rcases record?_call_cases hc k with ⟨hno, hsame⟩ | ⟨-, hnone, -⟩
  · exact ⟨hno, hsame.trans hr⟩
  · cases hnone.symm.trans hr

/-- From a record on, no handshake is answered, the record stays, and the root that a call might
name is not looked for. -/
theorem record?_kept {r : Record} (hc : c.Sound) (hr : c.record? = some r) (ks : List Call) :
    (∀ t ∈ c.history ks, ¬t.IsOpening ∧ t.outcome.controller.record? = some r ∧
        ∀ s, t.before.call ⟨t.call.demand, s⟩ = t.outcome) ∧
      (c.after ks).record? = some r := by
  have hkept (c : Controller) (k : Call) (h : c.Sound ∧ c.record? = some r) :
      (c.call k).controller.Sound ∧ (c.call k).controller.record? = some r :=
    ⟨h.1.call k, (record?_call h.1 h.2 k).2⟩
  obtain ⟨hturns, -, hend⟩ := holds_along hkept ⟨hc, hr⟩ ks
  refine ⟨fun t ht => ?_, hend⟩
  obtain ⟨hsound, hrecord⟩ := hturns t ht
  obtain ⟨hno, hsame⟩ := record?_call hsound hrecord t.call
  refine ⟨hno, hsame, fun s => call_of_opened (fun hnew => ?_) _ _ _⟩
  cases (hsound.unopened hnew).symm.trans hrecord

/-! ## Where it comes from -/

theorem record?_after_iff (hc : c.Sound) (ks : List Call) :
    (c.after ks).record? ≠ none ↔ c.record? ≠ none ∨ ∃ t ∈ c.history ks, t.IsOpening := by
  induction ks generalizing c with
  | nil => simp
  | cons k ks ih =>
    rw [after_cons, ih (hc.call k), history_cons]
    simp only [List.mem_cons, exists_eq_or_imp]
    rcases record?_call_cases hc k with ⟨hno, hsame⟩ | ⟨hopening, -, q, root, -, -, hr⟩
    · rw [hsame, or_iff_right hno]
    · rw [hr]
      exact iff_of_true (.inl (Option.some_ne_none _)) (.inr (.inl hopening))

/-- Around a turn that opens a session there is no other that does: none before, since it found no
record, and none after, since it left one. -/
theorem sole_of_isOpening (hc : c.Sound) {ks : List Call} {us vs : List Turn} {o : Turn}
    (hcut : c.history ks = us ++ o :: vs) (ho : o.IsOpening) :
    (∀ u ∈ us ++ vs, ¬u.IsOpening) ∧
      ∃ q root, o.call.request? = some (.handshake q) ∧
        resolveRoot o.call.surroundings q.root = .ok root ∧
        o.outcome.controller.record? = some (.ofHandshake root q.capabilities q.options) ∧
        ∀ v ∈ vs, v.outcome.controller.record?
              = some (.ofHandshake root q.capabilities q.options) ∧
            ∀ s, v.before.call ⟨v.call.demand, s⟩ = v.outcome := by
  obtain ⟨js, ls, rfl, rfl, hbefore, rfl⟩ := history_eq_append_cons hcut
  have hfound : o.before.Sound := hbefore ▸ hc.after js
  rcases record?_call_cases hfound o.call with ⟨hno, -⟩ | ⟨-, hnone, q, root, hasked, hroot, hr⟩
  · exact absurd ho hno
  · obtain ⟨hlater, -⟩ := record?_kept (hfound.call o.call) hr ls
    refine ⟨List.forall_mem_append.mpr ⟨fun u hu hopening => ?_, fun v hv => (hlater v hv).1⟩,
      q, root, hasked, hroot, hr, fun v hv => (hlater v hv).2⟩
    have hheld := (record?_after_iff hc js).mpr (.inr ⟨u, hu, hopening⟩)
    exact hheld (hbefore ▸ hnone)

/-- A record that was not there to begin with comes from one turn, and from no other. -/
theorem exists_sole_opening {r : Record} (hc : c.Sound) (hnone : c.record? = none) {ks : List Call}
    (hr : (c.after ks).record? = some r) :
    ∃ us o vs, c.history ks = us ++ o :: vs ∧ o.IsOpening ∧
      o.outcome.controller.record? = some r ∧ ∀ u ∈ us ++ vs, ¬u.IsOpening := by
  have hsome : (c.after ks).record? ≠ none := by
    rw [hr]
    exact Option.some_ne_none r
  obtain ⟨o, hmem, ho⟩ := ((record?_after_iff hc ks).mp hsome).resolve_left (not_not_intro hnone)
  obtain ⟨us, vs, hcut⟩ := List.append_of_mem hmem
  refine ⟨us, o, vs, hcut, ho, ?_, (sole_of_isOpening hc hcut ho).1⟩
  -- what this turn wrote is what is there in the end
  obtain ⟨js, ls, rfl, -, hbefore, -⟩ := history_eq_append_cons hcut
  have hfound : o.before.Sound := hbefore ▸ hc.after js
  rcases record?_call_cases hfound o.call with ⟨hno, -⟩ | ⟨-, -, q, root, -, -, hwritten⟩
  · exact absurd ho hno
  · have hend := (record?_kept (hfound.call o.call) hwritten ls).2
    rw [after_append, after_cons, ← hbefore, hend] at hr
    exact hwritten.trans hr

/-! ## Handshakes that find no root -/

/-- No reading of parameters looks for a root. -/
theorem ofMethod_ne_rootResolution (method : String) (params : Json) (cause : String) :
    Request.ofMethod method params ≠ .error (.rootResolution cause) := by
  intro h
  unfold Request.ofMethod at h
  split at h
  · unfold Request.handshakeOf at h
    split at h
    · split at h
      · cases h
      · dsimp only at h
        split at h <;> cases h
    · cases h
  · cases h
  · cases h
  · unfold Request.exitOf at h
    split at h <;> cases h
  · cases h

/-- A handshake that finds no root leaves a session that can still be opened, as it was. -/
theorem unopened_of_rootResolution {k : Call} {cause : String}
    (h : (c.call k).reply = .error (.rootResolution cause)) :
    c.state = .uninitialized ∧ (c.call k).controller = c := by
  obtain ⟨hrefusal, houtcome⟩ := refusal_of_error h
  rw [houtcome]
  cases hrefusal with
  | unread method params _ _ read => exact absurd read (ofMethod_ne_rootResolution _ _ _)
  | rootless q _ _ state => exact ⟨state, rfl⟩

/-- A session that has not been opened is opened by any handshake whose root can be found. -/
theorem isOpening_of_resolved {k : Call} {q : HandshakeRequest} {root : String}
    (hnew : c.state = .uninitialized) (hk : k.request? = some (.handshake q))
    (hroot : resolveRoot k.surroundings q.root = .ok root) : Turn.IsOpening ⟨c, k⟩ := by
  refine ⟨⟨q, hk⟩, .withResult (handshakeResult c.document), ?_⟩
  rw [Turn.outcome, call_eq_handle hk]
  show (c.handshake k.surroundings q).reply = _
  rcases handshake_spec k.surroundings c q with ⟨hopened, -⟩ | ⟨-, e, he, -⟩ | ⟨-, _, -, ho⟩
  · exact absurd hnew hopened
  · cases hroot.symm.trans he
  · rw [ho]

/-! ## Runs of a controller -/

/-- **The record of a session is written once.** A run has a record exactly if one of its handshakes
was answered with a result. Any that was is the only one, and the record is from then on the one
that it called for: of its root as it was found then, its capabilities and its options; whatever is
called later leaves it alone and looks for no root again. A handshake for which no root was found
changes nothing, and as long as the session is not opened otherwise, any handshake whose root is
found opens it. -/
theorem record_of_sole_opening (document : Document) (ks : List Call) :
    (((new document).after ks).record? ≠ none ↔ ∃ t ∈ (new document).history ks, t.IsOpening) ∧
      (∀ us o vs, (new document).history ks = us ++ o :: vs → o.IsOpening →
        (∀ u ∈ us ++ vs, ¬u.IsOpening) ∧
          ∃ q root, o.call.request? = some (.handshake q) ∧
            resolveRoot o.call.surroundings q.root = .ok root ∧
            o.outcome.controller.record? = some (.ofHandshake root q.capabilities q.options) ∧
            ∀ v ∈ vs, v.outcome.controller.record?
                  = some (.ofHandshake root q.capabilities q.options) ∧
                ∀ s, v.before.call ⟨v.call.demand, s⟩ = v.outcome) ∧
      ∀ t ∈ (new document).history ks, ∀ cause,
        t.outcome.reply = .error (.rootResolution cause) →
          t.outcome.controller = t.before ∧ t.before.state = .uninitialized ∧
            ∀ js k q root, (t.before.after js).state = .uninitialized →
              k.request? = some (.handshake q) → resolveRoot k.surroundings q.root = .ok root →
                Turn.IsOpening ⟨t.before.after js, k⟩ := by
  have hc := sound_new document
  refine ⟨?_, fun us o vs hcut ho => sole_of_isOpening hc hcut ho, fun t _ cause ht => ?_⟩
  · have hnew : ¬(new document).record? ≠ none := not_not_intro rfl
    rw [record?_after_iff hc, or_iff_right hnew]
  · obtain ⟨hnew, hsame⟩ := unopened_of_rootResolution ht
    exact ⟨hsame, hnew, fun js k q root hstill hk hroot => isOpening_of_resolved hstill hk hroot⟩

/-- A handshake without a root, where there is no working directory, is refused; one with a root
opens the session after it, and a third is not answered. -/
theorem record_after_rootless_handshake :
    (∃ t ∈ (new (.build [] .none)).history [.handshake none],
        t.outcome.reply = .error (.rootResolution "No such file or directory") ∧
          Turn.IsOpening ⟨t.before.after [.handshake none], .handshake (some "file:///srv/app")⟩) ∧
      ¬Turn.IsOpening ⟨(new (.build [] .none)).after
        [.handshake none, .handshake (some "file:///srv/app")], .handshake (some "file:///b")⟩ := by
  obtain ⟨-, hsole, hfailed⟩ := record_of_sole_opening (.build [] .none)
    [.handshake none, .handshake (some "file:///srv/app"), .handshake (some "file:///b")]
  have hopening : Turn.IsOpening ⟨(new (.build [] .none)).after [.handshake none],
      .handshake (some "file:///srv/app")⟩ :=
    (hfailed _ List.mem_cons_self "No such file or directory" rfl).2.2 [.handshake none]
      (.handshake (some "file:///srv/app")) ⟨some "file:///srv/app", .empty, none⟩
      "file:///srv/app" rfl rfl rfl
  refine ⟨⟨_, List.mem_cons_self, rfl, hopening⟩, ?_⟩
  exact (hsole [_] _ [_] rfl hopening).1 _ (by simp)

end Controller

end SessionGate
