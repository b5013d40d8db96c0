import SessionGate.Proofs.Host.Coherence

/-!
# The order of a session's life

A controller accepts a shutdown in every stage. Behind a gate its stages nevertheless follow one
another in order, each for its own cause, and the work of the session starts once.

- `Exchange.Course`: what a message may mean for a controller: nothing, or one stage on.
- `exchange_course`: every message that a host takes is of this kind.
- `Started`: the stages in which the work of the session is not started any more;
  `StartsAt`, `cut_at_completion`: a run is cut at the message that starts it.
- `stages_in_order`: every message of a run, and all that a run starts taken together.
-/

namespace SessionGate

/-- What a message means for the controller that it finds. -/
inductive Exchange.Course (c : Controller) (x : Exchange) : Prop where
  /-- The controller is not changed, and nothing is started. -/
  | stays (controller : x.controller = c) (no_opening : ¬x.IsOpening)
      (no_shutdown : ¬x.IsShutdown) (quiet : x.IsQuiet)
  /-- A handshake answered with a result opens the session. -/
  | opens (r : Record) (before : c.state = .uninitialized)
      (after : x.controller = { c with state := .initializing, record? := some r })
      (cause : x.IsOpening) (quiet : x.IsQuiet)
  /-- The notice that the handshake is complete starts node and index, once each, and asks the
  client for registrations if it declares that it lets the server register. -/
  | completes (r : Record) (before : c.state = .initializing)
      (after : x.controller = { c with state := .initialized }) (record : c.record? = some r)
      (cause : x.delivery.message.method = "initialized" ∧ x.delivery.message.id = none)
      (triggers : x.triggers = [.startNode (NodeName.forRoot applicationName r.root), .index r])
      (registrations : x.registrations = r.requests)
  /-- A shutdown answered with null ends the session, complete or not. -/
  | ends (before : c.state = .initializing ∨ c.state = .initialized)
      (after : x.controller = { c with state := .shuttingDown }) (cause : x.IsShutdown)
      (quiet : x.IsQuiet)

namespace Host

variable {h : Host}

theorem exchange_course (hc : h.Coherent) (d : Delivery) :
    (h.exchange d).Course h.controller := by
  cases hc.move d with
  | idle _ controller result quiet =>
    exact .stays controller (Exchange.not_isOpening result) (Exchange.not_isShutdown result) quiet
  | opens _ r _ state method _ _ _ controller result quiet =>
    exact .opens r state controller ⟨method, by rw [result]; rfl⟩ quiet
  | completes r _ state record method notice _ controller _ triggers registrations =>
    exact .completes r state controller record ⟨method, notice⟩ triggers registrations
  | locks _ _ _ _ controller result quiet =>
    exact .stays controller (Exchange.not_isOpening result) (Exchange.not_isShutdown result) quiet
  | ends closed method _ _ controller result quiet =>
    exact .ends (hc.opened closed) controller ⟨method, result⟩ quiet
  | exits _ _ controller result quiet =>
    exact .stays controller (Exchange.not_isOpening result) (Exchange.not_isShutdown result) quiet

/-! ## The work starts once -/

/-- The stages from the end of the handshake on. -/
def Started (c : Controller) : Prop :=
  c.state ≠ .uninitialized ∧ c.state ≠ .initializing

theorem started_exchange (hc : h.Coherent) (hs : Started h.controller) (d : Delivery) :
    Started (h.receive d).1.controller ∧ (h.exchange d).IsQuiet := by
  have hkept {c : Controller} (hcontroller : (h.exchange d).controller = c) (hstarted : Started c) :
      Started (h.receive d).1.controller := by
    show Started (h.exchange d).controller
    rw [hcontroller]
    exact hstarted
  cases exchange_course hc d with
  | stays controller _ _ quiet => exact ⟨hkept controller hs, quiet⟩
  | opens _ before => exact absurd before hs.1
  | completes _ before => exact absurd before hs.2
  | ends _ after _ quiet => exact ⟨hkept after ⟨nofun, nofun⟩, quiet⟩

theorem quiet_of_started (hc : h.Coherent) (hs : Started h.controller) (ds : List Delivery) :
    ∀ x ∈ h.log ds, x.IsQuiet := by
  induction ds generalizing h with
  | nil => exact List.forall_mem_nil _
  | cons d ds ih =>
    obtain ⟨hstarted, hquiet⟩ := started_exchange hc hs d
    rw [log_cons, List.forall_mem_cons]
    exact ⟨hquiet, ih (hc.receive d) hstarted⟩

/-- The notice that completes the handshake of a session, and starts its work. -/
structure Completes (x : Exchange) (r : Record) : Prop where
  notice : x.delivery.message.method = "initialized" ∧ x.delivery.message.id = none
  triggers : x.triggers = [.startNode (NodeName.forRoot applicationName r.root), .index r]
  registrations : x.registrations = r.requests

/-- Deliveries that are cut at the one that starts the work of a session: nothing is asked for
before it, and nothing after. -/
structure StartsAt (h : Host) (earlier : List Delivery) (d : Delivery) (later : List Delivery)
    (r : Record) : Prop where
  record : (h.after (earlier ++ d :: later)).controller.record? = some r
  before : ∀ x ∈ h.log earlier, x.IsQuiet
  completes : Completes ((h.after earlier).exchange d) r
  behind : ∀ x ∈ (h.after (earlier ++ [d])).log later, x.IsQuiet

theorem StartsAt.cons {earlier later : List Delivery} {d e : Delivery} {r : Record}
    (hquiet : (h.exchange e).IsQuiet) (hs : StartsAt (h.receive e).1 earlier d later r) :
    StartsAt h (e :: earlier) d later r where
  record := hs.record
  before := by
    rw [log_cons, List.forall_mem_cons]
    exact ⟨hquiet, hs.before⟩
  completes := hs.completes
  behind := hs.behind

/-- Deliveries are cut at the one that starts the work, if there is one. -/
theorem cut_at_completion (hc : h.Coherent) (ds : List Delivery) :
    (∀ x ∈ h.log ds, x.IsQuiet) ∨
      ∃ earlier d later r, ds = earlier ++ d :: later ∧ StartsAt h earlier d later r := by
  induction ds generalizing h with
  | nil => exact .inl (List.forall_mem_nil _)
  | cons d ds ih =>
    -- a quiet message comes before the cut
    have hrest (hquiet : (h.exchange d).IsQuiet) :
        (∀ x ∈ h.log (d :: ds), x.IsQuiet) ∨
          ∃ earlier e later r, d :: ds = earlier ++ e :: later ∧ StartsAt h earlier e later r := by
      rcases ih (hc.receive d) with hall | ⟨earlier, e, later, r, rfl, hstarts⟩
      · left
        rw [log_cons, List.forall_mem_cons]
        exact ⟨hquiet, hall⟩
      · exact .inr ⟨d :: earlier, e, later, r, rfl, hstarts.cons hquiet⟩
    cases exchange_course hc d with
    | stays _ _ _ quiet => exact hrest quiet
    | opens _ _ _ _ quiet => exact hrest quiet
    | ends _ _ _ quiet => exact hrest quiet
    | completes r _ after record cause triggers registrations =>
      -- from here on the session has started, and nothing is started again
      have hstarted : Started (h.receive d).1.controller := by
        show Started (h.exchange d).controller
        rw [after]
        exact ⟨nofun, nofun⟩
      have hr : (h.receive d).1.controller.record? = some r := record?_receive hc record d
      exact .inr ⟨[], d, ds, r, rfl, record?_after (hc.receive d) hr ds, List.forall_mem_nil _,
        ⟨cause, triggers, registrations⟩, quiet_of_started (hc.receive d) hstarted ds⟩

/-- Nothing was started, and the client was asked for nothing, by any message of a log. -/
def LogIsQuiet (xs : List Exchange) : Prop :=
  xs.flatMap Exchange.triggers = [] ∧ xs.flatMap Exchange.registrations = []

theorem logIsQuiet_iff {xs : List Exchange} : LogIsQuiet xs ↔ ∀ x ∈ xs, x.IsQuiet := by
  unfold LogIsQuiet
  rw [List.flatMap_eq_nil_iff, List.flatMap_eq_nil_iff]
  exact forall₂_and.symm

/-- All that the messages of a run start is the work of one session, started once. -/
def StartsOnce (xs : List Exchange) (r : Record) : Prop :=
  xs.flatMap Exchange.triggers
      = [.startNode (NodeName.forRoot applicationName r.root), .index r] ∧
    xs.flatMap Exchange.registrations = r.requests

theorem starts_at_most_once (hc : h.Coherent) (ds : List Delivery) :
    LogIsQuiet (h.log ds) ∨
      ∃ r, (h.after ds).controller.record? = some r ∧ StartsOnce (h.log ds) r := by
  rcases cut_at_completion hc ds with hquiet | ⟨earlier, d, later, r, rfl, hstarts⟩
  · exact .inl (logIsQuiet_iff.mpr hquiet)
  · obtain ⟨hnothing, hasked⟩ := logIsQuiet_iff.mpr hstarts.before
    obtain ⟨hnothing', hasked'⟩ := logIsQuiet_iff.mpr hstarts.behind
    have hcompletes := hstarts.completes
    have hlog : h.log (earlier ++ d :: later)
        = h.log earlier ++ (h.after earlier).exchange d :: (h.after (earlier ++ [d])).log later := by
      rw [log_append, log_cons, after_append]
      rfl
    refine .inr ⟨r, hstarts.record, ?_, ?_⟩
    · rw [hlog, List.flatMap_append, List.flatMap_cons, hnothing, hcompletes.triggers, hnothing']
      rfl
    · rw [hlog, List.flatMap_append, List.flatMap_cons, hasked, hcompletes.registrations, hasked',
        List.nil_append, List.append_nil]

/-! ## Runs of a host -/

/-- **Stages in order.** Whatever messages a host has taken, the next one leaves the controller as
it is or brings it one stage on for the cause of that stage; and all that the messages together
start is nothing, or the node and the index of the session, once, with the registrations that its
client lets the server make. -/
theorem stages_in_order (tag : String) (settings : Settings) (ds : List Delivery) :
    (∀ d, (((Program.hostOf tag settings).after ds).exchange d).Course
      ((Program.hostOf tag settings).after ds).controller) ∧
      (LogIsQuiet ((Program.hostOf tag settings).log ds) ∨
        ∃ r, ((Program.hostOf tag settings).after ds).controller.record? = some r ∧
          StartsOnce ((Program.hostOf tag settings).log ds) r) :=
  ⟨exchange_course ((coherent_hostOf tag settings).after ds),
    starts_at_most_once (coherent_hostOf tag settings) ds⟩

example :
    ((Program.hostOf "7" {}).log
        [.handshake (some (.int 1)) "file:///srv/app", .bare "initialized" none (some .empty),
          .bare "initialized" none (some .empty), .bare "shutdown" (some (.int 2)) none]).map
        (fun x => (x.controller.state, x.triggers.length))
      = [(.initializing, 0), (.initialized, 2), (.initialized, 0), (.shuttingDown, 0)] := by
  decide

end Host

end SessionGate
