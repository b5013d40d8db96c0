import Mathlib.Data.List.Induction
import SessionGate.Node.Manager

/-!
# One node at a time

A manager is asked to start the node and to stop it, in any order and any number of times, and its
program may or may not be started each time. It holds on to at most one process: a process that it
has started is the one that it stops next, and until then it starts no other.

- `NodeManager.Call`, `NodeManager.after`, `NodeManager.log`: calls of a manager, the manager after
  them, and what they did.
- `NodeManager.Balanced`: what was done is pairs of a start and its stop, and a start without one if
  the node runs; `NodeManager.Balanced.call`, `NodeManager.Balanced.after`: it stays so.
- `NodeManager.Stands`: a start that came to something and that no stop came after;
  `NodeManager.running_after_iff`: the node that runs is that of such a start.
- `NodeManager.one_process_at_a_time`: every run.
-/

namespace SessionGate

/-- Whether a process was started. -/
def NodeEvent.isStart : NodeEvent → Bool
  | spawned _ => true
  | stopped _ => false

/-- Whether a process was stopped. -/
def NodeEvent.isStop : NodeEvent → Bool
  | spawned _ => false
  | stopped _ => true

namespace NodeManager

/-- A call of a manager. -/
inductive Call where
  /-- An attempt to start the node; `succeeds` says whether its program can be started. -/
  | start (name : String) (succeeds : Bool)
  | stop
  deriving DecidableEq

/-- What one call comes to: the manager after it, and what it did. -/
def call (m : NodeManager) : Call → NodeManager × List NodeEvent
  | .start name succeeds => m.start name succeeds
  | .stop => m.stop

/-- The manager after calls. -/
def after (m : NodeManager) (ks : List Call) : NodeManager :=
  ks.foldl (fun m k => (m.call k).1) m

/-- What calls did, one after another. -/
def log (m : NodeManager) : List Call → List NodeEvent
  | [] => []
  | k :: ks => (m.call k).2 ++ (m.call k).1.log ks

variable {m : NodeManager} {name : String}

@[simp] theorem after_nil (m : NodeManager) : m.after [] = m := rfl

@[simp] theorem after_cons (m : NodeManager) (k : Call) (ks : List Call) :
    m.after (k :: ks) = (m.call k).1.after ks := rfl

theorem after_concat (m : NodeManager) (ks : List Call) (k : Call) :
    m.after (ks ++ [k]) = ((m.after ks).call k).1 :=
  List.foldl_append ..

@[simp] theorem log_nil (m : NodeManager) : m.log [] = [] := rfl

@[simp] theorem log_cons (m : NodeManager) (k : Call) (ks : List Call) :
    m.log (k :: ks) = (m.call k).2 ++ (m.call k).1.log ks := rfl

/-! ## One call -/

theorem isRunning_eq_false_iff : m.isRunning = false ↔ m.running = none := by
  rw [isRunning, Option.isSome_eq_false_iff, Option.isNone_iff_eq_none]

/-- A node that runs is left alone. -/
theorem start_of_isRunning (h : m.isRunning = true) (name : String) (succeeds : Bool) :
    m.start name succeeds = (m, []) := by
  rw [start, h, Bool.true_or, Bool.true_or, if_pos rfl]

/-- A program that cannot be started changes nothing. -/
theorem start_of_fails (m : NodeManager) (name : String) : m.start name false = (m, []) := by
  rw [start, Bool.not_false, Bool.or_true, if_pos rfl]

/-- A node that does not run is started, if its program can be. -/
theorem start_of_not_isRunning (h : m.isRunning = false) (hprogram : m.program.isSome = true)
    (name : String) :
    m.start name true = ({ m with running := some name }, [.spawned name]) := by
  have hnone : m.program.isNone = false := by
    rw [← Option.not_isSome, hprogram, Bool.not_true]
  rw [start, h, hnone]
  rfl

theorem stop_of_not_isRunning (h : m.isRunning = false) : m.stop = (m, []) := by
  rw [stop, isRunning_eq_false_iff.mp h]

theorem stop_of_running (h : m.running = some name) :
    m.stop = ({ m with running := none }, [.stopped name]) := by
  rw [stop, h]

theorem isRunning_stop (m : NodeManager) : m.stop.1.isRunning = false := by
  rw [isRunning_eq_false_iff]
  cases hrunning : m.running with
  | none => rwa [stop_of_not_isRunning (isRunning_eq_false_iff.mpr hrunning)]
  | some name => rw [stop_of_running hrunning]

theorem isRunning_ofSetting (setting : NodeSetting) : (ofSetting setting).isRunning = false := by
  unfold ofSetting
  split <;> rfl

/-- A node that has been started is stopped, whether the start came to something or not. -/
theorem start_stop_ofSetting (setting : NodeSetting) (name : String) (succeeds : Bool) :
    let started := (ofSetting setting).start name succeeds
    started.2 ++ started.1.stop.2
      = if setting.isEnabled && succeeds then [.spawned name, .stopped name] else [] := by
  obtain ⟨isEnabled, program⟩ := setting
  cases isEnabled <;> cases succeeds <;> rfl

/-- A call does nothing, or it starts the node where none runs, or it stops the one that runs. -/
theorem call_cases (m : NodeManager) (k : Call) :
    (m.call k = (m, []) ∧ (k = .stop → m.running = none)) ∨
      (∃ name, k = .start name true ∧ m.running = none ∧
        m.call k = ({ m with running := some name }, [.spawned name])) ∨
      ∃ name, k = .stop ∧ m.running = some name ∧
        m.call k = ({ m with running := none }, [.stopped name]) := by
  cases k with
  | start name succeeds =>
    by_cases hidle : m.isRunning || m.program.isNone || !succeeds
    · exact .inl ⟨if_pos hidle, nofun⟩
    · have hstarts : m.call (.start name succeeds)
          = ({ m with running := some name }, [.spawned name]) := if_neg hidle
      simp only [Bool.not_eq_true, Bool.or_eq_false_iff, Bool.not_eq_false'] at hidle
      obtain ⟨⟨hrunning, -⟩, rfl⟩ := hidle
      exact .inr (.inl ⟨name, rfl, isRunning_eq_false_iff.mp hrunning, hstarts⟩)
  | stop =>
    cases hrunning : m.running with
    | none => exact .inl ⟨stop_of_not_isRunning (isRunning_eq_false_iff.mpr hrunning), fun _ => rfl⟩
    | some name => exact .inr (.inr ⟨name, rfl, rfl, stop_of_running hrunning⟩)

theorem program_call (m : NodeManager) (k : Call) : (m.call k).1.program = m.program := by
  rcases m.call_cases k with ⟨h, -⟩ | ⟨name, -, -, h⟩ | ⟨name, -, -, h⟩ <;> rw [h]

theorem program_after (m : NodeManager) (ks : List Call) : (m.after ks).program = m.program := by
  induction ks generalizing m with
  | nil => rfl
  | cons k ks ih => rw [after_cons, ih, program_call]

/-! ## Starts and stops -/

/-- What a manager has done: starts, each with the stop of that process before the next, and in the
end the start of the process that runs, if one does. -/
inductive Balanced : List NodeEvent → Option String → Prop where
  | nil : Balanced [] none
  | spawned {events : List NodeEvent} (name : String) (before : Balanced events none) :
      Balanced (events ++ [.spawned name]) (some name)
  | stopped {events : List NodeEvent} (name : String) (before : Balanced events (some name)) :
      Balanced (events ++ [.stopped name]) none

variable {events : List NodeEvent}

theorem Balanced.call (h : Balanced events m.running) (k : Call) :
    Balanced (events ++ (m.call k).2) (m.call k).1.running := by
  rcases m.call_cases k with ⟨hk, -⟩ | ⟨name, -, hnone, hk⟩ | ⟨name, -, hsome, hk⟩
  · rw [hk, List.append_nil]
    exact h
  · rw [hk]
    rw [hnone] at h
    exact .spawned name h
  · rw [hk]
    rw [hsome] at h
    exact .stopped name h

theorem Balanced.after (h : Balanced events m.running) (ks : List Call) :
    Balanced (events ++ m.log ks) (m.after ks).running := by
  induction ks generalizing m events with
  | nil => simpa using h
  | cons k ks ih =>
    rw [log_cons, ← List.append_assoc, after_cons]
    exact ih (h.call k)

/-- There is one more start than there are stops if a process runs, and as many if none does. -/
theorem Balanced.countP_isStart {running : Option String} (h : Balanced events running) :
    events.countP NodeEvent.isStart = events.countP NodeEvent.isStop + running.isSome.toNat := by
  induction h with
  | nil => rfl
  | spawned name _ ih =>
    simp only [List.countP_append, ih]
    rfl
  | stopped name _ ih =>
    simp only [List.countP_append, ih]
    rfl

/-! ## The node that runs -/

/-- A start under a name, among calls, came to something, and no stop came after it. -/
def Stands (m : NodeManager) (ks : List Call) (name : String) : Prop :=
  ∃ before succeeds later, ks = before ++ .start name succeeds :: later ∧
    ((m.after before).start name succeeds).2 = [.spawned name] ∧ .stop ∉ later

theorem not_stands_nil (m : NodeManager) (name : String) : ¬m.Stands [] name := by
  rintro ⟨before, succeeds, later, hcut, -⟩
  simp at hcut

/-- One more call is a start that stands, or it leaves those that stand unless it is a stop. -/
theorem stands_concat_iff (m : NodeManager) (ks : List Call) (k : Call) (name : String) :
    m.Stands (ks ++ [k]) name ↔
      (∃ succeeds, k = .start name succeeds ∧
        ((m.after ks).start name succeeds).2 = [.spawned name]) ∨
      m.Stands ks name ∧ k ≠ .stop := by
  constructor
  · rintro ⟨before, succeeds, later, hcut, hstarts, hlater⟩
    rcases List.eq_nil_or_concat later with rfl | ⟨later, l, rfl⟩
    · obtain ⟨rfl, hk⟩ := List.append_inj' hcut rfl
      cases hk
      exact .inl ⟨succeeds, rfl, hstarts⟩
    · rw [List.concat_eq_append, ← List.cons_append, ← List.append_assoc] at hcut
      obtain ⟨rfl, hk⟩ := List.append_inj' hcut rfl
      cases hk
      rw [List.concat_eq_append, List.mem_append, not_or, List.mem_singleton] at hlater
      exact .inr ⟨⟨before, succeeds, later, rfl, hstarts, hlater.1⟩, Ne.symm hlater.2⟩
  · rintro (⟨succeeds, rfl, hstarts⟩ | ⟨⟨before, succeeds, later, rfl, hstarts, hlater⟩, hk⟩)
    · exact ⟨ks, succeeds, [], rfl, hstarts, by simp⟩
    · refine ⟨before, succeeds, later ++ [k], by simp, hstarts, ?_⟩
      rw [List.mem_append, not_or, List.mem_singleton]
      exact ⟨hlater, Ne.symm hk⟩

/-- After a call the node runs under a name if the call has started it so, or if it did before and
the call was no stop. -/
theorem running_call_iff (m : NodeManager) (k : Call) (name : String) :
    (m.call k).1.running = some name ↔
      (∃ succeeds, k = .start name succeeds ∧ (m.start name succeeds).2 = [.spawned name]) ∨
      m.running = some name ∧ k ≠ .stop := by
  rcases m.call_cases k with ⟨hk, hstop⟩ | ⟨other, rfl, hnone, hk⟩ | ⟨other, rfl, hsome, hk⟩
  · have hnothing : ¬∃ succeeds, k = .start name succeeds ∧
        (m.start name succeeds).2 = [.spawned name] := by
      rintro ⟨succeeds, rfl, hstarts⟩
      have hevents : (m.start name succeeds).2 = [] := congrArg Prod.snd hk
      rw [hevents] at hstarts
      cases hstarts
    rw [hk, or_iff_right hnothing]
    refine (and_iff_left_of_imp fun hrunning heq => ?_).symm
    rw [hstop heq] at hrunning
    cases hrunning
  · have hevents : (m.start other true).2 = [.spawned other] := congrArg Prod.snd hk
    rw [hk, hnone]
    constructor
    · rintro ⟨⟩
      exact .inl ⟨true, rfl, hevents⟩
    · rintro (⟨succeeds, hcall, -⟩ | ⟨hrunning, -⟩)
      · cases hcall
        rfl
      · cases hrunning
  · rw [hk]
    refine iff_of_false nofun ?_
    rintro (⟨succeeds, hcall, -⟩ | ⟨-, hne⟩)
    · cases hcall
    · exact hne rfl

/-- After calls the node runs under a name if a start under it stands, or if it did before and none
of the calls was a stop. -/
theorem running_after_iff (m : NodeManager) (ks : List Call) (name : String) :
    (m.after ks).running = some name ↔
      m.Stands ks name ∨ m.running = some name ∧ .stop ∉ ks := by
  -- from the end of the calls, since a stop takes back what came before it
  induction ks using List.reverseRecOn with
  | nil =>
    rw [after_nil, or_iff_right (not_stands_nil m name)]
    exact (and_iff_left nofun).symm
  | append_singleton ks k ih =>
    have hstops : .stop ∉ ks ++ [k] ↔ .stop ∉ ks ∧ k ≠ .stop := by
      rw [List.mem_append, not_or, List.mem_singleton, ne_comm]
    calc
      (m.after (ks ++ [k])).running = some name
      _ ↔ (∃ succeeds, k = .start name succeeds ∧
              ((m.after ks).start name succeeds).2 = [.spawned name]) ∨
            (m.after ks).running = some name ∧ k ≠ .stop := by
        rw [after_concat, running_call_iff]
      _ ↔ (∃ succeeds, k = .start name succeeds ∧
              ((m.after ks).start name succeeds).2 = [.spawned name]) ∨
            (m.Stands ks name ∨ m.running = some name ∧ .stop ∉ ks) ∧ k ≠ .stop := by
        rw [ih]
      _ ↔ m.Stands (ks ++ [k]) name ∨ m.running = some name ∧ .stop ∉ ks ++ [k] := by
        rw [stands_concat_iff, hstops, or_and_right, or_assoc, and_assoc]

/-! ## Runs -/

/-- **A manager has one process at a time.** After any calls, whatever attempts have failed: it has
started as many processes as it has stopped, or one more, and that one runs; each was stopped before
the next was started. A node runs exactly if a start has come to something since the last stop, and
then under the name of that start. While it runs a start does nothing; an attempt that fails changes
nothing, nor does a stop where nothing runs, and after either the next attempt may succeed. -/
theorem one_process_at_a_time (program : String) (ks : List Call) :
    let m := (new program).after ks
    let events := (new program).log ks
    Balanced events m.running ∧
      events.countP NodeEvent.isStart = events.countP NodeEvent.isStop + m.isRunning.toNat ∧
      (∀ name, m.running = some name ↔ (new program).Stands ks name) ∧
      (m.isRunning = true ↔ ∃ name, (new program).Stands ks name) ∧
      (m.isRunning = true → ∀ name succeeds, m.start name succeeds = (m, [])) ∧
      (∀ name, m.start name false = (m, [])) ∧
      (m.isRunning = false → m.stop = (m, []) ∧
        ∀ name, m.start name true = ({ m with running := some name }, [.spawned name])) := by
  intro m events
  have hbalanced : Balanced events m.running := by
    have hnew : Balanced [] (new program).running := .nil
    simpa using hnew.after ks
  have hstands (name : String) : m.running = some name ↔ (new program).Stands ks name := by
    rw [running_after_iff]
    exact or_iff_left fun h => nomatch h.1
  have hprogram : m.program.isSome = true := by
    rw [program_after]
    rfl
  have hruns : m.isRunning = true ↔ ∃ name, (new program).Stands ks name := by
    rw [isRunning, Option.isSome_iff_exists]
    exact exists_congr hstands
  exact ⟨hbalanced, hbalanced.countP_isStart, hstands, hruns, start_of_isRunning, start_of_fails m,
    fun hidle => ⟨stop_of_not_isRunning hidle, start_of_not_isRunning hidle hprogram⟩⟩

/-- Attempts that fail, a second start and a second stop do nothing. -/
example : (new "erl").log [.start "a" false, .stop, .start "b" true, .start "c" true, .stop, .stop]
    = [.spawned "b", .stopped "b"] := by decide

end NodeManager

end SessionGate
