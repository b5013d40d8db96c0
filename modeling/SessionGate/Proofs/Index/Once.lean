import SessionGate.Index.Indexer

/-!
# A workspace is indexed once

The indexer is asked time after time, for one session or another, and the files may be others each
time. The first time that counts is the only one that does anything.

- `Indexer.Ask`: what the indexer is asked for, and the files as they are then; `Indexer.after`: the
  indexer after it was asked, time after time.
- `Indexer.Ask.Counts`: the session lets the server index, and names a local directory.
- `Indexer.ask_of_counts`, `Indexer.ask_of_not_counts`: what one time comes to.
- `Indexer.indexed_once`: any number of times.
-/

namespace SessionGate

/-- Indexing is on unless the options say that it is not. -/
theorem Record.indexingEnabled_eq_false_iff {r : Record} :
    r.indexingEnabled = false ↔
      Json.Members.get? "indexingEnabled" r.options = some (.bool false) := by
  unfold Record.indexingEnabled
  cases Json.Members.get? "indexingEnabled" r.options with
  | none => simp
  | some v => cases v <;> simp [Json.bool?]

namespace Indexer

/-- What the indexer is asked for: the workspace of a session, in the files as they are then, seen
from a working directory. -/
structure Ask where
  root : FileTree
  working : List Bytes
  record : Record

namespace Ask

/-- The session lets the server index, and its root is a local directory. -/
def Counts (a : Ask) (path : Path) : Prop :=
  Json.Members.get? "indexingEnabled" a.record.options ≠ some (.bool false) ∧
    a.record.rootPath? = some path

/-- The files below a directory, none if they cannot be listed. -/
def found (a : Ask) (path : Path) : List Path :=
  match sourceFiles a.root a.working path with
  | .ok files => files
  | .error _ => []

end Ask

/-- The indexer after it was asked once. -/
def ask (i : Indexer) (a : Ask) : Indexer :=
  i.start a.root a.working a.record

/-- The indexer after it was asked, time after time. -/
def after (i : Indexer) (asks : List Ask) : Indexer :=
  asks.foldl ask i

variable {i : Indexer} {a : Ask} {asks : List Ask} {path : Path}

@[simp] theorem after_nil (i : Indexer) : i.after [] = i := rfl

@[simp] theorem after_cons (i : Indexer) (a : Ask) (asks : List Ask) :
    i.after (a :: asks) = (i.ask a).after asks := rfl

theorem after_append (i : Indexer) (asks more : List Ask) :
    i.after (asks ++ more) = (i.after asks).after more :=
  List.foldl_append ..

/-! ## One time -/

/-- A time that does not count changes nothing. -/
theorem ask_of_not_counts (h : ∀ path, ¬a.Counts path) : i.ask a = i := by
  unfold ask start
  by_cases henabled : a.record.indexingEnabled = false
  · simp [henabled]
  · have hnone : a.record.rootPath? = none := by
      rw [Record.indexingEnabled_eq_false_iff] at henabled
      cases hpath : a.record.rootPath? with
      | none => rfl
      | some path => exact absurd ⟨henabled, hpath⟩ (h path)
    simp [hnone]

/-- A time that counts indexes the directory, unless something has been indexed before. -/
theorem ask_of_counts (h : a.Counts path) :
    i.ask a = if i.isStarted then i else ⟨true, a.found path⟩ := by
  have henabled : a.record.indexingEnabled = true := by
    rw [← Bool.not_eq_false, Record.indexingEnabled_eq_false_iff]
    exact h.1
  unfold ask start Ask.found
  rw [henabled, h.2]
  dsimp only [Bool.not_true]
  cases sourceFiles a.root a.working path <;> rfl

/-- Once something has been indexed, nothing changes any more. -/
theorem ask_of_isStarted (hi : i.isStarted = true) (a : Ask) : i.ask a = i := by
  by_cases hcounts : ∃ path, a.Counts path
  · obtain ⟨path, hpath⟩ := hcounts
    rw [ask_of_counts hpath, if_pos hi]
  · exact ask_of_not_counts (not_exists.mp hcounts)

/-! ## Time after time -/

theorem after_of_isStarted (hi : i.isStarted = true) (asks : List Ask) : i.after asks = i := by
  induction asks with
  | nil => rfl
  | cons a asks ih => rw [after_cons, ask_of_isStarted hi, ih]

theorem after_of_not_counts (h : ∀ a ∈ asks, ∀ path, ¬a.Counts path) : i.after asks = i := by
  induction asks with
  | nil => rfl
  | cons a asks ih =>
    rw [List.forall_mem_cons] at h
    rw [after_cons, ask_of_not_counts h.1, ih h.2]

/-- Times are cut at the first that counts, if there is one. -/
theorem cut_at_first_count (asks : List Ask) :
    (∀ a ∈ asks, ∀ path, ¬a.Counts path) ∨
      ∃ earlier a later path, asks = earlier ++ a :: later ∧ a.Counts path ∧
        ∀ b ∈ earlier, ∀ path, ¬b.Counts path := by
  induction asks with
  | nil => exact .inl nofun
  | cons a asks ih =>
    by_cases hcounts : ∃ path, a.Counts path
    · obtain ⟨path, hpath⟩ := hcounts
      exact .inr ⟨[], a, asks, path, rfl, hpath, nofun⟩
    · have hno := not_exists.mp hcounts
      rcases ih with hnever | ⟨earlier, b, later, path, rfl, hpath, hearlier⟩
      · exact .inl (List.forall_mem_cons.mpr ⟨hno, hnever⟩)
      · exact .inr ⟨a :: earlier, b, later, path, rfl, hpath,
          List.forall_mem_cons.mpr ⟨hno, hearlier⟩⟩

/-- **A workspace is indexed once.** The indexer stays as it was made for as long as nothing counts.
From the first time that counts on, whatever it is asked for later, it has started and holds the
files that were below that session's directory then. -/
theorem indexed_once (asks : List Ask) :
    ((∀ a ∈ asks, ∀ path, ¬a.Counts path) ∧ ∀ before, before <+: asks → new.after before = new) ∨
      ∃ earlier a later path, asks = earlier ++ a :: later ∧ a.Counts path ∧
        (∀ b ∈ earlier, ∀ path, ¬b.Counts path) ∧
        (∀ before, before <+: earlier → new.after before = new) ∧
        ∀ more, new.after (earlier ++ a :: more) = ⟨true, a.found path⟩ := by
  have hbefore {asks before : List Ask} (hno : ∀ a ∈ asks, ∀ path, ¬a.Counts path)
      (hbegins : before <+: asks) : new.after before = new :=
    after_of_not_counts fun a ha => hno a (hbegins.subset ha)
  rcases cut_at_first_count asks with hnever | ⟨earlier, a, later, path, hcut, hcounts, hearlier⟩
  · exact .inl ⟨hnever, fun before => hbefore hnever⟩
  · refine .inr ⟨earlier, a, later, path, hcut, hcounts, hearlier, fun before => hbefore hearlier,
      fun more => ?_⟩
    have hstart : new.ask a = ⟨true, a.found path⟩ := ask_of_counts hcounts
    rw [after_append, hbefore hearlier List.prefix_rfl, after_cons, hstart, after_of_isStarted rfl]

end Indexer

end SessionGate
