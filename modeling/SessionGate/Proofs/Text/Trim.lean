import Mathlib.Data.List.DropRight
import SessionGate.Text.Trim

/-!
# What is left of a trimmed sequence

To trim a sequence is to drop from its right, and all that is known of that holds here.

- `trimEnd_eq_rdropWhile`: the two are the same.
- `trimEnd_cons_of_not`, `trimEnd_of_forall`: items that stay.
- `trimEnd_append_replicate`: items that are taken off.
-/

namespace SessionGate

variable {α : Type} {drop : α → Bool} {a : α} {items : List α}

theorem trimEnd_eq_rdropWhile (drop : α → Bool) (items : List α) :
    trimEnd drop items = items.rdropWhile drop :=
  rfl

theorem trimEnd_of_forall (h : ∀ a ∈ items, drop a = false) : trimEnd drop items = items := by
  rw [trimEnd_eq_rdropWhile, List.rdropWhile_eq_self_iff]
  intro hne
  simp [h _ (List.getLast_mem hne)]

/-- An item at the start that stays is not looked at. -/
theorem trimEnd_cons_of_not (ha : drop a = false) (items : List α) :
    trimEnd drop (a :: items) = a :: trimEnd drop items := by
  simp only [trimEnd_eq_rdropWhile]
  induction items using List.reverseRecOn with
  | nil => simp [List.rdropWhile_singleton, ha]
  | append_singleton items b ih =>
    rw [← List.cons_append, List.rdropWhile_concat, List.rdropWhile_concat, ih]
    split <;> rfl

theorem trimEnd_append_replicate (ha : drop a = true) (items : List α) (n : Nat) :
    trimEnd drop (items ++ List.replicate n a) = trimEnd drop items := by
  simp only [trimEnd_eq_rdropWhile]
  induction n with
  | zero => rw [List.replicate_zero, List.append_nil]
  | succ n ih =>
    rw [List.replicate_succ', ← List.append_assoc, List.rdropWhile_concat_pos _ _ _ ha, ih]

end SessionGate
