import SessionGate.Json.Basic

/-!
# Members of objects

What the members of an object hold after insertions, key by key.

- `get?_insert`: an insertion is seen under its own key and under no other.
- `get?_insertAll_of_mem`: of members in which no key occurs twice, every one is there.
- `get?_insertAll_of_not_mem`: no key besides is touched.
- `IsOrdered`: the keys increase; `IsOrdered.insertAll`: insertions keep them so.
- `mem_of_mem_insertAll`: no member comes from anywhere else.
- `ofMembers_pair`: two members in order make the object that holds them as they are.
-/

namespace SessionGate

namespace Json

namespace Members

theorem get?_insert (key k : String) (value : Json) (members : Members) :
    get? k (insert key value members) = if key = k then some value else get? k members := by
  induction members with
  | nil => rfl
  | cons m rest ih =>
    obtain ⟨l, v⟩ := m
    by_cases hkey : key = k
    -- the value stands before a greater key, over the key itself, or further on
    · rw [if_pos hkey] at ih ⊢
      subst hkey
      rw [insert]
      split
      · exact if_pos rfl
      · split
        · exact if_pos rfl
        · next hne => rw [get?, if_neg fun h => hne h.symm, ih]
    · rw [if_neg hkey] at ih ⊢
      rw [insert]
      split
      · exact if_neg hkey
      · split
        · next heq => rw [get?, get?, if_neg hkey, ← heq, if_neg hkey]
        · rw [get?, get?, ih]

@[simp] theorem get?_insert_self (key : String) (value : Json) (members : Members) :
    get? key (insert key value members) = some value := by
  rw [get?_insert, if_pos rfl]

theorem get?_insert_of_ne {key k : String} (h : key ≠ k) (value : Json) (members : Members) :
    get? k (insert key value members) = get? k members := by
  rw [get?_insert, if_neg h]

/-- A second insertion of a member changes nothing. -/
theorem insert_insert_self (key : String) (value : Json) (members : Members) :
    insert key value (insert key value members) = insert key value members := by
  induction members with
  | nil => simp [insert]
  | cons m rest ih =>
    obtain ⟨l, v⟩ := m
    by_cases hbefore : key < l
    · simp [insert, hbefore]
    · by_cases heq : key = l
      · simp [insert, heq]
      · simp [insert, hbefore, heq, ih]

/-- Members inserted one after another over what is there. -/
def insertAll (entries members : Members) : Members :=
  entries.foldl (fun acc m => insert m.1 m.2 acc) members

theorem get?_insertAll_of_not_mem {key : String} (entries members : Members)
    (h : key ∉ entries.map Prod.fst) : get? key (insertAll entries members) = get? key members := by
  induction entries generalizing members with
  | nil => rfl
  | cons e rest ih =>
    rw [List.map_cons, List.mem_cons, not_or] at h
    show get? key (insertAll rest (insert e.1 e.2 members)) = get? key members
    rw [ih _ h.2, get?_insert_of_ne fun he => h.1 he.symm]

theorem get?_insertAll_of_mem {key : String} {value : Json} (entries members : Members)
    (hnodup : (entries.map Prod.fst).Nodup) (h : (key, value) ∈ entries) :
    get? key (insertAll entries members) = some value := by
  induction entries generalizing members with
  | nil => cases h
  | cons e rest ih =>
    rw [List.map_cons, List.nodup_cons] at hnodup
    show get? key (insertAll rest (insert e.1 e.2 members)) = some value
    rcases List.mem_cons.mp h with rfl | hrest
    · rw [get?_insertAll_of_not_mem rest _ hnodup.1, get?_insert_self]
    · exact ih _ hnodup.2 hrest

/-! ## Order of the keys -/

/-- The keys increase, so that none occurs twice. -/
def IsOrdered (members : Members) : Prop :=
  members.Pairwise fun m l => m.1 < l.1

theorem IsOrdered.nodup_keys {members : Members} (h : members.IsOrdered) :
    (members.map Prod.fst).Nodup := by
  rw [List.nodup_iff_pairwise_ne, List.pairwise_map]
  exact h.imp String.ne_of_lt

theorem mem_of_mem_insert {key : String} {value : Json} {members : Members} {m : String × Json}
    (h : m ∈ insert key value members) : m = (key, value) ∨ m ∈ members := by
  induction members with
  | nil => exact .inl (List.mem_singleton.mp h)
  | cons l rest ih =>
    rw [insert] at h
    split at h
    · exact List.mem_cons.mp h
    · split at h
      · exact (List.mem_cons.mp h).imp_right (List.mem_cons_of_mem l)
      · rcases List.mem_cons.mp h with rfl | hrest
        · exact .inr List.mem_cons_self
        · exact (ih hrest).imp_right (List.mem_cons_of_mem l)

theorem IsOrdered.insert {members : Members} (h : members.IsOrdered) (key : String)
    (value : Json) : (members.insert key value).IsOrdered := by
  induction members with
  | nil => exact List.pairwise_singleton _ _
  | cons l rest ih =>
    obtain ⟨hfirst, hrest⟩ := List.pairwise_cons.mp h
    rw [Members.insert]
    split
    · next hbefore =>
      refine List.pairwise_cons.mpr ⟨fun m hm => ?_, h⟩
      rcases List.mem_cons.mp hm with rfl | hm
      · exact hbefore
      · exact String.lt_trans hbefore (hfirst m hm)
    · next hnot =>
      split
      · next heq => exact List.pairwise_cons.mpr ⟨fun m hm => heq ▸ hfirst m hm, hrest⟩
      · next hne =>
        refine List.pairwise_cons.mpr ⟨fun m hm => ?_, ih hrest⟩
        rcases mem_of_mem_insert hm with rfl | hm
        · exact Std.lt_of_le_of_ne (String.not_lt.mp hnot) fun heq => hne heq.symm
        · exact hfirst m hm

theorem IsOrdered.insertAll {members : Members} (h : members.IsOrdered) (entries : Members) :
    (Members.insertAll entries members).IsOrdered := by
  induction entries generalizing members with
  | nil => exact h
  | cons e rest ih => exact ih (h.insert e.1 e.2)

theorem mem_of_mem_insertAll {entries members : Members} {m : String × Json}
    (h : m ∈ insertAll entries members) : m ∈ entries ∨ m ∈ members := by
  induction entries generalizing members with
  | nil => exact .inr h
  | cons e rest ih =>
    rcases ih h with hrest | hinsert
    · exact .inl (List.mem_cons_of_mem e hrest)
    · rcases mem_of_mem_insert hinsert with rfl | hmembers
      · exact .inl List.mem_cons_self
      · exact .inr hmembers

end Members

open Members

theorem ofMembers_eq (entries : Members) : ofMembers entries = .object (insertAll entries []) := rfl

/-- Two members that come in order stay as they are. -/
theorem ofMembers_pair {k l : String} (v w : Json) (hbefore : ¬l < k) (hother : l ≠ k) :
    ofMembers [(k, v), (l, w)] = .object [(k, v), (l, w)] := by
  rw [ofMembers_eq]
  show Json.object (Members.insert l w [(k, v)]) = _
  rw [Members.insert, if_neg hbefore, if_neg hother]
  rfl

end Json

end SessionGate
