import Mathlib.Data.List.Basic
import SessionGate.Schema.Shape

/-!
# Records in normal form

A record reads back unchanged when every member it holds is its own normal form: then nothing is
dropped, added or changed.

- `Shape.HoldsNormal`: the members of an object are in normal form for some fields.
- `Shape.settle_readFields`: reading such members gives them back, in the order of the fields.
- `Shape.conformIn_record`: the normal form of the record is the object of these members.
- `Shape.conformIn_record_eq_error`: a record with members that are refused is refused for one of
  them.
-/

namespace SessionGate

namespace Shape

/-- What an object holds for some fields is in normal form already: what is there is read as it is
and does not count as absent, and what is absent may be so and is not written. -/
structure HoldsNormal (s : Standing) (fields : Fields) (members : Json.Members) : Prop where
  normal : ∀ f ∈ fields, ∀ v, Json.Members.get? f.1 members = some v →
    conformIn s f.2.2 v = .ok v ∧ countsAsAbsent f.2.1 f.2.2 v = false
  absent : ∀ f ∈ fields, Json.Members.get? f.1 members = none →
    f.2.1.isRequired = false ∧ f.2.1.isKept = false

/-- The members of an object for some fields, in the order of the fields. -/
def held (fields : Fields) (members : Json.Members) : List (String × Json) :=
  fields.filterMap fun f => (Json.Members.get? f.1 members).map fun v => (f.1, v)

theorem readFields_eq_map (s : Standing) (fields : Fields) (members : Json.Members) :
    readFields s fields members = fields.map fun f =>
      (f.1, f.2.1, (Json.Members.get? f.1 members).bind fun v =>
        if countsAsAbsent f.2.1 f.2.2 v then none else some (conformIn s f.2.2 v)) := by
  induction fields with
  | nil => rw [readFields]; rfl
  | cons f rest ih =>
    obtain ⟨key, p, shape⟩ := f
    rw [readFields, ih, List.map_cons]
    cases Json.Members.get? key members <;> rfl

theorem readFields_of_holdsNormal {s : Standing} {fields : Fields} {members : Json.Members}
    (h : HoldsNormal s fields members) :
    readFields s fields members
      = fields.map fun f => (f.1, f.2.1, (Json.Members.get? f.1 members).map .ok) := by
  rw [readFields_eq_map]
  refine List.map_congr_left fun f hf => ?_
  cases hget : Json.Members.get? f.1 members with
  | none => rfl
  | some v =>
    obtain ⟨hconform, hpresent⟩ := h.normal f hf v hget
    rw [Option.bind_some, hpresent, hconform]
    rfl

theorem settle_readFields {s : Standing} {fields : Fields} {members : Json.Members}
    (h : HoldsNormal s fields members) :
    settle (readFields s fields members) = .ok (held fields members) := by
  rw [readFields_of_holdsNormal h]
  -- nothing is wrong, nothing is missing, and what is written is what was held
  have herrors : errors (fields.map fun f =>
      (f.1, f.2.1, (Json.Members.get? f.1 members).map .ok)) = [] := by
    rw [errors, List.filterMap_map]
    refine List.filterMap_eq_nil_iff.mpr fun f _ => ?_
    cases hget : Json.Members.get? f.1 members <;> simp [hget]
  have hmissing : missing? (fields.map fun f =>
      (f.1, f.2.1, (Json.Members.get? f.1 members).map .ok)) = none := by
    rw [missing?, Option.map_eq_none_iff, List.find?_eq_none]
    intro r hr
    obtain ⟨f, hf, rfl⟩ := List.mem_map.mp hr
    cases hget : Json.Members.get? f.1 members with
    | none => simp [(h.absent f hf hget).1]
    | some v => simp
  have hwritten : written (fields.map fun f =>
      (f.1, f.2.1, (Json.Members.get? f.1 members).map .ok)) = held fields members := by
    rw [written, held, List.filterMap_map]
    refine List.filterMap_congr fun f hf => ?_
    cases hget : Json.Members.get? f.1 members with
    | none => simp [hget, (h.absent f hf hget).2]
    | some v => simp [hget]
  rw [settle, herrors, hmissing, hwritten]
  rfl

/-- A record that shares no members and holds its own in normal form. -/
theorem conformIn_record {s : Standing} {name : String} {own : Fields} {members : Json.Members}
    (h : HoldsNormal s own members) :
    conformIn s (.record name own []) (.object members) = .ok (.ofMembers (held own members)) := by
  rw [conformIn]
  simp only [settle_readFields h, readGroups, bind, Except.bind, pure, Except.pure,
    List.append_nil]

/-! ## Members that are refused -/

theorem firstError?_eq_none {es : List (String × ShapeError)} (h : firstError? es = none) :
    es = [] := by
  cases es with
  | nil => rfl
  | cons e rest =>
    rw [firstError?] at h
    split at h
    · cases h
    · split at h <;> cases h

theorem mem_of_firstError? {es : List (String × ShapeError)} {e : String × ShapeError}
    (h : firstError? es = some e) : e ∈ es := by
  induction es with
  | nil => cases h
  | cons first rest ih =>
    rw [firstError?] at h
    split at h
    · cases h
      exact List.mem_cons_self
    · next hrest =>
      -- the first error of the rest is reported only if its key is the lesser one
      split at h
      · cases h
        exact List.mem_cons_of_mem first (ih hrest)
      · cases h
        exact List.mem_cons_self

/-- The errors of a reading are those of the members that are there and are refused. -/
theorem mem_errors_readFields {s : Standing} {fields : Fields} {members : Json.Members}
    {key : String} {e : ShapeError} :
    (key, e) ∈ errors (readFields s fields members) ↔
      ∃ f ∈ fields, f.1 = key ∧ ∃ v, Json.Members.get? f.1 members = some v ∧
        countsAsAbsent f.2.1 f.2.2 v = false ∧ conformIn s f.2.2 v = .error e := by
  rw [readFields_eq_map, errors, List.filterMap_map, List.mem_filterMap]
  refine exists_congr fun f => and_congr_right fun _ => ?_
  cases hget : Json.Members.get? f.1 members with
  | none => simp [hget]
  | some v =>
    cases habsent : countsAsAbsent f.2.1 f.2.2 v with
    | true => simp [hget, habsent]
    | false => cases hconform : conformIn s f.2.2 v <;> simp [hget, habsent, hconform]

/-- A record that shares no members is refused for the error of one of its own, if no other error
is there to be reported before it. -/
theorem conformIn_record_eq_error {s : Standing} {name : String} {own : Fields}
    {members : Json.Members} {e : ShapeError}
    (hbad : ∃ key, (key, e) ∈ errors (readFields s own members))
    (honly : ∀ x ∈ errors (readFields s own members), x.2 = e) :
    conformIn s (.record name own []) (.object members) = .error e := by
  have hsettle : settle (readFields s own members) = .error e := by
    rw [settle]
    cases hfirst : firstError? (errors (readFields s own members)) with
    | none =>
      obtain ⟨key, hkey⟩ := hbad
      rw [firstError?_eq_none hfirst] at hkey
      cases hkey
    | some x => exact congrArg Except.error (honly x (mem_of_firstError? hfirst))
  rw [conformIn]
  simp only [hsettle, bind, Except.bind]

end Shape

end SessionGate
