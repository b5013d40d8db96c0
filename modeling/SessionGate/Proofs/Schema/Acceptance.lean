import Mathlib.Data.List.Nodup
import SessionGate.Proofs.Json.Members
import SessionGate.Proofs.Schema.NormalForm
import SessionGate.Schema.ServerCapabilities

/-!
# Records that are read

An object is read as a record field by field, and no field looks at another: it is read exactly if
each field fits, and what is written for a field depends on the member of its name alone.

- `Shape.found`: what is found for a field in an object.
- `Shape.Fits`: nothing is wrong with a field; `Shape.written?`: what is written for it.
- `Shape.fits_of_found_ok`, `Shape.fits_of_found_none`, `Shape.Fits.congr`: when a field fits.
- `Shape.conformIn_record_eq_ok_iff`: which objects are read as a record, and as what;
  `Shape.conformIn_record_congr`: no other member has a part in it.
- `Shape.get?_record`: what the record holds for a field.
-/

namespace SessionGate

namespace Shape

variable {s : Standing} {fields : Fields} {members : Json.Members} {name : String} {v : Json}
  {f : String × Presence × Shape}

/-- What is found for a field: nothing, a normal form, or an error. -/
def found (s : Standing) (members : Json.Members) (f : String × Presence × Shape) :
    Option (Except ShapeError Json) :=
  (Json.Members.get? f.1 members).bind fun v =>
    if countsAsAbsent f.2.1 f.2.2 v then none else some (conformIn s f.2.2 v)

/-- Nothing is wrong with a field: what is there has its shape, and it is there if it must be. -/
structure Fits (s : Standing) (members : Json.Members) (f : String × Presence × Shape) :
    Prop where
  accepted : ∀ e, found s members f ≠ some (.error e)
  present : found s members f = none → f.2.1.isRequired = false

/-- What is written for a field. -/
def written? (s : Standing) (members : Json.Members) (f : String × Presence × Shape) :
    Option Json :=
  match found s members f with
  | some (.ok v) => some v
  | _ => if f.2.1.isKept then some .null else none

/-- The members that are written for fields. -/
def entries (s : Standing) (members : Json.Members) (fields : Fields) : List (String × Json) :=
  fields.filterMap fun f => (written? s members f).map fun v => (f.1, v)

theorem readFields_eq_found (s : Standing) (fields : Fields) (members : Json.Members) :
    readFields s fields members = fields.map fun f => (f.1, f.2.1, found s members f) :=
  readFields_eq_map s fields members

/-! ## Fields one by one -/

theorem countsAsAbsent_required (shape : Shape) (v : Json) :
    countsAsAbsent .required shape v = false := by
  unfold countsAsAbsent
  split <;> rfl

theorem fits_of_found_ok (h : found s members f = some (.ok v)) : Fits s members f where
  accepted e he := by cases h.symm.trans he
  present hnone := by cases h.symm.trans hnone

theorem fits_of_found_none (h : found s members f = none) (hf : f.2.1.isRequired = false) :
    Fits s members f where
  accepted e he := by cases h.symm.trans he
  present _ := hf

/-- A member counts as absent if it is null and null is allowed for it, unless its shape lets a
truth value stand for absence. -/
theorem countsAsAbsent_eq {shape : Shape}
    (hshape : ∀ whenTrue inner, shape ≠ .flagOr whenTrue inner) (p : Presence) (v : Json) :
    countsAsAbsent p shape v = (v.isNull && p.takesNull) := by
  unfold countsAsAbsent
  split
  · rfl
  · next whenTrue inner => exact absurd rfl (hshape whenTrue inner)
  · next hnull _ =>
    cases v with
    | null => exact absurd rfl hnull
    | _ => rfl

/-- Where null is allowed, whatever else is there is read. -/
theorem found_of_takesNull {key : String} {p : Presence} {shape : Shape}
    (hp : p.takesNull = true) (hshape : ∀ whenTrue inner, shape ≠ .flagOr whenTrue inner) :
    found s members (key, p, shape) = (Json.Members.get? key members).bind fun v =>
      if v.isNull then none else some (conformIn s shape v) := by
  refine Option.bind_congr fun v _ => ?_
  rw [countsAsAbsent_eq hshape, hp, Bool.and_true]

/-- What is found for a field depends on the member of its name alone. -/
theorem found_congr {members' : Json.Members}
    (h : Json.Members.get? f.1 members = Json.Members.get? f.1 members') :
    found s members f = found s members' f := by
  unfold found
  rw [h]

theorem Fits.congr {members' : Json.Members} (hfits : Fits s members f)
    (h : found s members f = found s members' f) : Fits s members' f where
  accepted e := h ▸ hfits.accepted e
  present hnone := hfits.present (h.trans hnone)

/-- Whatever is there for a field that must be there is read, null included. -/
theorem found_req (s : Standing) (members : Json.Members) (key : String) (shape : Shape) :
    found s members (req key shape) = (Json.Members.get? key members).map (conformIn s shape) := by
  unfold found req
  simp only [countsAsAbsent_required, Bool.false_eq_true, if_false]
  cases Json.Members.get? key members <;> rfl

/-! ## Which objects are read -/

theorem settle_eq_ok_iff {readings : List Reading} {ms : List (String × Json)} :
    settle readings = .ok ms ↔
      errors readings = [] ∧ missing? readings = none ∧ ms = written readings := by
  unfold settle
  cases hfirst : firstError? (errors readings) with
  | some e =>
    have hne : errors readings ≠ [] := by
      intro hnil
      rw [hnil] at hfirst
      cases hfirst
    simp [hne]
  | none =>
    rw [firstError?_eq_none hfirst]
    cases hmissing : missing? readings with
    | some key => simp
    | none => simp [eq_comm]

theorem errors_readFields_eq_nil_iff :
    errors (readFields s fields members) = [] ↔
      ∀ f ∈ fields, ∀ e, found s members f ≠ some (.error e) := by
  rw [readFields_eq_found, errors, List.filterMap_map, List.filterMap_eq_nil_iff]
  refine forall₂_congr fun f _ => ?_
  dsimp only [Function.comp_apply]
  cases hfound : found s members f with
  | none => simp
  | some reading => cases reading <;> simp

theorem missing?_readFields_eq_none_iff :
    missing? (readFields s fields members) = none ↔
      ∀ f ∈ fields, found s members f = none → f.2.1.isRequired = false := by
  rw [readFields_eq_found, missing?, Option.map_eq_none_iff, List.find?_eq_none]
  simp only [List.forall_mem_map]
  refine forall₂_congr fun f _ => ?_
  cases hfound : found s members f <;> simp

theorem written_readFields :
    written (readFields s fields members) = entries s members fields := by
  rw [readFields_eq_found, written, entries, List.filterMap_map]
  refine List.filterMap_congr fun f _ => ?_
  unfold written?
  dsimp only [Function.comp_apply]
  cases found s members f with
  | none => cases f.2.1.isKept <;> rfl
  | some reading =>
    cases reading with
    | ok v => rfl
    | error e => cases f.2.1.isKept <;> rfl

theorem settle_readFields_eq_ok_iff {ms : List (String × Json)} :
    settle (readFields s fields members) = .ok ms ↔
      (∀ f ∈ fields, Fits s members f) ∧ ms = entries s members fields := by
  rw [settle_eq_ok_iff, errors_readFields_eq_nil_iff, missing?_readFields_eq_none_iff,
    written_readFields, ← and_assoc]
  refine and_congr_left fun _ => ?_
  constructor
  · rintro ⟨haccepted, hpresent⟩ f hf
    exact ⟨haccepted f hf, hpresent f hf⟩
  · intro hfits
    exact ⟨fun f hf => (hfits f hf).accepted, fun f hf => (hfits f hf).present⟩

/-- A record that shares no members is settled by its own fields. -/
theorem conformIn_record_eq_settle :
    conformIn s (.record name fields []) (.object members)
      = (settle (readFields s fields members)).map Json.ofMembers := by
  rw [conformIn]
  cases settle (readFields s fields members) <;>
    simp [readGroups, bind, Except.bind, pure, Except.pure, Except.map]

/-- What a record is read as, and what is wrong with it, depends on the members of its fields
alone. -/
theorem conformIn_record_congr {members' : Json.Members}
    (h : ∀ f ∈ fields, Json.Members.get? f.1 members = Json.Members.get? f.1 members') :
    conformIn s (.record name fields []) (.object members)
      = conformIn s (.record name fields []) (.object members') := by
  have hfound : readFields s fields members = readFields s fields members' := by
    rw [readFields_eq_found, readFields_eq_found]
    exact List.map_congr_left fun f hf => by rw [found_congr (h f hf)]
  rw [conformIn_record_eq_settle, conformIn_record_eq_settle, hfound]

/-- An object is read as a record that shares no members exactly if each of its fields fits. -/
theorem conformIn_record_eq_ok_iff :
    conformIn s (.record name fields []) (.object members) = .ok v ↔
      (∀ f ∈ fields, Fits s members f) ∧ v = .ofMembers (entries s members fields) := by
  rw [conformIn_record_eq_settle]
  constructor
  · intro hok
    cases hsettle : settle (readFields s fields members) with
    | error e =>
      rw [hsettle] at hok
      cases hok
    | ok ms =>
      rw [hsettle] at hok
      obtain ⟨hfits, rfl⟩ := settle_readFields_eq_ok_iff.mp hsettle
      exact ⟨hfits, (Except.ok.inj hok).symm⟩
  · rintro ⟨hfits, rfl⟩
    rw [settle_readFields_eq_ok_iff.mpr ⟨hfits, rfl⟩]
    rfl

/-! ## What the record holds -/

theorem ne_null_of_conformIn {shared : List Fields} {w : Json}
    (h : conformIn s (.record name fields shared) v = .ok w) : v ≠ .null := by
  rintro rfl
  simp [conformIn] at h

/-- What is read as a record is written as an object. -/
theorem exists_object_of_conformIn {shared : List Fields} {w : Json}
    (h : conformIn s (.record name fields shared) v = .ok w) : ∃ ms, w = .object ms := by
  cases v with
  | object members =>
    rw [conformIn] at h
    cases hfirst : settle (readFields s fields members) with
    | error e =>
      rw [hfirst] at h
      cases h
    | ok first =>
      cases hmore : readGroups shared members with
      | error e =>
        rw [hfirst, hmore] at h
        cases h
      | ok more =>
        rw [hfirst, hmore] at h
        cases h
        exact ⟨_, rfl⟩
  | array items =>
    rw [conformIn] at h
    split at h
    · cases hitems : readItems s name fields.length 0 fields items with
      | error e =>
        rw [hitems] at h
        cases h
      | ok ms =>
        rw [hitems] at h
        cases h
        exact ⟨_, rfl⟩
    · cases h
  | _ => simp [conformIn] at h

theorem mem_entries_iff {key : String} :
    (key, v) ∈ entries s members fields ↔
      ∃ f ∈ fields, f.1 = key ∧ written? s members f = some v := by
  rw [entries, List.mem_filterMap]
  refine exists_congr fun f => and_congr_right fun _ => ?_
  cases written? s members f <;> simp

theorem nodup_keys_entries (hnodup : (fields.map Prod.fst).Nodup) :
    ((entries s members fields).map Prod.fst).Nodup := by
  rw [List.nodup_iff_pairwise_ne, List.pairwise_map] at hnodup ⊢
  rw [entries, List.pairwise_filterMap]
  refine hnodup.imp fun {f g} hne m hm l hl => ?_
  obtain ⟨v, -, rfl⟩ := Option.map_eq_some_iff.mp hm
  obtain ⟨w, -, rfl⟩ := Option.map_eq_some_iff.mp hl
  exact hne

/-- Of fields with different names, what is written for one is found under its name. -/
theorem get?_record (hnodup : (fields.map Prod.fst).Nodup) (hf : f ∈ fields) :
    (Json.ofMembers (entries s members fields)).get? f.1 = written? s members f := by
  rw [Json.ofMembers_eq, Json.get?]
  cases hentry : written? s members f with
  | some w =>
    refine Json.Members.get?_insertAll_of_mem _ _ (nodup_keys_entries hnodup) ?_
    exact mem_entries_iff.mpr ⟨f, hf, rfl, hentry⟩
  | none =>
    refine Json.Members.get?_insertAll_of_not_mem _ _ fun hmem => ?_
    obtain ⟨⟨key, w⟩, hw, hkey⟩ := List.mem_map.mp hmem
    obtain ⟨g, hg, hname, hwritten⟩ := mem_entries_iff.mp hw
    -- the field that was written has the same name, so it is the same field
    have hsame : g = f := List.inj_on_of_nodup_map hnodup hg hf (hname.trans hkey)
    rw [hsame, hentry] at hwritten
    cases hwritten

end Shape

end SessionGate
