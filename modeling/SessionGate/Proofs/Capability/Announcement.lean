import SessionGate.Proofs.Json.Members
import SessionGate.Proofs.Schema.NormalForm
import SessionGate.Schema.ServerCapabilities

/-!
# The announced document in normal form

A document is written as an object and read against the shape of the announcement before the client
gets it. When every entry is in normal form, reading gives back the very same object, so that no
accepted handshake is lost on the way.

- `Document.get?_members`: the object of a document holds the entry of each family under its key.
- `Document.IsNormal`: every entry is in normal form for its family.
- `Document.conform_toJson`: such a document reads back as itself.
- `Document.typed_eq_error`: one with an entry of another shape is refused for it.
- `Document.conform_handshakeResult`: the answer to a handshake reads back like the document in it.
- `isNormal_build_standard`: the standard providers make one under any overrides.
-/

namespace SessionGate

open Shape

namespace Document

/-- The families are told apart by their keys, so no key occurs twice. -/
theorem nodup_keys_entries (d : Document) : (d.entries.map Prod.fst).Nodup := by
  -- leaving families out keeps the keys in the order of the families
  have hsub : ∀ fs : List Feature,
      ((fs.filterMap fun f => (d.entry? f).map fun v => (f.key, v)).map Prod.fst).Sublist
        (fs.map Feature.key) := by
    intro fs
    induction fs with
    | nil => exact List.Sublist.slnil
    | cons f rest ih =>
      rw [List.filterMap_cons]
      cases d.entry? f with
      | none => exact ih.cons _
      | some v => exact ih.cons_cons _
  exact (hsub Feature.all).nodup (by decide)

theorem mem_entries_iff (d : Document) (f : Feature) (v : Json) :
    (f.key, v) ∈ d.entries ↔ d.entry? f = some v := by
  constructor
  · intro h
    obtain ⟨g, -, hg⟩ := List.mem_filterMap.mp h
    obtain ⟨w, hw, heq⟩ := Option.map_eq_some_iff.mp hg
    obtain ⟨hkey, rfl⟩ := Prod.mk.inj heq
    rw [← Feature.key_injective hkey]
    exact hw
  · intro h
    exact List.mem_filterMap.mpr ⟨f, f.mem_all, by rw [h]; rfl⟩

/-- The members of the object that a document is written as. -/
def members (d : Document) : Json.Members :=
  Json.Members.insertAll d.entries []

theorem get?_members (d : Document) (f : Feature) :
    Json.Members.get? f.key d.members = d.entry? f := by
  cases hentry : d.entry? f with
  | some v =>
    exact Json.Members.get?_insertAll_of_mem _ [] d.nodup_keys_entries
      ((d.mem_entries_iff f v).mpr hentry)
  | none =>
    refine Json.Members.get?_insertAll_of_not_mem _ [] fun hmem => ?_
    -- a member under this key would be the entry of this very family
    obtain ⟨m, hm, hkey⟩ := List.mem_map.mp hmem
    have hf : d.entry? f = some m.2 := (d.mem_entries_iff f m.2).mp (by rw [← hkey]; exact hm)
    rw [hf] at hentry
    cases hentry

/-- The fields of the announcement, one for each family. -/
def fields : Fields :=
  Feature.all.map fun f => opt f.key f.shape

theorem held_members (d : Document) : held fields d.members = d.entries := by
  rw [held, fields, List.filterMap_map]
  refine List.filterMap_congr fun f _ => ?_
  show (Json.Members.get? f.key d.members).map _ = _
  rw [d.get?_members]
  rfl

/-- Every entry is in normal form for its family, and none counts as absent. -/
def IsNormal (d : Document) : Prop :=
  ∀ f v, d.entry? f = some v →
    conformIn .own f.shape v = .ok v ∧ countsAsAbsent .optional f.shape v = false

theorem IsNormal.holdsNormal {d : Document} (h : d.IsNormal) :
    HoldsNormal .own fields d.members where
  normal m hm v hv := by
    obtain ⟨f, -, rfl⟩ := List.mem_map.mp hm
    exact h f v ((d.get?_members f).symm.trans hv)
  absent m hm _ := by
    obtain ⟨f, -, rfl⟩ := List.mem_map.mp hm
    exact ⟨rfl, rfl⟩

/-- A document whose entries are in normal form reads back as itself. -/
theorem conform_toJson {d : Document} (h : d.IsNormal) :
    serverCapabilities.conform d.toJson = .ok d.toJson := by
  show conformIn .own (.record _ fields []) (.object d.members) = .ok d.toJson
  rw [conformIn_record h.holdsNormal, held_members]
  rfl

/-- A document is refused for the error of an entry, if no entry is refused for another one. -/
theorem typed_eq_error {d : Document} {e : ShapeError}
    (hbad : ∃ f v, d.entry? f = some v ∧ countsAsAbsent .optional f.shape v = false ∧
      f.shape.conform v = .error e)
    (honly : ∀ f v e', d.entry? f = some v → f.shape.conform v = .error e' → e' = e) :
    d.typed = .error e := by
  have hfield (f : Feature) : opt f.key f.shape ∈ fields := List.mem_map_of_mem f.mem_all
  show conformIn .own (.record "ServerCapabilities" fields []) (.object d.members) = .error e
  refine conformIn_record_eq_error ?_ fun x hx => ?_
  · obtain ⟨f, v, hentry, hpresent, hconform⟩ := hbad
    have hget := (d.get?_members f).trans hentry
    exact ⟨f.key, mem_errors_readFields.mpr ⟨_, hfield f, rfl, v, hget, hpresent, hconform⟩⟩
  · obtain ⟨m, hm, -, v, hget, -, hconform⟩ := mem_errors_readFields.mp hx
    obtain ⟨f, -, rfl⟩ := List.mem_map.mp hm
    exact honly f v x.2 ((d.get?_members f).symm.trans hget) hconform

/-- The fields of the answer to a handshake. -/
def answerFields : Fields :=
  [req "capabilities" serverCapabilities,
    opt "serverInfo" (.record "ServerInfo" [req "name" .string, opt "version" .string] [])]

/-- The members of the answer to a handshake. -/
def answerMembers (d : Document) : Json.Members :=
  [("capabilities", d.toJson),
    ("serverInfo", .ofMembers [("name", .string serverName), ("version", .string serverVersion)])]

theorem handshakeResult_eq (d : Document) : handshakeResult d = .object d.answerMembers :=
  Json.ofMembers_pair _ _ (by decide) (by decide)

theorem IsNormal.holdsNormal_answer {d : Document} (h : d.IsNormal) :
    HoldsNormal .own answerFields d.answerMembers where
  normal f hf v hv := by
    rcases List.mem_pair.mp hf with rfl | rfl
    · cases hv
      exact ⟨conform_toJson h, rfl⟩
    · cases hv
      exact ⟨rfl, rfl⟩
  absent f hf hv := by
    rcases List.mem_pair.mp hf with rfl | rfl <;> cases hv

/-- The answer to a handshake reads back as itself if the document in it does. -/
theorem conform_handshakeResult {d : Document} (h : d.IsNormal) :
    handshakeResultShape.conform (handshakeResult d) = .ok (handshakeResult d) := by
  have hheld : held answerFields d.answerMembers = d.answerMembers := rfl
  rw [handshakeResult_eq]
  show conformIn .own (.record _ answerFields []) (.object d.answerMembers) = _
  rw [conformIn_record h.holdsNormal_answer, hheld]
  exact congrArg Except.ok d.handshakeResult_eq

end Document

/-! ## The standard providers -/

/-- What the standard providers announce for a family: its options, or that it is there. -/
def Provider.standardEntry (tag : String) (f : Feature) : Json :=
  Document.announced f ((Document.providerOf? (Provider.standard tag) f).bind Provider.options)

/-- Every family has a standard provider, and it announces the family. -/
theorem isAnnounced_standard (tag : String) (f : Feature) :
    (Document.providerOf? (Provider.standard tag) f).any Provider.isEnabled = true := by
  cases f <;> rfl

/-- A family switched off has no entry, any other the one its standard provider announces. -/
theorem entry?_build_standard (tag : String) (o : Overrides) (f : Feature) :
    Document.entry? (Document.build (Provider.standard tag) o) f
      = if o.choice f = some false then none else some (Provider.standardEntry tag f) := by
  show (if o.choice f = some false then none else _) = _
  by_cases hoff : o.choice f = some false
  · rw [if_pos hoff, if_pos hoff]
  · rw [if_neg hoff, if_neg hoff]
    have hannounced : Document.isAnnounced (o.choice f)
        (Document.providerOf? (Provider.standard tag) f) = true := by
      rw [Document.isAnnounced, isAnnounced_standard]
      cases hchoice : o.choice f with
      | none => rfl
      | some on =>
        cases on with
        | true => rfl
        | false => exact absurd hchoice hoff
    rw [if_pos hannounced]
    rfl

theorem conformIn_standardEntry (tag : String) (f : Feature) :
    conformIn .own f.shape (Provider.standardEntry tag f) = .ok (Provider.standardEntry tag f) := by
  cases f <;> rfl

theorem countsAsAbsent_standardEntry (tag : String) (f : Feature) :
    countsAsAbsent .optional f.shape (Provider.standardEntry tag f) = false := by
  cases f <;> rfl

/-- The standard providers make a document in normal form, whatever is switched on or off. -/
theorem isNormal_build_standard (tag : String) (o : Overrides) :
    (Document.build (Provider.standard tag) o).IsNormal := by
  intro f v hv
  rw [entry?_build_standard] at hv
  split at hv
  · cases hv
  · cases hv
    exact ⟨conformIn_standardEntry tag f, countsAsAbsent_standardEntry tag f⟩

end SessionGate
