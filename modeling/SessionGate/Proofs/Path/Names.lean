import SessionGate.Path

/-!
# Names along a path

What the names along a path are when the path is put together from names, and how paths compare.

- `IsName`: what a file can be called.
- `chain`: a path continued by names, one after another.
- `names_join`, `names_chain`, `names_absolute`: the names of a path that was put together.
- `nameExtension?_eq_some_iff`: when a name ends in a dot and an extension.
- `le_iff`: paths compare by their names, first difference first, and names by their octets.
-/

namespace SessionGate

namespace Path

/-- What a file can be called: anything without a slash that does not mean this place or the place
above. -/
structure IsName (name : Bytes) : Prop where
  ne_nil : name ≠ []
  ne_dot : name ≠ [dot]
  ne_dotDot : name ≠ [dot, dot]
  no_slash : slash ∉ name

instance (name : Bytes) : Decidable (IsName name) :=
  decidable_of_iff (name ≠ [] ∧ name ≠ [dot] ∧ name ≠ [dot, dot] ∧ slash ∉ name)
    ⟨fun ⟨a, b, c, d⟩ => ⟨a, b, c, d⟩, fun ⟨a, b, c, d⟩ => ⟨a, b, c, d⟩⟩

variable {name : Bytes} {p q : Path}

/-- A path continued by names, one after another. -/
def chain (p : Path) (names : List Bytes) : Path :=
  names.foldl join p

@[simp] theorem chain_nil (p : Path) : chain p [] = p := rfl

@[simp] theorem chain_cons (p : Path) (name : Bytes) (names : List Bytes) :
    chain p (name :: names) = chain (join p name) names := rfl

/-! ## Names of a path that was put together -/

@[simp] theorem names_nil : names [] = [] := rfl

theorem names_append_slash (p q : Path) : names (p ++ slash :: q) = names p ++ names q := by
  unfold names
  rw [List.splitOn_append_cons_self, List.filter_append]

theorem names_slash (q : Path) : names (slash :: q) = names q :=
  names_append_slash [] q

theorem names_of_isName (h : IsName name) : names name = [name] := by
  have hone : List.splitOn slash name = [name] := List.splitOn_eq_singleton h.no_slash
  simp [names, hone, h.ne_nil, h.ne_dot]

theorem not_isAbsolute (h : IsName name) : isAbsolute name = false := by
  cases name with
  | nil => exact absurd rfl h.ne_nil
  | cons b rest =>
    have hb : b ≠ slash := fun heq => h.no_slash (heq ▸ List.mem_cons_self)
    simp [isAbsolute, hb]

theorem names_join (h : IsName name) (p : Path) : names (join p name) = names p ++ [name] := by
  unfold join
  rw [if_neg (by simp [not_isAbsolute h])]
  by_cases hend : p = [] ∨ p.getLast? = some slash
  · rw [if_pos (by simpa using hend)]
    rcases hend with rfl | hslash
    · simp [names_of_isName h]
    -- the slash that `p` ends with is the one that separates
    · obtain ⟨p, rfl⟩ := List.getLast?_eq_some_iff.mp hslash
      rw [List.append_assoc, List.singleton_append, names_append_slash, names_append_slash,
        names_of_isName h, names_nil, List.append_nil]
  · rw [if_neg (by simpa using hend), names_append_slash, names_of_isName h]

theorem names_chain {ns : List Bytes} (h : ∀ n ∈ ns, IsName n) (p : Path) :
    names (chain p ns) = names p ++ ns := by
  induction ns generalizing p with
  | nil => simp
  | cons n ns ih =>
    rw [List.forall_mem_cons] at h
    rw [chain_cons, ih h.2, names_join h.1, List.append_assoc, List.singleton_append]

theorem names_intercalate {ns : List Bytes} (h : ∀ n ∈ ns, IsName n) :
    names (List.intercalate [slash] ns) = ns := by
  induction ns with
  | nil => rfl
  | cons n ns ih =>
    rw [List.forall_mem_cons] at h
    cases ns with
    | nil => rw [List.intercalate_singleton, names_of_isName h.1]
    | cons m ns =>
      rw [List.intercalate_cons_cons, List.append_assoc, List.singleton_append, names_append_slash,
        names_of_isName h.1, ih h.2, List.singleton_append]

theorem names_absolute {ns : List Bytes} (h : ∀ n ∈ ns, IsName n) : names (absolute ns) = ns := by
  rw [absolute, names_slash, names_intercalate h]

theorem absolute_eq_flatMap {ns : List Bytes} (h : ns ≠ []) :
    absolute ns = ns.flatMap (slash :: ·) := by
  induction ns with
  | nil => exact absurd rfl h
  | cons n ns ih =>
    cases ns with
    | nil => simp [absolute]
    | cons m ns =>
      rw [List.flatMap_cons, ← ih (List.cons_ne_nil _ _), absolute, absolute,
        List.intercalate_cons_cons]
      simp

/-! ## The last name, and extensions -/

theorem fileName?_of_names {ns : List Bytes} (hp : names p = ns) (h : ∀ n ∈ ns, IsName n) :
    fileName? p = ns.getLast? := by
  unfold fileName?
  rw [hp]
  cases hlast : ns.getLast? with
  | none => rfl
  | some n => exact if_neg (h n (List.mem_of_getLast? hlast)).ne_dotDot

/-- A path has a last name exactly if its last part does not mean the place above. -/
theorem fileName?_eq_some_iff :
    fileName? p = some name ↔ ∃ front, names p = front ++ [name] ∧ name ≠ [dot, dot] := by
  unfold fileName?
  constructor
  · intro h
    cases hlast : (names p).getLast? with
    | none =>
      rw [hlast] at h
      cases h
    | some n =>
      rw [hlast] at h
      dsimp only at h
      split at h
      · cases h
      · next hne =>
        cases h
        obtain ⟨front, hnames⟩ := List.getLast?_eq_some_iff.mp hlast
        exact ⟨front, hnames, hne⟩
  · rintro ⟨front, hnames, hne⟩
    rw [hnames, List.getLast?_concat]
    exact if_neg hne

/-- What follows the last dot of a name is its extension, if anything stands before that dot. -/
theorem nameExtension?_eq_some_iff {e : Bytes} (he : dot ∉ e) :
    nameExtension? name = some e ↔ ∃ stem, stem ≠ [] ∧ name = stem ++ dot :: e := by
  constructor
  · intro h
    unfold nameExtension? at h
    dsimp only at h
    split at h
    · cases h
    next hlong =>
    cases h
    have hcut := List.takeWhile_append_dropWhile (p := fun b => b != dot) (l := name.reverse)
    cases hrest : name.reverse.dropWhile fun b => b != dot with
    | nil =>
      rw [hrest, List.append_nil] at hcut
      rw [hcut] at hlong
      simp at hlong
    | cons d before =>
      have hd : d = dot := by
        have := List.head?_dropWhile_not (fun b => b != dot) name.reverse
        simpa [hrest] using this
      rw [hrest, hd] at hcut
      have hname : name
          = before.reverse ++ dot :: (name.reverse.takeWhile fun b => b != dot).reverse := by
        simpa using congrArg List.reverse hcut.symm
      refine ⟨before.reverse, fun hnil => hlong ?_, hname⟩
      rw [hnil] at hname
      have hlength := congrArg List.length hname
      simp only [List.nil_append, List.length_cons] at hlength
      omega
  · rintro ⟨stem, hstem, rfl⟩
    have hafter : (stem ++ dot :: e).reverse.takeWhile (fun b => b != dot) = e.reverse := by
      have hall : ∀ b ∈ e.reverse, (b != dot) = true := by
        intro b hb
        simpa using fun heq : b = dot => he (heq ▸ List.mem_reverse.mp hb)
      simp [List.takeWhile_append_of_pos hall]
    have hpos : 0 < stem.length := List.length_pos_iff.mpr hstem
    unfold nameExtension?
    dsimp only
    rw [hafter, List.reverse_reverse, if_neg]
    simp only [List.length_append, List.length_cons]
    omega

theorem extension?_of_isName (h : IsName name) : extension? name = nameExtension? name := by
  simp [extension?, fileName?, names_of_isName h, h.ne_dotDot]

/-! ## Order -/

theorem bytesLe_iff {a b : Bytes} : bytesLe a b = true ↔ a ≤ b := by
  induction a generalizing b with
  | nil => simp [bytesLe]
  | cons x a ih =>
    cases b with
    | nil => simp [bytesLe]
    | cons y b =>
      rw [bytesLe, List.cons_le_cons_iff]
      split
      · next heq => simp [heq, ih, UInt8.lt_irrefl]
      · next hne => simp [hne]

theorem namesLe_iff {xs ys : List Bytes} : namesLe xs ys = true ↔ xs ≤ ys := by
  induction xs generalizing ys with
  | nil => simp [namesLe]
  | cons a xs ih =>
    cases ys with
    | nil => simp [namesLe]
    | cons b ys =>
      rw [namesLe, List.cons_le_cons_iff]
      split
      · next heq => simp [heq, ih, List.lt_irrefl]
      · next hne =>
        rw [bytesLe_iff, List.le_iff_lt_or_eq]
        simp [hne]

theorem le_iff : le p q = true ↔ names p ≤ names q :=
  namesLe_iff

theorem le_trans (p q r : Path) (hpq : le p q = true) (hqr : le q r = true) : le p r = true := by
  rw [le_iff] at hpq hqr ⊢
  exact List.le_trans hpq hqr

theorem le_total (p q : Path) : (le p q || le q p) = true := by
  rw [Bool.or_eq_true, le_iff, le_iff]
  exact List.le_total _ _

end Path

end SessionGate
