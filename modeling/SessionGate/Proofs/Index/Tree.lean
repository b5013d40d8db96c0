import SessionGate.Index.Walk
import SessionGate.Proofs.Path.Names

/-!
# What a program can tell of a tree

The entries of a directory come in some order. No path leads anywhere else for it, and no text of a
file is another; so nothing that is found out by paths depends on it.

- `IsProper`: trees as systems have them, where every entry can be named and no two alike.
- `byEntries`: induction on a tree along the entries of its directories.
- `Rearranged`: the same tree with the entries of any directories in any other order.
- `LooksLike`: trees that no list of names tells apart, but for what a directory lists.
- `Rearranged.looksLike`, `LooksLike.locate?_eq`, `LooksLike.text?_eq`, `LooksLike.level_eq`: where
  paths lead, what files say, and the ignore files of a directory, in any order of the entries.
-/

namespace SessionGate

namespace FileTree

/-- Trees as systems have them: every entry of a directory has a name, and no two the same. -/
inductive IsProper : FileTree → Prop where
  | file (text : String) : IsProper (.file text)
  | link (target : Path) : IsProper (.link target)
  | directory {es : List (Bytes × FileTree)} (named : ∀ e ∈ es, Path.IsName e.1)
      (distinct : (es.map Prod.fst).Nodup) (below : ∀ e ∈ es, IsProper e.2) :
      IsProper (.directory es)

/-- Induction along the entries of directories. -/
theorem byEntries {P : FileTree → Prop} (file : ∀ text, P (.file text))
    (link : ∀ target, P (.link target))
    (directory : ∀ es, (∀ e ∈ es, P e.2) → P (.directory es)) : ∀ t, P t
  | .file text => file text
  | .link target => link target
  | .directory es => directory es fun e _ => byEntries file link directory e.2
decreasing_by
  have hmem := List.sizeOf_lt_of_mem ‹e ∈ es›
  have hpair : sizeOf e = 1 + sizeOf e.1 + sizeOf e.2 := rfl
  simp only [FileTree.directory.sizeOf_spec]
  omega

variable {t u : FileTree} {es fs : List (Bytes × FileTree)} {name : Bytes}

/-! ## Entries and names -/

theorem find?_eq_some_iff (hdistinct : (es.map Prod.fst).Nodup) :
    find? name es = some t ↔ (name, t) ∈ es := by
  induction es with
  | nil => simp [find?]
  | cons e es ih =>
    obtain ⟨n, c⟩ := e
    rw [List.map_cons, List.nodup_cons] at hdistinct
    unfold find? at ih ⊢
    rw [List.find?_cons]
    by_cases hn : n = name
    · subst hn
      have hnot : (n, t) ∉ es := fun hmem => hdistinct.1 (List.mem_map.mpr ⟨_, hmem, rfl⟩)
      simp [hnot, eq_comm]
    · simp [hn, ih hdistinct.2, Ne.symm hn]

/-- Where no two entries have the same name, their order does not matter to a look-up. -/
theorem find?_perm (hperm : es.Perm fs) (hdistinct : (es.map Prod.fst).Nodup) (name : Bytes) :
    find? name es = find? name fs := by
  refine Option.ext fun t => ?_
  have hfs : (fs.map Prod.fst).Nodup := (hperm.map Prod.fst).nodup_iff.mp hdistinct
  rw [find?_eq_some_iff hdistinct, find?_eq_some_iff hfs, hperm.mem_iff]

theorem find?_append (name : Bytes) (es fs : List (Bytes × FileTree)) :
    find? name (es ++ fs) = (find? name es).or (find? name fs) := by
  unfold find?
  rw [List.find?_append, Option.map_or]

theorem find?_cons (name n : Bytes) (t : FileTree) (es : List (Bytes × FileTree)) :
    find? name ((n, t) :: es) = if n = name then some t else find? name es := by
  unfold find?
  rw [List.find?_cons]
  by_cases hn : n = name <;> simp [hn]

@[simp] theorem at?_nil (t : FileTree) : t.at? [] = some t := by
  rw [at?]

theorem at?_cons (t : FileTree) (name : Bytes) (ns : List Bytes) :
    t.at? (name :: ns) = (find? name t.entries).bind fun c => c.at? ns := by
  rw [at?]

theorem at?_append (t : FileTree) (ms ns : List Bytes) :
    t.at? (ms ++ ns) = (t.at? ms).bind fun c => c.at? ns := by
  induction ms generalizing t with
  | nil => simp
  | cons m ms ih => simp [at?_cons, ih, Option.bind_assoc]

/-- What a directory holds under a name. -/
theorem at?_concat {ns : List Bytes} (h : t.at? ns = some (.directory es)) (name : Bytes) :
    t.at? (ns ++ [name]) = find? name es := by
  simp [at?_append, h, at?_cons, entries]

theorem IsProper.distinct_names (h : (FileTree.directory es).IsProper) :
    (es.map Prod.fst).Nodup := by
  cases h with
  | directory _ distinct => exact distinct

theorem IsProper.mem (h : (FileTree.directory es).IsProper) (hmem : (name, t) ∈ es) :
    Path.IsName name ∧ t.IsProper := by
  cases h with
  | directory named _ below => exact ⟨named _ hmem, below _ hmem⟩

/-- Names that lead somewhere are names, and what they lead to is proper. -/
theorem IsProper.at? (h : t.IsProper) {ns : List Bytes} (hu : t.at? ns = some u) :
    u.IsProper ∧ ∀ n ∈ ns, Path.IsName n := by
  induction ns generalizing t with
  | nil =>
    obtain rfl : t = u := by simpa using hu
    exact ⟨h, nofun⟩
  | cons n ns ih =>
    rw [at?_cons, Option.bind_eq_some_iff] at hu
    obtain ⟨c, hc, hu⟩ := hu
    cases h with
    | file => cases hc
    | link => cases hc
    | directory named distinct below =>
      have hmem := (find?_eq_some_iff distinct).mp hc
      obtain ⟨hproper, hnames⟩ := ih (below _ hmem) hu
      exact ⟨hproper, List.forall_mem_cons.mpr ⟨named _ hmem, hnames⟩⟩

/-- The entries of a directory are what stands below it. -/
theorem IsProper.mem_entries_iff (h : t.IsProper) {ns : List Bytes}
    (hat : t.at? ns = some (.directory es)) :
    (name, u) ∈ es ↔ t.at? (ns ++ [name]) = some u := by
  rw [at?_concat hat, find?_eq_some_iff (h.at? hat).1.distinct_names]

/-- A path leads to a place, and to what stands there. -/
theorem resolve?_eq_some_iff {working place : List Bytes} {p : Path} :
    resolve? t working p = some (place, u) ↔ locate? t working p = some place ∧
      t.at? place = some u := by
  unfold resolve?
  rw [Option.bind_eq_some_iff]
  constructor
  · rintro ⟨place', hplace, h⟩
    obtain ⟨u', hu, heq⟩ := Option.map_eq_some_iff.mp h
    obtain ⟨rfl, rfl⟩ := Prod.mk.inj heq
    exact ⟨hplace, hu⟩
  · rintro ⟨hplace, hu⟩
    exact ⟨place, hplace, by rw [hu]; rfl⟩

theorem text?_eq_some_iff {working : List Bytes} {p : Path} {text : String} :
    text? t working p = some text ↔ ∃ place, locate? t working p = some place ∧
      t.at? place = some (.file text) := by
  simp only [← resolve?_eq_some_iff]
  unfold text?
  constructor
  · intro h
    split at h
    · next place found heq =>
      cases h
      exact ⟨place, heq⟩
    · cases h
  · rintro ⟨place, heq⟩
    rw [heq]

/-- Absolute paths with the same names lead to the same place. -/
theorem resolve?_of_names {p q : Path} (hp : Path.isAbsolute p = true)
    (hq : Path.isAbsolute q = true) (h : Path.names p = Path.names q) (working : List Bytes) :
    resolve? t working p = resolve? t working q := by
  have hnotEmpty {p : Path} (hp : Path.isAbsolute p = true) : p.isEmpty = false := by
    cases p with
    | nil => cases hp
    | cons b rest => rfl
  simp only [resolve?, locate?, hnotEmpty hp, hnotEmpty hq, hp, hq, h]

/-! ## The order of entries -/

/-- The same tree with the entries of some directories in another order. -/
inductive Rearranged : FileTree → FileTree → Prop where
  | refl (t : FileTree) : Rearranged t t
  | trans {t u v : FileTree} (first : Rearranged t u) (second : Rearranged u v) : Rearranged t v
  /-- The entries of a directory. -/
  | permute {es fs : List (Bytes × FileTree)} (perm : es.Perm fs) :
      Rearranged (.directory es) (.directory fs)
  /-- Those of directories further below. -/
  | inside {t u : FileTree} (before after : List (Bytes × FileTree)) (name : Bytes)
      (below : Rearranged t u) :
      Rearranged (.directory (before ++ (name, t) :: after))
        (.directory (before ++ (name, u) :: after))

theorem Rearranged.isProper (h : Rearranged t u) (ht : t.IsProper) : u.IsProper := by
  induction h with
  | refl => exact ht
  | trans _ _ ih₁ ih₂ => exact ih₂ (ih₁ ht)
  | permute perm =>
    cases ht with
    | directory named distinct below =>
      exact .directory (fun e he => named e (perm.mem_iff.mpr he))
        ((perm.map Prod.fst).nodup_iff.mp distinct) fun e he => below e (perm.mem_iff.mpr he)
  | @inside t u before after name _ ih =>
    cases ht with
    | directory named distinct below =>
      have hnamed : ∀ e ∈ before ++ (name, u) :: after, Path.IsName e.1 := by
        intro e he
        rcases List.mem_append.mp he with he | he
        · exact named e (List.mem_append_left _ he)
        · rcases List.mem_cons.mp he with rfl | he
          · exact named (name, t) (by simp)
          · exact named e (by simp [he])
      have hbelow : ∀ e ∈ before ++ (name, u) :: after, e.2.IsProper := by
        intro e he
        rcases List.mem_append.mp he with he | he
        · exact below e (List.mem_append_left _ he)
        · rcases List.mem_cons.mp he with rfl | he
          · exact ih (below (name, t) (by simp))
          · exact below e (by simp [he])
      exact .directory hnamed (by simpa using distinct) hbelow

/-- What can be seen of an entry without listing it. -/
def face : FileTree → FileTree
  | directory _ => directory []
  | t => t

/-- No list of names leads to different things in the two trees, but for what a directory lists. -/
def LooksLike (t u : FileTree) : Prop :=
  ∀ ns, (t.at? ns).map face = (u.at? ns).map face

theorem Rearranged.looksLike (h : Rearranged t u) (ht : t.IsProper) : t.LooksLike u := by
  induction h with
  | refl => exact fun _ => rfl
  | trans first _ ih₁ ih₂ =>
    exact fun ns => (ih₁ ht ns).trans (ih₂ (first.isProper ht) ns)
  | permute perm =>
    intro ns
    cases ns with
    | nil => simp [face]
    | cons n ns => rw [at?_cons, at?_cons, entries, entries, find?_perm perm ht.distinct_names]
  | @inside t u before after name _ ih =>
    intro ns
    cases ns with
    | nil => simp [face]
    | cons n ns =>
      have hmem : (name, t) ∈ before ++ (name, t) :: after := by simp
      have hchild : t.LooksLike u := ih (ht.mem hmem).2
      rw [at?_cons, at?_cons, entries, entries, find?_append, find?_append, find?_cons, find?_cons]
      cases find? n before with
      | some c => rfl
      | none =>
        split
        · exact hchild ns
        · rfl

namespace LooksLike

variable {root root' : FileTree}

theorem at?_cases (h : root.LooksLike root') (ns : List Bytes) :
    (root.at? ns = root'.at? ns ∧ ∀ es, root.at? ns ≠ some (.directory es)) ∨
      ∃ es fs, root.at? ns = some (.directory es) ∧ root'.at? ns = some (.directory fs) := by
  have hns := h ns
  cases ht : root.at? ns with
  | none =>
    rw [ht] at hns
    exact .inl ⟨(Option.map_eq_none_iff.mp hns.symm).symm, nofun⟩
  | some t =>
    rw [ht] at hns
    obtain ⟨u, hu, hface⟩ := Option.map_eq_some_iff.mp hns.symm
    rw [hu]
    cases t <;> cases u <;> simp_all [face]

theorem at?_eq_some_file_iff (h : root.LooksLike root') (ns : List Bytes) (text : String) :
    root.at? ns = some (.file text) ↔ root'.at? ns = some (.file text) := by
  rcases h.at?_cases ns with ⟨heq, -⟩ | ⟨es, fs, hes, hfs⟩
  · rw [heq]
  · simp [hes, hfs]

theorem exists_directory_iff (h : root.LooksLike root') (ns : List Bytes) :
    (∃ es, root.at? ns = some (.directory es)) ↔ ∃ es, root'.at? ns = some (.directory es) := by
  rcases h.at?_cases ns with ⟨heq, -⟩ | ⟨es, fs, hes, hfs⟩
  · rw [heq]
  · simp [hes, hfs]

theorem at?_eq_of_not_directory (h : root.LooksLike root') {ns : List Bytes}
    {found : Option FileTree} (hfound : root.at? ns = found)
    (hne : ∀ es, found ≠ some (.directory es)) : root'.at? ns = found := by
  rcases h.at?_cases ns with ⟨heq, -⟩ | ⟨es, -, hes, -⟩
  · exact heq.symm.trans hfound
  · exact absurd (hfound.symm.trans hes) (hne es)

/-- Names lead to the same place. -/
theorem follow_eq (h : root.LooksLike root') (links : Nat) (here names : List Bytes) :
    follow root links here names = follow root' links here names := by
  fun_induction follow root links here names with
  | case1 => rw [follow]
  | case2 links here rest ih => rw [follow, if_pos rfl, ih]
  | case3 links here name rest hup hat =>
    rw [follow, if_neg hup, h.at?_eq_of_not_directory hat nofun]
  | case4 links here name rest hup es hat ih =>
    obtain ⟨fs, hfs⟩ := (h.exists_directory_iff _).mp ⟨es, hat⟩
    rw [follow, if_neg hup, hfs]
    exact ih
  | case5 links here name rest hup text hat hend =>
    rw [follow, if_neg hup, h.at?_eq_of_not_directory hat nofun]
    exact (if_pos hend).symm
  | case6 links here name rest hup text hat hend =>
    rw [follow, if_neg hup, h.at?_eq_of_not_directory hat nofun]
    exact (if_neg hend).symm
  | case7 here name rest hup target hat =>
    rw [follow, if_neg hup, h.at?_eq_of_not_directory hat nofun]
  | case8 here name rest hup target hat links hempty =>
    rw [follow, if_neg hup, h.at?_eq_of_not_directory hat nofun]
    exact (if_pos hempty).symm
  | case9 here name rest hup target hat links start hempty ih =>
    rw [follow, if_neg hup, h.at?_eq_of_not_directory hat nofun, ih]
    exact (if_neg hempty).symm

theorem locate?_eq (h : root.LooksLike root') : locate? root = locate? root' := by
  funext working p
  unfold locate?
  simp only [h.follow_eq]

/-- A path that leads to a directory still does. -/
theorem exists_resolve?_iff (h : root.LooksLike root') {working place : List Bytes} {p : Path} :
    (∃ es, resolve? root working p = some (place, .directory es)) ↔
      ∃ es, resolve? root' working p = some (place, .directory es) := by
  simp only [resolve?_eq_some_iff, exists_and_left, h.locate?_eq, h.exists_directory_iff]

theorem text?_eq (h : root.LooksLike root') : text? root = text? root' := by
  funext working p
  ext text
  simp only [text?_eq_some_iff, h.locate?_eq, h.at?_eq_some_file_iff]

/-- The ignore files of a directory are the same. -/
theorem level_eq (h : root.LooksLike root') : Walk.level root = Walk.level root' := by
  funext working directory path isAbove
  unfold Walk.level Walk.copyRules Walk.sharedDirectory? Walk.rulesBelow Walk.textBelow?
  rw [h.text?_eq, h.locate?_eq]

theorem levelsUp_eq (h : root.LooksLike root') : Walk.levelsUp root = Walk.levelsUp root' := by
  funext working directory path
  unfold Walk.levelsUp
  rw [h.level_eq]

end LooksLike

end FileTree

end SessionGate
