import SessionGate.Proofs.Index.Listing

/-!
# What a listing should leave out

Hidden entries, and those that the `.gitignore` files of a workspace exclude, are to be left out of
a listing. They are, as long as no rule speaks for them and the `.gitignore` file belongs to the
repository that the entry is in; a workspace that is no repository is listed as if it had no
`.gitignore` file.

- `Walk.OnWay`: the entries on the way that a chain of names leads.
- `Walk.Spot.IsExcluded`: the entries that are to be left out.
- `Walk.Spot.Spares`: the reasons why one of them is let through all the same.
- `Walk.isExcluded_iff_spares`: there are no others.
- `Walk.IsStrict`: a way inside one repository, without rules that keep anything.
- `exclusions_of_listed`: what is excluded on the way of a listed file, exactly, and where nothing
  is.
- `excluded_and_listed`: the smallest workspaces where something is, one for each reason.
-/

namespace SessionGate

namespace Walk

/-! ## What is to be left out -/

/-- The entries on the way that a chain of names leads: the directories, and the file. -/
inductive OnWay (above : List Bytes) (name : Bytes) : List Bytes → Bytes → Bool → Prop where
  | directory (ns : List Bytes) (n : Bytes) (on : ns ++ [n] <+: above) :
      OnWay above name ns n true
  | file : OnWay above name above name false

/-- The directories from the nearest one up to the one where the walk starts. -/
def ownLevels (levels : List Level) : List Level :=
  levels.takeWhile fun l => !l.isAbove

/-- What the `.gitignore` files of the workspace say of an entry, wherever repositories begin. -/
def ownVerdict? (levels : List Level) (c : Candidate) : Option Verdict :=
  kindVerdict? Level.repository (ownLevels levels) c

/-- An entry that is to be left out: it is hidden, or a `.gitignore` file of the workspace excludes
it. -/
def Spot.IsExcluded (s : Spot) (isDirectory : Bool) (name : Bytes) : Prop :=
  isHidden name = true ∨ ownVerdict? s.levels (s.candidate isDirectory name) = some .ignore

/-- What the `.gitignore` file of a directory says of an entry. -/
def Level.repositoryVerdict? (l : Level) (c : Candidate) : Option Verdict :=
  IgnoreRules.verdict? l.repository c.isDirectory (l.view c)

/-- Why an entry that is to be left out is let through. -/
inductive Spot.Spares (s : Spot) (isDirectory : Bool) (name : Bytes) : Prop where
  /-- It is hidden, and the rules that count keep it. -/
  | kept (hidden : isHidden name = true)
      (keeps : verdict? s.levels (s.candidate isDirectory name) = some .keep)
  /-- It is excluded by a `.gitignore` file, and kept by an `.ignore` file. -/
  | overruled (excluded : ownVerdict? s.levels (s.candidate isDirectory name) = some .ignore)
      (keeps : kindVerdict? Level.general s.levels (s.candidate isDirectory name) = some .keep)
  /-- The `.gitignore` file that excludes it does not count: there is no repository, or the one that
  the entry is in begins nearer to it. -/
  | outside (nearer : List Level) (l : Level) (farther : List Level)
      (cut : s.levels = nearer ++ l :: farther) (own : ∀ m ∈ nearer ++ [l], m.isAbove = false)
      (silent : ∀ m ∈ nearer, m.repositoryVerdict? (s.candidate isDirectory name) = none)
      (excludes : l.repositoryVerdict? (s.candidate isDirectory name) = some .ignore)
      (outside : (∀ m ∈ s.levels, m.isRepositoryRoot = false) ∨
        ∃ m ∈ nearer, m.isRepositoryRoot = true)

section Verdicts

variable {levels : List Level} {c : Candidate}

/-- The nearest directory that says anything decides. -/
theorem kindVerdict?_eq_some_iff {kind : Level → List Rule} {v : Verdict} :
    kindVerdict? kind levels c = some v ↔ ∃ nearer l farther, levels = nearer ++ l :: farther ∧
      IgnoreRules.verdict? (kind l) c.isDirectory (l.view c) = some v ∧
      ∀ m ∈ nearer, IgnoreRules.verdict? (kind m) c.isDirectory (m.view c) = none :=
  List.findSome?_eq_some_iff

theorem ownVerdict?_eq_some_iff {v : Verdict} :
    ownVerdict? levels c = some v ↔ ∃ nearer l farther, levels = nearer ++ l :: farther ∧
      (∀ m ∈ nearer ++ [l], m.isAbove = false) ∧ l.repositoryVerdict? c = some v ∧
      ∀ m ∈ nearer, m.repositoryVerdict? c = none := by
  rw [ownVerdict?, kindVerdict?_eq_some_iff]
  constructor
  · rintro ⟨nearer, l, more, hown, hl, hnearer⟩
    have hlevels := List.takeWhile_append_dropWhile (p := fun l => !l.isAbove) (l := levels)
    have hall : ∀ m ∈ ownLevels levels, m.isAbove = false := by
      have hpass := List.all_eq_true.mp
        (List.all_takeWhile (p := fun l => !l.isAbove) (l := levels))
      intro m hm
      simpa using hpass m hm
    refine ⟨nearer, l, more ++ levels.dropWhile fun l => !l.isAbove, ?_, ?_, hl, hnearer⟩
    · rw [← List.cons_append, ← List.append_assoc, ← hown]
      exact hlevels.symm
    · intro m hm
      refine hall m ?_
      rw [hown, List.append_cons]
      exact List.mem_append_left _ hm
  · rintro ⟨nearer, l, farther, rfl, hown, hl, hnearer⟩
    refine ⟨nearer, l, ownLevels farther, ?_, hl, hnearer⟩
    have hpass : ∀ m ∈ nearer ++ [l], (!m.isAbove) = true := fun m hm => by simp [hown m hm]
    rw [List.append_cons, ownLevels, List.takeWhile_append_of_pos hpass, List.append_assoc]
    rfl

theorem upToRepository_append {nearer : List Level}
    (h : ∀ m ∈ nearer, m.isRepositoryRoot = false) (levels : List Level) :
    upToRepository (nearer ++ levels) = nearer ++ upToRepository levels := by
  induction nearer with
  | nil => rfl
  | cons m nearer ih =>
    rw [List.forall_mem_cons] at h
    rw [List.cons_append, upToRepository, h.1, ih h.2]
    rfl

/-- Inside a repository the nearest `.gitignore` file that says anything decides, if the repository
does not begin before it. -/
theorem kindVerdict?_repositoryLevels {nearer farther : List Level} {l : Level} {v : Verdict}
    (hroot : ∃ m ∈ nearer ++ l :: farther, m.isRepositoryRoot = true)
    (hnearer : ∀ m ∈ nearer, m.isRepositoryRoot = false)
    (hsilent : ∀ m ∈ nearer, m.repositoryVerdict? c = none) (hl : l.repositoryVerdict? c = some v) :
    kindVerdict? Level.repository (repositoryLevels (nearer ++ l :: farther)) c = some v := by
  have hcount : repositoryLevels (nearer ++ l :: farther)
      = nearer ++ upToRepository (l :: farther) := by
    rw [repositoryLevels, if_pos (List.any_eq_true.mpr hroot), upToRepository_append hnearer]
  obtain ⟨more, hmore⟩ : ∃ more, upToRepository (l :: farther) = l :: more := by
    rw [upToRepository]
    split
    · exact ⟨[], rfl⟩
    · exact ⟨_, rfl⟩
  rw [hcount, hmore, kindVerdict?_eq_some_iff]
  exact ⟨nearer, l, more, rfl, hl, hsilent⟩

/-- What speaks for an entry is a rule that keeps it. -/
theorem exists_keeps_of_verdict? {rules : List Rule} {isDirectory : Bool} {path : Bytes}
    (h : IgnoreRules.verdict? rules isDirectory path = some .keep) :
    ∃ r ∈ rules, r.keeps = true := by
  obtain ⟨r, hr, hkeep⟩ := Option.map_eq_some_iff.mp h
  refine ⟨r, List.mem_reverse.mp (List.mem_of_find?_eq_some hr), ?_⟩
  unfold Rule.verdict at hkeep
  split at hkeep
  · assumption
  · cases hkeep

theorem exists_keeps_of_kindVerdict? {kind : Level → List Rule}
    (h : kindVerdict? kind levels c = some .keep) :
    ∃ l ∈ levels, ∃ r ∈ kind l, r.keeps = true := by
  obtain ⟨nearer, l, farther, rfl, hl, -⟩ := kindVerdict?_eq_some_iff.mp h
  exact ⟨l, by simp, exists_keeps_of_verdict? hl⟩

/-- The directories whose repository rules count are some of those on the way. -/
theorem mem_of_mem_repositoryLevels {l : Level} (h : l ∈ repositoryLevels levels) : l ∈ levels := by
  have hup : ∀ levels : List Level, ∀ l ∈ upToRepository levels, l ∈ levels := by
    intro levels
    induction levels with
    | nil => exact nofun
    | cons m levels ih =>
      intro l hl
      rw [upToRepository] at hl
      split at hl
      · exact List.mem_cons.mpr (.inl (List.mem_singleton.mp hl))
      · rcases List.mem_cons.mp hl with rfl | hl
        · exact List.mem_cons_self
        · exact List.mem_cons_of_mem _ (ih l hl)
  unfold repositoryLevels at h
  split at h
  · exact hup levels l h
  · cases h

/-- All rules of a directory. -/
def Level.rules (l : Level) : List Rule :=
  l.general ++ l.repository ++ l.copy

theorem exists_keeps_of_keep (h : verdict? levels c = some .keep) :
    ∃ l ∈ levels, ∃ r ∈ l.rules, r.keeps = true := by
  unfold verdict? at h
  dsimp only at h
  rw [Option.or_eq_some_iff, Option.or_eq_some_iff] at h
  rcases h with hgeneral | ⟨-, hrepository | ⟨-, hcopy⟩⟩
  · obtain ⟨l, hl, r, hr, hkeeps⟩ := exists_keeps_of_kindVerdict? hgeneral
    exact ⟨l, hl, r, by simp [Level.rules, hr], hkeeps⟩
  · obtain ⟨l, hl, r, hr, hkeeps⟩ := exists_keeps_of_kindVerdict? hrepository
    exact ⟨l, mem_of_mem_repositoryLevels hl, r, by simp [Level.rules, hr], hkeeps⟩
  · obtain ⟨l, hl, r, hr, hkeeps⟩ := exists_keeps_of_kindVerdict? hcopy
    exact ⟨l, mem_of_mem_repositoryLevels hl, r, by simp [Level.rules, hr], hkeeps⟩

end Verdicts

/-! ## What is let through -/

section Spared

variable {s : Spot} {isDirectory : Bool} {name : Bytes}

/-- An entry is let through if the rules keep it, or say nothing and it is not hidden. -/
theorem not_skips_iff :
    ¬s.Skips isDirectory name ↔ verdict? s.levels (s.candidate isDirectory name) = some .keep ∨
      verdict? s.levels (s.candidate isDirectory name) = none ∧ isHidden name = false := by
  unfold Spot.Skips isSkipped
  cases verdict? s.levels (s.candidate isDirectory name) with
  | none => simp
  | some v => cases v <;> simp

/-- A `.gitignore` file that counts is heard, unless an `.ignore` file keeps the entry. -/
theorem keeps_of_not_skips (hkept : ¬s.Skips isDirectory name)
    (hignore : kindVerdict? Level.repository (repositoryLevels s.levels)
      (s.candidate isDirectory name) = some .ignore) :
    kindVerdict? Level.general s.levels (s.candidate isDirectory name) = some .keep := by
  rw [not_skips_iff] at hkept
  unfold verdict? at hkept
  dsimp only at hkept
  rw [hignore] at hkept
  cases hgeneral : kindVerdict? Level.general s.levels (s.candidate isDirectory name) with
  | none => simp [hgeneral] at hkept
  | some v => cases v <;> simp [hgeneral] at hkept ⊢

/-- Among the entries that are let through, those that should not be have one of the reasons. -/
theorem isExcluded_iff_spares (hkept : ¬s.Skips isDirectory name) :
    s.IsExcluded isDirectory name ↔ s.Spares isDirectory name := by
  constructor
  · rintro (hhidden | hexcluded)
    · rcases not_skips_iff.mp hkept with hkeep | ⟨-, hvisible⟩
      · exact .kept hhidden hkeep
      · cases hhidden.symm.trans hvisible
    · obtain ⟨nearer, l, farther, hcut, hown, hl, hsilent⟩ := ownVerdict?_eq_some_iff.mp hexcluded
      by_cases houtside : (∀ m ∈ s.levels, m.isRepositoryRoot = false) ∨
          ∃ m ∈ nearer, m.isRepositoryRoot = true
      · exact .outside nearer l farther hcut hown hsilent hl houtside
      -- otherwise the file that excludes the entry counts
      · rw [not_or] at houtside
        have hroot : ∃ m ∈ nearer ++ l :: farther, m.isRepositoryRoot = true := by
          simpa [hcut] using houtside.1
        have hnearer : ∀ m ∈ nearer, m.isRepositoryRoot = false := by
          simpa using houtside.2
        have hheard := kindVerdict?_repositoryLevels hroot hnearer hsilent hl
        exact .overruled hexcluded (keeps_of_not_skips hkept (hcut ▸ hheard))
  · intro hspares
    cases hspares with
    | kept hidden => exact .inl hidden
    | overruled excluded => exact .inr excluded
    | outside nearer l farther cut own silent excludes =>
      exact .inr (ownVerdict?_eq_some_iff.mpr ⟨nearer, l, farther, cut, own, excludes, silent⟩)

end Spared

/-! ## Ways inside one repository -/

section Strict

variable {root : FileTree} {working : List Bytes} {s : Spot} {above ns : List Bytes}
  {name n : Bytes} {isDirectory : Bool}

/-- Everything on the way of a listed file has been let through. -/
theorem IsListed.not_skips (h : IsListed root working s above name)
    (hway : OnWay above name ns n isDirectory) :
    ¬(s.along root working ns).Skips isDirectory n := by
  cases hway with
  | directory _ _ on => exact (h.entered ns n on).2.2
  | file => exact h.kept

/-- The directories on the way from a start, before those that the start has above it. -/
theorem levels_along (root : FileTree) (working : List Bytes) (s : Spot) (ns : List Bytes) :
    ∃ below, (s.along root working ns).levels = below ++ s.levels ∧
      ∀ l ∈ below, ∃ ms m, ms ++ [m] <+: ns ∧
        l = level root working (s.place ++ ms ++ [m]) (s.path.chain (ms ++ [m])) false := by
  induction ns generalizing s with
  | nil => exact ⟨[], rfl, nofun⟩
  | cons n ns ih =>
    obtain ⟨below, hlevels, hbelow⟩ := ih (s.enter root working n)
    refine ⟨below ++ [level root working (s.place ++ [n]) (Path.join s.path n) false], ?_, ?_⟩
    · rw [Spot.along_cons, hlevels, List.append_assoc]
      rfl
    · intro l hl
      rcases List.mem_append.mp hl with hl | hl
      · obtain ⟨ms, m, hms, rfl⟩ := hbelow l hl
        refine ⟨n :: ms, m, List.cons_prefix_cons.mpr ⟨rfl, hms⟩, ?_⟩
        simp [Spot.enter]
      · rw [List.mem_singleton] at hl
        exact ⟨[], n, by simp, by simpa using hl⟩

/-- A way inside one repository, which begins where the walk starts or above, along directories
whose ignore files hold no rule that keeps anything. -/
structure IsStrict (root : FileTree) (working : List Bytes) (s : Spot) (above : List Bytes) :
    Prop where
  inside : ∃ l ∈ s.levels, l.isRepositoryRoot = true
  single : ∀ ns n, ns ++ [n] <+: above → (level root working (s.place ++ ns ++ [n])
    (s.path.chain (ns ++ [n])) false).isRepositoryRoot = false
  strict : ∀ l ∈ (s.along root working above).levels, ∀ r ∈ l.rules, r.keeps = false

/-- The directory that a walk starts in, and those above it. -/
theorem levels_start (root : FileTree) (working place : List Bytes) (path : Path) :
    ∃ l higher, (Spot.start root working place path).levels = l :: higher ∧
      ∀ m ∈ higher, m.isAbove = true := by
  refine ⟨_, _, rfl, fun m hm => ?_⟩
  obtain ⟨k, -, rfl⟩ := List.mem_map.mp hm
  rfl

/-- On a strict way nothing has a reason to be let through. -/
theorem IsStrict.not_spares {place : List Bytes} {path : Path}
    (h : IsStrict root working (.start root working place path) above)
    (hway : OnWay above name ns n isDirectory) :
    ¬((Spot.start root working place path).along root working ns).Spares isDirectory n := by
  obtain ⟨first, higher, hstart, hhigher⟩ := levels_start root working place path
  generalize Spot.start root working place path = s at h hstart
  have hbegins : ns <+: above := by
    cases hway with
    | directory _ _ on => exact (List.prefix_append ns [n]).trans on
    | file => exact List.prefix_rfl
  have hmem : ∀ l ∈ (s.along root working ns).levels, l ∈ (s.along root working above).levels := by
    obtain ⟨rest, rfl⟩ := hbegins
    obtain ⟨below, hlevels, -⟩ := levels_along root working (s.along root working ns) rest
    intro l hl
    rw [show s.along root working (ns ++ rest) = (s.along root working ns).along root working rest
      from List.foldl_append .., hlevels]
    exact List.mem_append_right _ hl
  have hstrict : ¬∃ l ∈ (s.along root working ns).levels, ∃ r ∈ l.rules, r.keeps = true := by
    rintro ⟨l, hl, r, hr, hkeeps⟩
    cases (h.strict l (hmem l hl) r hr).symm.trans hkeeps
  intro hspares
  cases hspares with
  | kept hidden keeps => exact hstrict (exists_keeps_of_keep keeps)
  | overruled excluded keeps =>
    obtain ⟨l, hl, r, hr, hkeeps⟩ := exists_keeps_of_kindVerdict? keeps
    exact hstrict ⟨l, hl, r, by simp [Level.rules, hr], hkeeps⟩
  | outside nearer l farther cut own silent excludes outside =>
    obtain ⟨below, hlevels, hbelow⟩ := levels_along root working s ns
    rcases outside with hnone | ⟨m, hm, hroot⟩
    · obtain ⟨m, hm, hroot⟩ := h.inside
      rw [hlevels] at hnone
      cases (hnone m (List.mem_append_right _ hm)).symm.trans hroot
    -- a nearer root would be one of the directories below the start
    · have hm : m ∈ below := by
        rw [hlevels, hstart] at cut
        rcases List.append_eq_append_iff.mp cut with ⟨c, hc, hrest⟩ | ⟨c, rfl, -⟩
        · cases c with
          | nil =>
            rw [List.append_nil] at hc
            exact hc ▸ hm
          | cons x c =>
            have hl : l ∈ higher := by
              rw [(List.cons.inj hrest).2]
              simp
            cases (hhigher l hl).symm.trans (own l (by simp))
        · exact List.mem_append_left _ hm
      obtain ⟨ms, k, hms, rfl⟩ := hbelow m hm
      cases (h.single ms k (hms.trans hbegins)).symm.trans hroot

end Strict

end Walk

open Walk

/-- **What a listing leaves out.** On the way of a listed file, an entry is hidden or excluded by a
`.gitignore` file of the workspace exactly if there is a reason to let it through: rules that count
keep it, an `.ignore` file keeps it, or the `.gitignore` file does not count for it. On a way inside
one repository without rules that keep anything there is no such entry. -/
theorem exclusions_of_listed {root : FileTree} (hroot : root.IsProper) {working place : List Bytes}
    {path : Path} {es : List (Bytes × FileTree)}
    (h : FileTree.resolve? root working path = some (place, .directory es)) :
    ∃ files, sourceFiles root working path = .ok files ∧
      (∀ p, p ∈ files ↔ path.isStandardInput = false ∧
        ∃ above name, p = path.chain (above ++ [name]) ∧
          IsListed root working (.start root working place path) above name) ∧
      ∀ above name, IsListed root working (.start root working place path) above name →
        (∀ ns n isDirectory, OnWay above name ns n isDirectory →
          (((Spot.start root working place path).along root working ns).IsExcluded isDirectory n ↔
            ((Spot.start root working place path).along root working ns).Spares isDirectory n)) ∧
        (IsStrict root working (.start root working place path) above →
          ∀ ns n isDirectory, OnWay above name ns n isDirectory →
            ¬((Spot.start root working place path).along root working ns).IsExcluded
              isDirectory n) := by
  have hok := sourceFiles_eq_ok h
  refine ⟨_, hok, mem_sourceFiles_iff hroot h hok, fun above name hlisted => ⟨?_, ?_⟩⟩
  · intro ns n isDirectory hway
    exact isExcluded_iff_spares (hlisted.not_skips hway)
  · intro hstrict ns n isDirectory hway
    rw [isExcluded_iff_spares (hlisted.not_skips hway)]
    exact hstrict.not_spares hway

/-- A directory of files, each with its text. -/
def FileTree.ofFiles (files : List (String × String)) : FileTree :=
  .directory (files.map fun f => (textBytes f.1, .file f.2))

theorem FileTree.isProper_ofFiles {files : List (String × String)}
    (hnamed : ∀ f ∈ files, Path.IsName (textBytes f.1))
    (hdistinct : (files.map fun f => textBytes f.1).Nodup) : (ofFiles files).IsProper := by
  refine .directory (List.forall_mem_map.mpr hnamed) ?_ (List.forall_mem_map.mpr fun f _ => .file _)
  rwa [List.map_map]

/-- A `.gitignore` file that excludes a source does not count where there is no repository: the
source is listed, and that is the reason. -/
theorem spares_without_repository :
    let root := FileTree.ofFiles [(".gitignore", "x.erl\n"), ("x.erl", "")]
    root.IsProper ∧ FileTree.resolve? root [] (textBytes "/") = some ([], root) ∧
      sourceFiles root [] (textBytes "/") = .ok [textBytes "/x.erl"] ∧
      (Spot.start root [] [] (textBytes "/")).Spares false (textBytes "x.erl") := by
  intro root
  have hproper : root.IsProper := FileTree.isProper_ofFiles (by decide) (by decide)
  have hresolve : FileTree.resolve? root [] (textBytes "/") = some ([], root) := by cbv
  have hfiles : sourceFiles root [] (textBytes "/") = .ok [textBytes "/x.erl"] := by cbv
  have hexcluded : (Spot.start root [] [] (textBytes "/")).IsExcluded false (textBytes "x.erl") :=
    .inr (by cbv)
  have hkept : ¬(Spot.start root [] [] (textBytes "/")).Skips false (textBytes "x.erl") := by
    unfold Spot.Skips
    exact Bool.eq_false_iff.mp (by cbv)
  have hlisted : IsListed root [] (.start root [] [] (textBytes "/")) [] (textBytes "x.erl") :=
    isListed_nil.mpr ⟨⟨"", by cbv⟩, ⟨textBytes "x", _, by decide, .inl rfl, by decide⟩, hkept⟩
  obtain ⟨-, -, -, haccount⟩ := exclusions_of_listed hproper hresolve
  have hspares := ((haccount [] (textBytes "x.erl") hlisted).1 _ _ _ .file).mp hexcluded
  exact ⟨hproper, hresolve, hfiles, hspares⟩

/-- The smallest workspaces where something that is to be left out is listed: one that is no
repository, one where a rule keeps a hidden file, and a repository where an `.ignore` file keeps
what its `.gitignore` file excludes. -/
theorem excluded_and_listed :
    let bare := FileTree.ofFiles [(".gitignore", "x.erl\n"), ("x.erl", "")]
    let hidden := FileTree.ofFiles [(".ignore", "!.h.erl\n"), (".h.erl", "")]
    let overruled := FileTree.ofFiles
      [(".git", ""), (".gitignore", "x.erl\n"), (".ignore", "!x.erl\n"), ("x.erl", "")]
    (bare.IsProper ∧ hidden.IsProper ∧ overruled.IsProper) ∧
      (sourceFiles bare [] (textBytes "/") = .ok [textBytes "/x.erl"] ∧
        (Spot.start bare [] [] (textBytes "/")).IsExcluded false (textBytes "x.erl")) ∧
      (sourceFiles hidden [] (textBytes "/") = .ok [textBytes "/.h.erl"] ∧
        (Spot.start hidden [] [] (textBytes "/")).IsExcluded false (textBytes ".h.erl")) ∧
      sourceFiles overruled [] (textBytes "/") = .ok [textBytes "/x.erl"] ∧
        (Spot.start overruled [] [] (textBytes "/")).IsExcluded false (textBytes "x.erl") := by
  intro bare hidden overruled
  have hbare : bare.IsProper := FileTree.isProper_ofFiles (by decide) (by decide)
  have hhidden : hidden.IsProper := FileTree.isProper_ofFiles (by decide) (by decide)
  have hoverruled : overruled.IsProper := FileTree.isProper_ofFiles (by decide) (by decide)
  refine ⟨⟨hbare, hhidden, hoverruled⟩, ⟨?_, .inr ?_⟩, ⟨?_, .inl (by decide)⟩, ?_, .inr ?_⟩
  all_goals cbv

end SessionGate
