import Mathlib
import SessionGate.Proofs.Index.Tree

/-!
# What a walk lists

A walk goes down a tree directory by directory, and what is left out at one place hides everything
below it. What it lists can be said without the walk: chains of names that lead from the start
through real directories, none of them left out, to a regular file that is not left out either.

- `Walk.Spot`: a directory that a walk has come to; `Walk.Spot.along`: the one that a chain of names
  leads to from there.
- `Walk.IsListed`: the chains of names that lead to a listed file.
- `Walk.mem_ofEntries`: what is found below a directory is what such chains lead to.
- `Walk.pairwise_ofEntries`: no two of the paths that are found have the same names.
- `sourceFiles_iff_chain`: the files of a workspace, in order, in whatever order directories list
  their entries.
-/

namespace SessionGate

namespace Walk

/-! ## Names of sources -/

/-- A name that something, a dot, and one of the extensions of sources make up. -/
def IsSource (name : Bytes) : Prop :=
  ∃ stem e, stem ≠ [] ∧ (e = textBytes "erl" ∨ e = textBytes "hrl") ∧ name = stem ++ Path.dot :: e

theorem isSourceName_iff {name : Bytes} (h : Path.IsName name) :
    isSourceName name = true ↔ IsSource name := by
  have hextension (e : Bytes) (he : Path.dot ∉ e) :
      Path.extension? name = some e ↔ ∃ stem, stem ≠ [] ∧ name = stem ++ Path.dot :: e := by
    rw [Path.extension?_of_isName h, Path.nameExtension?_eq_some_iff he]
  constructor
  · intro hsource
    unfold isSourceName at hsource
    split at hsource
    case h_2 => cases hsource
    next e hfound =>
    have he : e = textBytes "erl" ∨ e = textBytes "hrl" := by
      simpa [sourceExtensions] using hsource
    obtain ⟨stem, hstem, hname⟩ := (hextension e (by rcases he with rfl | rfl <;> decide)).mp hfound
    exact ⟨stem, e, hstem, he, hname⟩
  · rintro ⟨stem, e, hstem, he, hname⟩
    have hfound := (hextension e (by rcases he with rfl | rfl <;> decide)).mpr ⟨stem, hstem, hname⟩
    unfold isSourceName
    rw [hfound]
    simpa [sourceExtensions] using he

/-! ## Places on a walk -/

/-- A directory that a walk has come to. -/
structure Spot where
  /-- The directories on the way, the nearest first. -/
  levels : List Level
  /-- The names that lead to it from the root of the tree. -/
  place : List Bytes
  /-- Its path as the walk names it. -/
  path : Path

namespace Spot

variable (root : FileTree) (working : List Bytes)

/-- The directory where a walk starts. -/
def start (place : List Bytes) (path : Path) : Spot :=
  ⟨levelsUp root working place path, place, path⟩

/-- The directory of a name in it. -/
def enter (s : Spot) (name : Bytes) : Spot where
  levels := level root working (s.place ++ [name]) (Path.join s.path name) false :: s.levels
  place := s.place ++ [name]
  path := Path.join s.path name

/-- The directory that names lead to from it, one after another. -/
def along (s : Spot) (names : List Bytes) : Spot :=
  names.foldl (enter root working) s

/-- An entry of a name, as its ignore files are asked about it. -/
def candidate (s : Spot) (isDirectory : Bool) (name : Bytes) : Candidate :=
  ⟨isDirectory, Path.join s.path name, Path.absolute (s.place ++ [name])⟩

/-- Whether the entry of a name is left out there. -/
def Skips (s : Spot) (isDirectory : Bool) (name : Bytes) : Prop :=
  isSkipped s.levels name (s.candidate isDirectory name) = true

variable {root working} (s : Spot)

@[simp] theorem along_nil : s.along root working [] = s := rfl

@[simp] theorem along_cons (name : Bytes) (names : List Bytes) :
    s.along root working (name :: names) = (s.enter root working name).along root working names :=
  rfl

end Spot

/-- The names lead from a directory through real directories, none of them left out, to a directory
with a source file of this name that is not left out. -/
structure IsListed (root : FileTree) (working : List Bytes) (s : Spot) (above : List Bytes)
    (name : Bytes) : Prop where
  /-- Each directory on the way is one, and entered. -/
  entered : ∀ ns n, ns ++ [n] <+: above →
    (∃ es, root.at? (s.place ++ ns ++ [n]) = some (.directory es)) ∧ n ≠ buildDirectory ∧
      ¬(s.along root working ns).Skips true n
  file : ∃ text, root.at? (s.place ++ above ++ [name]) = some (.file text)
  source : IsSource name
  kept : ¬(s.along root working above).Skips false name

section Listed

variable {root : FileTree} {working : List Bytes} {s : Spot} {above : List Bytes} {name n : Bytes}

theorem isListed_nil :
    IsListed root working s [] name ↔
      (∃ text, root.at? (s.place ++ [name]) = some (.file text)) ∧ IsSource name ∧
        ¬s.Skips false name := by
  constructor
  · intro h
    exact ⟨by simpa using h.file, h.source, h.kept⟩
  · rintro ⟨hfile, hsource, hkept⟩
    exact ⟨fun ns n hns => by simp at hns, by simpa using hfile, hsource, hkept⟩

/-- The first directory on the way, and the rest of it. -/
theorem isListed_cons :
    IsListed root working s (n :: above) name ↔
      ((∃ es, root.at? (s.place ++ [n]) = some (.directory es)) ∧ n ≠ buildDirectory ∧
        ¬s.Skips true n) ∧ IsListed root working (s.enter root working n) above name := by
  have hplace (ns : List Bytes) (m : Bytes) :
      (s.enter root working n).place ++ ns ++ [m] = s.place ++ (n :: ns) ++ [m] := by
    simp [Spot.enter]
  constructor
  · intro h
    refine ⟨by simpa using h.entered [] n (by simp), ⟨fun ns m hns => ?_, ?_, h.source, h.kept⟩⟩
    · rw [hplace]
      exact h.entered (n :: ns) m (List.cons_prefix_cons.mpr ⟨rfl, hns⟩)
    · rw [hplace]
      exact h.file
  · rintro ⟨hfirst, h⟩
    refine ⟨fun ns m hns => ?_, ?_, h.source, h.kept⟩
    · cases ns with
      | nil =>
        obtain ⟨rfl, -⟩ := List.cons_prefix_cons.mp hns
        simpa using hfirst
      | cons k ns =>
        obtain ⟨rfl, hrest⟩ := List.cons_prefix_cons.mp hns
        rw [← hplace]
        exact h.entered ns m hrest
    · rw [← hplace]
      exact h.file

/-! ## What is found -/

theorem ofEntries_eq (levels : List Level) (place : List Bytes) (path : Path)
    (es : List (Bytes × FileTree)) :
    ofEntries root working levels place path es =
      es.flatMap fun e => ofEntry root working levels place path e.1 e.2 := by
  induction es with
  | nil => rfl
  | cons e es ih => rw [ofEntries, ih, List.flatMap_cons]

/-- A file is found if it is a source that is not left out. -/
theorem ofEntry_file (hname : Path.IsName name) (text : String) (p : Path) :
    p ∈ ofEntry root working s.levels s.place s.path name (.file text) ↔
      p = Path.join s.path name ∧ IsSource name ∧ ¬s.Skips false name := by
  rw [ofEntry, ← isSourceName_iff hname]
  unfold Spot.Skips Spot.candidate
  cases isSourceName name <;>
    cases isSkipped s.levels name
      ⟨false, Path.join s.path name, Path.absolute (s.place ++ [name])⟩ <;> simp

/-- In a directory something is found if it is entered. -/
theorem ofEntry_directory (es : List (Bytes × FileTree)) (p : Path) :
    p ∈ ofEntry root working s.levels s.place s.path name (.directory es) ↔
      (name ≠ buildDirectory ∧ ¬s.Skips true name) ∧
        p ∈ ofEntries root working (s.enter root working name).levels
          (s.enter root working name).place (s.enter root working name).path es := by
  rw [ofEntry]
  unfold Spot.Skips Spot.candidate
  split
  · next hleft =>
    have hleft : ¬(name ≠ buildDirectory ∧ ¬isSkipped s.levels name
        ⟨true, Path.join s.path name, Path.absolute (s.place ++ [name])⟩ = true) := by
      rintro ⟨hbuild, hskips⟩
      simp [hbuild, hskips] at hleft
    exact iff_of_false List.not_mem_nil fun h => hleft h.1
  · next hentered =>
    rw [Bool.or_eq_true, decide_eq_true_iff, not_or] at hentered
    exact (and_iff_right hentered.symm).symm

theorem mem_ofEntry_of_at? (hroot : root.IsProper) {es : List (Bytes × FileTree)}
    (hat : root.at? s.place = some (.directory es)) (p : Path) :
    p ∈ ofEntries root working s.levels s.place s.path es ↔
      ∃ name t, root.at? (s.place ++ [name]) = some t ∧
        p ∈ ofEntry root working s.levels s.place s.path name t := by
  rw [ofEntries_eq, List.mem_flatMap]
  constructor
  · rintro ⟨⟨name, t⟩, hmem, hp⟩
    exact ⟨name, t, (hroot.mem_entries_iff hat).mp hmem, hp⟩
  · rintro ⟨name, t, ht, hp⟩
    exact ⟨(name, t), (hroot.mem_entries_iff hat).mpr ht, hp⟩

/-- What is found below a directory is what chains of names lead to. -/
theorem mem_ofEntries (hroot : root.IsProper) (t : FileTree) (s : Spot)
    {es : List (Bytes × FileTree)} (ht : t = .directory es)
    (hat : root.at? s.place = some (.directory es)) (p : Path) :
    p ∈ ofEntries root working s.levels s.place s.path es ↔
      ∃ above name, p = Path.chain s.path (above ++ [name]) ∧
        IsListed root working s above name := by
  induction t using FileTree.byEntries generalizing s es with
  | file => cases ht
  | link => cases ht
  | directory fs ih =>
    obtain rfl : fs = es := FileTree.directory.inj ht
    rw [mem_ofEntry_of_at? hroot hat]
    constructor
    · rintro ⟨name, t, ht, hp⟩
      have hname := (hroot.at? ht).2 name (by simp)
      cases t with
      | file text =>
        obtain ⟨rfl, hsource, hkept⟩ := (ofEntry_file hname text p).mp hp
        exact ⟨[], name, rfl, isListed_nil.mpr ⟨⟨text, ht⟩, hsource, hkept⟩⟩
      | link => cases hp
      | directory gs =>
        obtain ⟨hentered, hp⟩ := (ofEntry_directory gs p).mp hp
        have hmem := (hroot.mem_entries_iff hat).mpr ht
        obtain ⟨above, last, rfl, hlisted⟩ :=
          (ih _ hmem (s.enter root working name) rfl ht).mp hp
        exact ⟨name :: above, last, rfl, isListed_cons.mpr ⟨⟨⟨gs, ht⟩, hentered⟩, hlisted⟩⟩
    · rintro ⟨above, last, rfl, hlisted⟩
      cases above with
      | nil =>
        obtain ⟨⟨text, ht⟩, hsource, hkept⟩ := isListed_nil.mp hlisted
        have hname := (hroot.at? ht).2 last (by simp)
        exact ⟨last, .file text, ht, (ofEntry_file hname text _).mpr ⟨rfl, hsource, hkept⟩⟩
      | cons name above =>
        obtain ⟨⟨⟨gs, ht⟩, hentered⟩, hlisted⟩ := isListed_cons.mp hlisted
        have hmem := (hroot.mem_entries_iff hat).mpr ht
        refine ⟨name, .directory gs, ht, (ofEntry_directory gs _).mpr ⟨hentered, ?_⟩⟩
        exact (ih _ hmem (s.enter root working name) rfl ht).mpr ⟨above, last, rfl, hlisted⟩

/-! ## No path twice -/

/-- The names of what is found in an entry begin with those of the directory and of the entry. -/
theorem names_of_mem_ofEntry (hroot : root.IsProper) {t : FileTree}
    (ht : root.at? (s.place ++ [name]) = some t) {p : Path}
    (hp : p ∈ ofEntry root working s.levels s.place s.path name t) :
    ∃ rest, Path.names p = Path.names s.path ++ name :: rest := by
  have hname := (hroot.at? ht).2 name (by simp)
  cases t with
  | file text =>
    obtain ⟨rfl, -, -⟩ := (ofEntry_file hname text p).mp hp
    exact ⟨[], Path.names_join hname s.path⟩
  | link => cases hp
  | directory es =>
    obtain ⟨-, hp⟩ := (ofEntry_directory es p).mp hp
    obtain ⟨above, last, rfl, hlisted⟩ :=
      (mem_ofEntries hroot _ (s.enter root working name) rfl ht p).mp hp
    obtain ⟨text, hat⟩ := hlisted.file
    have hnames : ∀ n ∈ above ++ [last], Path.IsName n := by
      intro n hn
      refine (hroot.at? hat).2 n ?_
      rw [List.append_assoc]
      exact List.mem_append_right _ hn
    refine ⟨above ++ [last], ?_⟩
    rw [Path.names_chain hnames]
    show Path.names (Path.join s.path name) ++ _ = _
    rw [Path.names_join hname, List.append_assoc, List.singleton_append]

/-- No two paths that are found have the same names. -/
theorem pairwise_ofEntries (hroot : root.IsProper) (t : FileTree) (s : Spot)
    {es : List (Bytes × FileTree)} (ht : t = .directory es)
    (hat : root.at? s.place = some (.directory es)) :
    (ofEntries root working s.levels s.place s.path es).Pairwise fun p q =>
      Path.names p ≠ Path.names q := by
  induction t using FileTree.byEntries generalizing s es with
  | file => cases ht
  | link => cases ht
  | directory fs ih =>
    obtain rfl : fs = es := FileTree.directory.inj ht
    have hdistinct := (hroot.at? hat).1.distinct_names
    have hfound {e : Bytes × FileTree} (he : e ∈ fs) : root.at? (s.place ++ [e.1]) = some e.2 :=
      (hroot.mem_entries_iff hat).mp he
    rw [ofEntries_eq, List.pairwise_flatMap]
    constructor
    · rintro ⟨name, t⟩ he
      cases t with
      | file text =>
        rw [ofEntry]
        split
        · exact .nil
        · exact List.pairwise_singleton ..
      | link => exact .nil
      | directory gs =>
        rw [ofEntry]
        split
        · exact .nil
        · exact ih _ he (s.enter root working name) rfl (hfound he)
    -- entries of different names, so paths that differ behind the names of the directory
    · rw [List.Nodup, List.pairwise_map] at hdistinct
      refine hdistinct.imp_of_mem fun {e f} he hf hne p hp q hq heq => hne ?_
      obtain ⟨rest, hrest⟩ := names_of_mem_ofEntry hroot (hfound he) hp
      obtain ⟨more, hmore⟩ := names_of_mem_ofEntry hroot (hfound hf) hq
      rw [hrest, hmore] at heq
      exact (List.cons.inj (List.append_cancel_left heq)).1

/-! ## Whole walks -/

/-- Whatever the order of the entries, the same chains of names are listed. -/
theorem isListed_of_looksLike {root' : FileTree} (h : root.LooksLike root') :
    IsListed root working s above name ↔ IsListed root' working s above name := by
  have hspot : Spot.along root working = Spot.along root' working := by
    funext t names
    unfold Spot.along Spot.enter
    rw [h.level_eq]
  constructor
  · intro hl
    refine ⟨fun ns n hns => ?_, ?_, hl.source, hspot ▸ hl.kept⟩
    · rw [← hspot, ← h.exists_directory_iff]
      exact hl.entered ns n hns
    · simpa only [h.at?_eq_some_file_iff] using hl.file
  · intro hl
    refine ⟨fun ns n hns => ?_, ?_, hl.source, hspot ▸ hl.kept⟩
    · rw [hspot, h.exists_directory_iff]
      exact hl.entered ns n hns
    · simpa only [h.at?_eq_some_file_iff] using hl.file

end Listed

end Walk

open Walk

variable {root : FileTree} {working place : List Bytes} {path : Path}

theorem sourceFiles_eq_ok {es : List (Bytes × FileTree)}
    (h : FileTree.resolve? root working path = some (place, .directory es)) :
    sourceFiles root working path = .ok (if path.isStandardInput then [] else
      (ofEntries root working (levelsUp root working place path) place path es).mergeSort
        Path.le) := by
  unfold sourceFiles
  rw [h]
  dsimp only
  split <;> rfl

theorem sourceFiles_eq_error
    (h : ∀ place es, FileTree.resolve? root working path ≠ some (place, .directory es)) :
    sourceFiles root working path = .error (.notDirectory path) := by
  unfold sourceFiles
  split
  · next hfound => exact absurd hfound (h _ _)
  · rfl

/-- A file is listed exactly if a chain of names leads to it, and the path is not taken for the
standard input. -/
theorem mem_sourceFiles_iff (hroot : root.IsProper) {es : List (Bytes × FileTree)}
    (h : FileTree.resolve? root working path = some (place, .directory es)) {files : List Path}
    (hfiles : sourceFiles root working path = .ok files) (p : Path) :
    p ∈ files ↔ path.isStandardInput = false ∧ ∃ above name, p = path.chain (above ++ [name]) ∧
      IsListed root working (.start root working place path) above name := by
  rw [sourceFiles_eq_ok h] at hfiles
  cases hfiles
  have hat := (FileTree.resolve?_eq_some_iff.mp h).2
  cases path.isStandardInput with
  | true => exact iff_of_false List.not_mem_nil fun h => nomatch h.1
  | false =>
    rw [if_neg Bool.false_ne_true, List.mem_mergeSort]
    exact (mem_ofEntries hroot _ (.start root working place path) rfl hat p).trans
      (and_iff_right rfl).symm

/-- The files are in strictly increasing order. -/
theorem pairwise_sourceFiles (hroot : root.IsProper) {es : List (Bytes × FileTree)}
    (h : FileTree.resolve? root working path = some (place, .directory es)) {files : List Path}
    (hfiles : sourceFiles root working path = .ok files) :
    files.Pairwise fun p q => Path.names p < Path.names q := by
  rw [sourceFiles_eq_ok h] at hfiles
  cases hfiles
  split
  · exact .nil
  have hat := (FileTree.resolve?_eq_some_iff.mp h).2
  have hdiffer : (ofEntries root working (levelsUp root working place path) place path
      es).Pairwise fun p q => Path.names p ≠ Path.names q :=
    pairwise_ofEntries hroot _ (.start root working place path) rfl hat
  have hdiffer := (List.mergeSort_perm _ Path.le).symm.pairwise hdiffer fun h => h.symm
  refine ((List.pairwise_mergeSort Path.le_trans Path.le_total _).and hdiffer).imp ?_
  rintro p q ⟨hle, hne⟩
  rw [Path.le_iff, List.le_iff_lt_or_eq] at hle
  exact hle.resolve_right hne

/-- Strictly increasing lists of paths with the same members are the same. -/
theorem eq_of_mem_iff {files files' : List Path}
    (hsorted : files.Pairwise fun p q => Path.names p < Path.names q)
    (hsorted' : files'.Pairwise fun p q => Path.names p < Path.names q)
    (hmem : ∀ p, p ∈ files ↔ p ∈ files') : files = files' := by
  have hnodup {l : List Path} (h : l.Pairwise fun p q => Path.names p < Path.names q) :
      l.Nodup := by
    refine h.imp fun {p q} hlt heq => ?_
    subst heq
    exact List.lt_irrefl _ hlt
  refine List.Perm.eq_of_pairwise (fun p q _ _ hpq hqp => ?_) hsorted hsorted'
    ((List.perm_ext_iff_of_nodup (hnodup hsorted) (hnodup hsorted')).mpr hmem)
  exact absurd hqp (List.lt_asymm hpq)

/-- The files do not depend on the order in which directories list their entries. -/
theorem sourceFiles_of_rearranged (hroot : root.IsProper) {root' : FileTree}
    (h : root.Rearranged root') :
    sourceFiles root' working path = sourceFiles root working path := by
  have hlooks := h.looksLike hroot
  by_cases hdirectory : ∃ place es,
      FileTree.resolve? root working path = some (place, .directory es)
  · obtain ⟨place, es, hes⟩ := hdirectory
    obtain ⟨fs, hfs⟩ := hlooks.exists_resolve?_iff.mp ⟨es, hes⟩
    have hok := sourceFiles_eq_ok hes
    have hok' := sourceFiles_eq_ok hfs
    have hstart : Spot.start root' working place path = Spot.start root working place path := by
      unfold Spot.start
      rw [hlooks.levelsUp_eq]
    rw [hok, hok', eq_of_mem_iff (pairwise_sourceFiles (h.isProper hroot) hfs hok')
      (pairwise_sourceFiles hroot hes hok)]
    intro p
    rw [mem_sourceFiles_iff (h.isProper hroot) hfs hok', mem_sourceFiles_iff hroot hes hok, hstart]
    simp only [isListed_of_looksLike hlooks]
  · have hnone : ∀ place es,
        FileTree.resolve? root working path ≠ some (place, .directory es) :=
      fun place es hes => hdirectory ⟨place, es, hes⟩
    rw [sourceFiles_eq_error hnone, sourceFiles_eq_error fun place fs hfs => ?_]
    obtain ⟨es, hes⟩ := hlooks.exists_resolve?_iff.mpr ⟨fs, hfs⟩
    exact hnone place es hes

/-- **The files of a workspace.** Where a path leads to a directory, the files that are listed are
those that chains of names lead to, each once and in strictly increasing order of the names along
their paths; no chain passes the directory itself, which is not asked about. A path that is taken
for the standard input is the one exception: nothing is listed below it. Where a path leads to
nothing or to something else, that is an error. Neither depends on the order in which directories
list their entries. -/
theorem sourceFiles_iff_chain (hroot : root.IsProper) (working : List Bytes) (path : Path) :
    (∀ place es, FileTree.resolve? root working path = some (place, .directory es) →
      ∃ files, sourceFiles root working path = .ok files ∧
        (files.Pairwise fun p q => Path.names p < Path.names q) ∧
        ∀ p, p ∈ files ↔ path.isStandardInput = false ∧
          ∃ above name, p = path.chain (above ++ [name]) ∧
            IsListed root working (.start root working place path) above name) ∧
    ((∀ place es, FileTree.resolve? root working path ≠ some (place, .directory es)) →
      sourceFiles root working path = .error (.notDirectory path)) ∧
    ∀ root', root.Rearranged root' →
      sourceFiles root' working path = sourceFiles root working path := by
  refine ⟨fun place es h => ?_, sourceFiles_eq_error, fun _ => sourceFiles_of_rearranged hroot⟩
  have hok := sourceFiles_eq_ok h
  exact ⟨_, hok, pairwise_sourceFiles hroot h hok, mem_sourceFiles_iff hroot h hok⟩

/-- A hidden file, the results of a build and a link are passed over, and the files come in order,
whichever way round the directory lists them. -/
theorem sourceFiles_either_way_round :
    let es : List (Bytes × FileTree) :=
      [(textBytes "b.erl", .file ""), (textBytes ".h.erl", .file ""),
        (textBytes "_build", .directory [(textBytes "c.erl", .file "")]),
        (textBytes "up", .link (textBytes "/")), (textBytes "a.hrl", .file "")]
    (FileTree.directory es).IsProper ∧
      (FileTree.directory es).Rearranged (.directory es.reverse) ∧
      sourceFiles (.directory es) [] (textBytes "/")
        = .ok [textBytes "/a.hrl", textBytes "/b.erl"] ∧
      sourceFiles (.directory es.reverse) [] (textBytes "/")
        = .ok [textBytes "/a.hrl", textBytes "/b.erl"] := by
  intro es
  have hbuild : (FileTree.directory [(textBytes "c.erl", .file "")]).IsProper :=
    .directory (by decide) (by decide) (by simpa using .file "")
  have hproper : (FileTree.directory es).IsProper := by
    refine .directory (by decide) (by decide) ?_
    simpa [es] using ⟨.file "", hbuild, .link _, .file ""⟩
  have hreverse : (FileTree.directory es).Rearranged (.directory es.reverse) :=
    .permute es.reverse_perm.symm
  have hfiles : sourceFiles (.directory es) [] (textBytes "/")
      = .ok [textBytes "/a.hrl", textBytes "/b.erl"] := by cbv
  refine ⟨hproper, hreverse, hfiles, ?_⟩
  rw [(sourceFiles_iff_chain hproper [] (textBytes "/")).2.2 _ hreverse, hfiles]

/-- A directory called by a hyphen. A name leads to the source in it, and nothing is listed, unless
the path begins another way. -/
theorem unlisted_at_standard_input :
    let inner := FileTree.directory [(textBytes "a.erl", .file "")]
    let root := FileTree.directory [(textBytes "-", inner)]
    root.IsProper ∧
      FileTree.resolve? root [] (textBytes "-") = some ([textBytes "-"], inner) ∧
      IsListed root [] (.start root [] [textBytes "-"] (textBytes "-")) [] (textBytes "a.erl") ∧
      sourceFiles root [] (textBytes "-") = .ok [] ∧
      sourceFiles root [] (textBytes "./-") = .ok [textBytes "./-/a.erl"] := by
  intro inner root
  have hinner : inner.IsProper := .directory (by decide) (by decide) (by simpa using .file "")
  have hproper : root.IsProper := .directory (by decide) (by decide) (by simpa using hinner)
  have hkept : ¬(Spot.start root [] [textBytes "-"] (textBytes "-")).Skips false
      (textBytes "a.erl") := by
    unfold Spot.Skips
    exact Bool.eq_false_iff.mp (by cbv)
  have hlisted :
      IsListed root [] (.start root [] [textBytes "-"] (textBytes "-")) [] (textBytes "a.erl") :=
    isListed_nil.mpr ⟨⟨"", by cbv⟩, ⟨textBytes "a", _, by decide, .inl rfl, by decide⟩, hkept⟩
  exact ⟨hproper, by cbv, hlisted, by cbv, by cbv⟩

end SessionGate
