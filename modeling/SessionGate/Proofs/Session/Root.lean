import SessionGate.Proofs.Index.Tree
import SessionGate.Proofs.Uri.FileUri
import SessionGate.Session.Controller

/-!
# The root of a session without one

A client may name no root. Then the session is in the working directory, which is written as a URI
and read back by everything that looks at the root: the index, the pattern of the files that are
watched, the name of the node.

- `Path.namesText`: names as they are read as text.
- `Record.IsAt`: what the views of a root are when it stands for a directory.
- `Record.isAt_of_path`: they follow from the names along its path.
- `root_of_working_directory`: the root of a session without one stands for the working directory.
-/

namespace SessionGate

variable {ns : List Bytes}

/-! ## Paths read as text -/

/-- Names as they are read as text, with a slash before each. -/
def Path.namesText (ns : List Bytes) : List Char :=
  ns.flatMap fun n => '/' :: Utf8.decodeLossy n

namespace Path

theorem decodeLossy_append_names (before : Bytes) (ns : List Bytes) :
    Utf8.decodeLossy (before ++ ns.flatMap (slash :: ·))
      = Utf8.decodeLossy before ++ namesText ns := by
  induction ns generalizing before with
  | nil => simp [namesText]
  | cons n ns ih =>
    rw [List.flatMap_cons, List.cons_append, Utf8.decodeLossy_append_cons (by decide), ih n,
      namesText, namesText, List.flatMap_cons]
    rfl

/-- No name ends in a slash, also as text. -/
theorem trimEnd_namesText (h : ∀ n ∈ ns, IsName n) :
    trimEnd (fun c => c = '/') (namesText ns) = namesText ns := by
  rcases List.eq_nil_or_concat ns with rfl | ⟨front, n, rfl⟩
  · rfl
  have hn : IsName n := h n (by simp)
  obtain hnil | ⟨text, c, hc⟩ := List.eq_nil_or_concat (Utf8.decodeLossy n)
  · exact absurd (Utf8.decodeLossy_eq_nil_iff.mp hnil) hn.ne_nil
  have hnone : '/' ∉ Utf8.decodeLossy n :=
    Utf8.not_mem_decodeLossy (by decide) (by decide) hn.no_slash
  have hslash : c ≠ '/' := by
    rintro rfl
    simp [hc] at hnone
  have hlast : namesText (front ++ [n]) = (namesText front ++ '/' :: text) ++ [c] := by
    simp [namesText, hc]
  rw [List.concat_eq_append, hlast, trimEnd_eq_rdropWhile,
    List.rdropWhile_concat_neg _ _ _ (by simpa using hslash)]

theorem trimEnd_decodeLossy_absolute (h : ∀ n ∈ ns, IsName n) :
    trimEnd (fun c => c = '/') (Utf8.decodeLossy (absolute ns)) = namesText ns := by
  by_cases hne : ns = []
  · subst hne
    decide
  · have htext := decodeLossy_append_names [] ns
    rw [List.nil_append] at htext
    rw [absolute_eq_flatMap hne, htext]
    exact trimEnd_namesText h

theorem trimEnd_decodeLossy_slash (p : Path) :
    trimEnd (fun c => c = '/') (Utf8.decodeLossy (p ++ [slash]))
      = trimEnd (fun c => c = '/') (Utf8.decodeLossy p) := by
  rw [Utf8.decodeLossy_append_cons (by decide)]
  exact List.rdropWhile_concat_pos _ _ _ (by decide)

end Path

/-! ## The views of a root -/

/-- A session is in the directory of these names: everything that looks at its root finds them. -/
structure Record.IsAt (r : Record) (ns : List Bytes) : Prop where
  /-- The index looks for files where the path of the names leads. -/
  index : ∃ q, r.rootPath? = some q ∧ Path.names q = ns ∧ ∀ tree working,
    FileTree.resolve? tree working q = FileTree.resolve? tree working (Path.absolute ns)
  /-- The pattern of the files that are watched begins with the names. -/
  glob : Registration.sourceGlob r
    = String.ofList (Path.namesText ns) ++ Registration.sourcePattern
  /-- The node is called by the last name. -/
  node : ∀ app, NodeName.forRoot app r.root = String.ofList (NodeName.clean (app.toList ++ '_' ::
    (ns.getLast?.map Utf8.decodeLossy).getD NodeName.fallback))

theorem Root.basename_of_names {root : String} {p : Path} (hpath : filePath? root = some p)
    (hp : Path.names p = ns) (h : ∀ n ∈ ns, Path.IsName n)
    (hnone : ns = [] → lastPiece (pathText root) = []) :
    basename root = (ns.getLast?.map Utf8.decodeLossy).getD [] := by
  unfold basename
  rw [hpath, Option.bind_some, Path.fileName?_of_names hp h]
  cases hlast : ns.getLast? with
  | none => exact hnone (List.getLast?_eq_none_iff.mp hlast)
  | some n => rfl

theorem NodeName.forRoot_of_names {root : String} {p : Path} (hpath : Root.filePath? root = some p)
    (hp : Path.names p = ns) (h : ∀ n ∈ ns, Path.IsName n)
    (hnone : ns = [] → Root.lastPiece (Root.pathText root) = []) (app : String) :
    forRoot app root = String.ofList (clean (app.toList ++ '_' ::
      (ns.getLast?.map Utf8.decodeLossy).getD fallback)) := by
  unfold forRoot
  rw [Root.basename_of_names hpath hp h hnone]
  cases hlast : ns.getLast? with
  | none => rfl
  | some n =>
    have hn := (h n (List.mem_of_getLast? hlast)).ne_nil
    have hempty : (Utf8.decodeLossy n).isEmpty = false := by
      simpa [Utf8.decodeLossy_eq_nil_iff] using hn
    simp [hempty]

/-- A root stands for the directory of the names along its path, if nothing but slashes goes with
them. -/
theorem Record.isAt_of_path {r : Record} {p : Path} (hpath : r.rootPath? = some p)
    (habsolute : Path.isAbsolute p = true) (hp : Path.names p = ns)
    (htext : trimEnd (fun c => c = '/') (Utf8.decodeLossy p) = Path.namesText ns)
    (h : ∀ n ∈ ns, Path.IsName n) (hnone : ns = [] → Root.lastPiece (Root.pathText r.root) = []) :
    r.IsAt ns where
  index := ⟨p, hpath, hp, fun tree working =>
    FileTree.resolve?_of_names habsolute rfl (hp.trans (Path.names_absolute h).symm) working⟩
  glob := by
    unfold Registration.sourceGlob Registration.globBase
    rw [hpath]
    dsimp only
    rw [htext]
  node := NodeName.forRoot_of_names hpath hp h hnone

/-! ## The root of a directory -/

theorem Root.filePath?_of_parse {root : String} {u : Uri} (h : Uri.parse root = .ok u) :
    filePath? root = u.filePath? := by
  unfold filePath?
  rw [h]

theorem Root.pathText_of_parse {root : String} {u : Uri} (h : Uri.parse root = .ok u) :
    pathText root = u.pathText := by
  unfold pathText
  rw [h]

theorem Root.parse_ofDirectory (h : ∀ n ∈ ns, Path.IsName n) :
    Uri.parse (ofDirectory (Path.absolute ns)) = .ok (Uri.ofFilePath (Path.absolute ns)) :=
  Uri.parse_ofFilePath h

theorem Root.filePath?_ofDirectory (h : ∀ n ∈ ns, Path.IsName n) :
    filePath? (ofDirectory (Path.absolute ns))
      = some (if Uri.endsInDrive (Path.absolute ns) then Path.absolute ns ++ [Path.slash]
        else Path.absolute ns) := by
  rw [filePath?_of_parse (parse_ofDirectory h), Uri.filePath?_ofFilePath h]

theorem Record.isAt_ofDirectory {r : Record} (hr : r.root = Root.ofDirectory (Path.absolute ns))
    (h : ∀ n ∈ ns, Path.IsName n) : r.IsAt ns := by
  have hpath := Root.filePath?_ofDirectory h
  rw [← hr] at hpath
  have hnone : ns = [] → Root.lastPiece (Root.pathText r.root) = [] := by
    rintro rfl
    rw [hr, Root.pathText_of_parse (Root.parse_ofDirectory h)]
    rfl
  have htext := Path.trimEnd_decodeLossy_absolute h
  split at hpath
  · refine isAt_of_path hpath rfl ?_ ((Path.trimEnd_decodeLossy_slash _).trans htext) h hnone
    rw [Path.names_append_slash, Path.names_absolute h, Path.names_nil, List.append_nil]
  · exact isAt_of_path hpath rfl (Path.names_absolute h) htext h hnone

/-- **The root of a session whose client names none.** In a directory of any names, whatever octets
they consist of, a root is found, and its path is that of the directory, octet by octet; only an
ASCII letter and a colon or bar at the end are followed by one more slash. Index, pattern and node
are those of the directory. -/
theorem root_of_working_directory (h : ∀ n ∈ ns, Path.IsName n) :
    ∃ root p, resolveRoot (.inside (Path.absolute ns) rfl) none = .ok root ∧
      Root.filePath? root = some p ∧
      ((Path.absolute ns).EndsInDrive → p = Path.absolute ns ++ [Path.slash]) ∧
      (¬(Path.absolute ns).EndsInDrive → p = Path.absolute ns) ∧
      ∀ r : Record, r.root = root → r.IsAt ns := by
  have hdrive : Uri.endsInDrive (Path.absolute ns) = true ↔ (Path.absolute ns).EndsInDrive :=
    Uri.endsInDrive_iff rfl
  refine ⟨_, _, rfl, Root.filePath?_ofDirectory h, fun hends => if_pos (hdrive.mpr hends),
    fun hends => if_neg fun hends' => hends (hdrive.mp hends'), fun r hr => ?_⟩
  exact Record.isAt_ofDirectory hr h

/-- Percent signs, marks of URIs, backslashes and octets that are no text come back, and a drive
letter at the end gets a slash. -/
theorem root_of_hard_directory :
    let ns : List Bytes :=
      [textBytes "50%25 #1?", [0xFF, 0x5C, 0x0A], textBytes "c|", textBytes "C:"]
    let root := "file:///50%2525%20%231%3F/%FF%5C%0A/c|/C:"
    (∀ n ∈ ns, Path.IsName n) ∧ resolveRoot (.inside (Path.absolute ns) rfl) none = .ok root ∧
      Root.filePath? root = some (Path.absolute ns ++ [Path.slash]) ∧
      ∀ r : Record, r.root = root → r.IsAt ns := by
  intro ns root
  have hnames : ∀ n ∈ ns, Path.IsName n := by decide
  have hroot : resolveRoot (.inside (Path.absolute ns) rfl) none = .ok root := by decide
  have hdrive : (Path.absolute ns).EndsInDrive :=
    ⟨Path.absolute (ns.take 3) ++ [Path.slash], 0x43, 0x3A, by decide, by decide, by decide⟩
  obtain ⟨root', p, hroot', hpath, hslash, -, hat⟩ := root_of_working_directory hnames
  cases hroot.symm.trans hroot'
  exact ⟨hnames, hroot, by rw [hpath, hslash hdrive], hat⟩

end SessionGate
