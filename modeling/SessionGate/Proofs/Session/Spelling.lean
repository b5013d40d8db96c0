import SessionGate.Proofs.Session.Root

/-!
# Ways to write a root

A client may name a directory by its path or by its URI, and end either with slashes. The two are
read along different ways: a path is no URI and stands for itself, octet by octet; a URI is taken
apart, cleaned and decoded. Both ways come to the same names.

- `Uri.parse_of_slash`: a text that begins with a slash is no URI.
- `Root.Spells`: the ways to write the root for the directory of a path.
- `Root.filePath?_of_spells`: whichever is chosen, the path is that of the directory and slashes.
- `Root.SameViews`: nothing that looks at roots tells two of them apart.
- `same_views_of_spells`: two ways to write the root of one directory are never told apart.
-/

namespace SessionGate

variable {ns : List Bytes}

/-! ## Slashes at the end -/

namespace Path

/-- A path with slashes after it. -/
def slashed (p : Path) (n : Nat) : Path :=
  p ++ List.replicate n slash

@[simp] theorem slashed_zero (p : Path) : p.slashed 0 = p :=
  List.append_nil p

theorem slashed_succ (p : Path) (n : Nat) : p.slashed (n + 1) = p.slashed n ++ [slash] := by
  rw [slashed, slashed, List.replicate_succ', List.append_assoc]

theorem names_slashed (p : Path) (n : Nat) : names (p.slashed n) = names p := by
  induction n with
  | zero => rw [slashed_zero]
  | succ n ih => rw [slashed_succ, names_append_slash, ih, names_nil, List.append_nil]

theorem isAbsolute_slashed {p : Path} (h : isAbsolute p = true) (n : Nat) :
    isAbsolute (p.slashed n) = true := by
  cases p with
  | nil => cases h
  | cons b rest => exact h

theorem trimEnd_decodeLossy_slashed (p : Path) (n : Nat) :
    trimEnd (fun c => c = '/') (Utf8.decodeLossy (p.slashed n))
      = trimEnd (fun c => c = '/') (Utf8.decodeLossy p) := by
  induction n with
  | zero => rw [slashed_zero]
  | succ n ih => rw [slashed_succ, trimEnd_decodeLossy_slash, ih]

end Path

/-- Slashes. -/
def slashes (n : Nat) : String :=
  String.ofList (List.replicate n '/')

@[simp] theorem toList_slashes (n : Nat) : (slashes n).toList = List.replicate n '/' :=
  String.toList_ofList

theorem textBytes_append_slashes (p : String) (n : Nat) :
    textBytes (p ++ slashes n) = Path.slashed (textBytes p) n := by
  have hslash : Utf8.encode (List.replicate n '/') = List.replicate n Path.slash := by
    induction n with
    | zero => rfl
    | succ n ih =>
      rw [List.replicate_succ, Utf8.encode_cons, ih]
      rfl
  rw [textBytes, String.toList_append, toList_slashes, Utf8.encode_append, hslash]
  rfl

/-! ## Paths are no URIs -/

namespace Uri

/-- A text that begins with a slash is no URI. -/
theorem parse_of_slash {text : String} (h : text.toList.head? = some '/') :
    parse text = .error .noScheme := by
  obtain ⟨rest, hrest⟩ := List.head?_eq_some_iff.mp h
  -- the slash is not taken off with the blanks around the text, and begins no scheme
  have hclean : ∃ more, clean text.toList = ('/', false) :: more := by
    refine ⟨withBreaks false (trimEnd isMargin rest), ?_⟩
    rw [clean, hrest, List.dropWhile_cons_of_neg (by decide),
      trimEnd_cons_of_not (by decide), withBreaks, if_neg (by decide)]
  obtain ⟨more, hmore⟩ := hclean
  have hscheme : splitScheme? (Segments.plain (('/', false) :: more)) = none := rfl
  unfold parse
  dsimp only
  rw [hmore, hscheme]

end Uri

namespace Root

/-- A path, written as it is, is no URI, and names itself with all its slashes. -/
theorem filePath?_of_path {p : String} (h : Path.isAbsolute (textBytes p) = true) (n : Nat) :
    Uri.parse (p ++ slashes n) = .error .noScheme ∧
      filePath? (p ++ slashes n) = some (Path.slashed (textBytes p) n) := by
  have hbytes := textBytes_append_slashes p n
  have habsolute : Path.isAbsolute (textBytes (p ++ slashes n)) = true := by
    rw [hbytes]
    exact Path.isAbsolute_slashed h n
  have hhead : (p ++ slashes n).toList.head? = some '/' := by
    refine Utf8.head?_of_head?_encode (by decide) ?_
    exact of_decide_eq_true habsolute
  have hparse := Uri.parse_of_slash hhead
  refine ⟨hparse, ?_⟩
  unfold filePath?
  rw [hparse]
  dsimp only
  rw [if_pos habsolute, hbytes]

theorem pathText_of_unparsed {root : String} {e : UriError} (h : Uri.parse root = .error e) :
    pathText root = root.toList := by
  unfold pathText
  rw [h]

/-- The path of the root directory is written in one way. -/
theorem toList_of_textBytes_slash {p : String} (h : textBytes p = [Path.slash]) :
    p.toList = ['/'] := by
  have hhead : p.toList.head? = some '/' := by
    refine Utf8.head?_of_head?_encode (by decide) ?_
    exact congrArg List.head? h
  obtain ⟨rest, hrest⟩ := List.head?_eq_some_iff.mp hhead
  have hnil : Utf8.encode rest = [] := by
    rw [textBytes, hrest, Utf8.encode_cons] at h
    have hslash : Utf8.encodeChar '/' = [Path.slash] := by decide
    rw [hslash] at h
    exact (List.cons.inj h).2
  rw [hrest, Utf8.encode_eq_nil_iff.mp hnil]

end Root

/-! ## URIs with slashes after them -/

namespace Uri

/-- The segments of the URI of a file: its names, encoded, and one empty segment if it has none. -/
def fileSegments (ns : List Bytes) : List (List Char) :=
  if ns.isEmpty then [[]] else ns.map (Percent.encode Percent.pathName)

theorem fileSegments_ne_nil (ns : List Bytes) : fileSegments ns ≠ [] := by
  cases ns <;> exact List.cons_ne_nil _ _

theorem ofFilePath_eq_ofSegments (h : ∀ n ∈ ns, Path.IsName n) :
    ofFilePath (Path.absolute ns) = ofSegments (fileSegments ns) := by
  cases ns with
  | nil => exact ofFilePath_slash
  | cons n ns => exact ofFilePath_absolute h (List.cons_ne_nil _ _)

theorem segmentsText_append_replicate (items : List (List Char)) (n : Nat) :
    segmentsText (items ++ List.replicate n []) = segmentsText items ++ List.replicate n '/' := by
  have hempty : segmentsText (List.replicate n []) = List.replicate n '/' := by
    induction n with
    | zero => rfl
    | succ n ih =>
      rw [List.replicate_succ, segmentsText, List.flatMap_cons, ← segmentsText, ih]
      rfl
  rw [← hempty, segmentsText, segmentsText, segmentsText, List.flatMap_append]

theorem arePlain_fileSegments (h : ∀ n ∈ ns, Path.IsName n) (n : Nat) :
    ArePlain (fileSegments ns ++ List.replicate n []) := by
  have hempty : ArePlain [[]] := ⟨by simp, by decide⟩
  have hfile : ArePlain (fileSegments ns) := by
    cases ns with
    | nil => exact hempty
    | cons m ns => exact arePlain_encode h
  have hmem {s : List Char} (hs : s ∈ fileSegments ns ++ List.replicate n []) :
      s ∈ fileSegments ns ∨ s ∈ [[]] := by
    rcases List.mem_append.mp hs with hs | hs
    · exact .inl hs
    · exact .inr (List.mem_singleton.mpr (List.eq_of_mem_replicate hs))
  exact
    { chars := fun s hs => (hmem hs).elim (hfile.chars s) (hempty.chars s)
      noDots := fun s hs => (hmem hs).elim (hfile.noDots s) (hempty.noDots s) }

theorem dropEmpty_replicate (n : Nat) :
    Segments.dropEmpty ([] :: List.replicate n []) = [[]] := by
  induction n with
  | zero => rfl
  | succ n ih => rw [List.replicate_succ, Segments.dropEmpty, ih]

/-- **A file URI with slashes after it** is read as the segments of the URI with an empty one for
each slash; of a URI without names all are dropped but one. -/
theorem parse_append_slashes (h : ∀ n ∈ ns, Path.IsName n) (n : Nat) :
    parse (Root.ofDirectory (Path.absolute ns) ++ slashes n)
      = .ok (ofSegments (if ns = [] then [[]] else fileSegments ns ++ List.replicate n [])) := by
  have htext : Root.ofDirectory (Path.absolute ns) ++ slashes n
      = String.ofList (ofSegments (fileSegments ns ++ List.replicate n [])).text := by
    rw [Root.ofDirectory, ofFilePath_eq_ofSegments h, slashes, ← String.ofList_append,
      text_ofSegments, text_ofSegments, segmentsText_append_replicate, List.append_assoc]
  have hne : fileSegments ns ++ List.replicate n [] ≠ [] :=
    List.append_ne_nil_of_left_ne_nil (fileSegments_ne_nil ns) _
  rw [htext, parse_ofSegments hne (arePlain_fileSegments h n)]
  cases ns with
  | nil => exact congrArg (fun items => Except.ok (ofSegments items)) (dropEmpty_replicate n)
  | cons m ns =>
    have hm : Percent.encode Percent.pathName m ≠ [] := fun heq =>
      (h m List.mem_cons_self).ne_nil (Percent.encode_eq_nil_iff.mp heq)
    rw [if_neg (List.cons_ne_nil _ _), fileSegments, if_neg (by simp), List.map_cons,
      List.cons_append, Segments.dropEmpty_of_ne hm]

theorem segmentsPath_fileSegments (hne : ns ≠ []) (n : Nat) :
    ∃ m, segmentsPath (fileSegments ns ++ List.replicate n [])
      = (Path.absolute ns).slashed m := by
  have hslashes : ((List.replicate n []).flatMap fun s => Path.slash :: Percent.decodeText s)
      = List.replicate n Path.slash := by
    induction n with
    | zero => rfl
    | succ n ih =>
      rw [List.replicate_succ, List.flatMap_cons, ih]
      rfl
  have hnames : ((fileSegments ns).flatMap fun s => Path.slash :: Percent.decodeText s)
      = Path.absolute ns := by
    rw [Path.absolute_eq_flatMap hne, fileSegments, if_neg (by simpa using hne)]
    simp [List.flatMap_map, Percent.decodeText_encode]
  unfold segmentsPath
  dsimp only
  rw [List.flatMap_append, hnames, hslashes]
  -- a drive letter at the end adds one more slash
  split
  · exact ⟨n + 1, (Path.slashed_succ _ n).symm⟩
  · exact ⟨n, rfl⟩

end Uri

/-! ## Spellings -/

namespace Root

/-- The ways to write the root for the directory of a path: the path or its URI, with any number of
slashes after it. -/
inductive Spells (p : String) : String → Prop where
  | path (n : Nat) : Spells p (p ++ slashes n)
  | uri (n : Nat) : Spells p (ofDirectory (textBytes p) ++ slashes n)

variable {p root root' : String}

/-- However a root is written, it names the path of its directory with slashes after it. -/
theorem filePath?_of_spells (h : ∀ n ∈ ns, Path.IsName n) (hp : textBytes p = Path.absolute ns)
    (hroot : Spells p root) :
    (∃ m, filePath? root = some ((Path.absolute ns).slashed m)) ∧
      (ns = [] → lastPiece (pathText root) = []) := by
  cases hroot with
  | path n =>
    have habsolute : Path.isAbsolute (textBytes p) = true := by
      rw [hp]
      rfl
    obtain ⟨hparse, hpath⟩ := filePath?_of_path habsolute n
    refine ⟨⟨n, by rw [hpath, hp]⟩, ?_⟩
    rintro rfl
    rw [pathText_of_unparsed hparse, String.toList_append, toList_slashes,
      toList_of_textBytes_slash hp, List.singleton_append, ← List.replicate_succ, lastPiece,
      ← List.nil_append (List.replicate _ _), trimEnd_append_replicate (by decide)]
    rfl
  | uri n =>
    rw [hp]
    have hparse := Uri.parse_append_slashes h n
    rw [filePath?_of_parse hparse, pathText_of_parse hparse]
    by_cases hne : ns = []
    · subst hne
      exact ⟨⟨0, rfl⟩, fun _ => rfl⟩
    · rw [if_neg hne, Uri.filePath?_ofSegments]
      obtain ⟨m, hm⟩ := Uri.segmentsPath_fileSegments hne n
      exact ⟨⟨m, congrArg some hm⟩, fun hnil => absurd hnil hne⟩

/-- However a root is written, index, pattern and node are those of its directory. -/
theorem isAt_of_spells (h : ∀ n ∈ ns, Path.IsName n) (hp : textBytes p = Path.absolute ns)
    (hroot : Spells p root) {r : Record} (hr : r.root = root) : r.IsAt ns := by
  subst hr
  obtain ⟨⟨m, hpath⟩, hnone⟩ := filePath?_of_spells h hp hroot
  have hnames : Path.names ((Path.absolute ns).slashed m) = ns := by
    rw [Path.names_slashed, Path.names_absolute h]
  have htext : trimEnd (fun c => c = '/') (Utf8.decodeLossy ((Path.absolute ns).slashed m))
      = Path.namesText ns := by
    rw [Path.trimEnd_decodeLossy_slashed, Path.trimEnd_decodeLossy_absolute h]
  exact Record.isAt_of_path hpath (Path.isAbsolute_slashed rfl m) hnames htext h hnone

/-- Nothing that looks at roots tells two of them apart: the node is called the same, the same files
are watched, and both name a path with the same parts. -/
structure SameViews (root root' : String) : Prop where
  node : ∀ app, NodeName.forRoot app root = NodeName.forRoot app root'
  glob : ∀ r r' : Record, r.root = root → r'.root = root' →
    Registration.sourceGlob r = Registration.sourceGlob r'
  path : ∃ q q', filePath? root = some q ∧ filePath? root' = some q' ∧
    Path.isAbsolute q = true ∧ Path.isAbsolute q' = true ∧ Path.names q = Path.names q'

end Root

open Root

/-- **How a root is written makes no difference.** Take a directory by any names, as long as its
path is a text: its path and its URI, with any number of slashes after either, all call the node by
the same name for every application and watch the same files, and the paths they name have the same
parts, which are the names of the directory. -/
theorem same_views_of_spellings {p root root' : String} (h : ∀ n ∈ ns, Path.IsName n)
    (hp : textBytes p = Path.absolute ns) (hroot : Spells p root) (hroot' : Spells p root') :
    SameViews root root' ∧ (∃ q, filePath? root = some q ∧ Path.names q = ns) ∧
      ∀ r : Record, r.root = root → r.IsAt ns := by
  have hnamed {root : String} (hroot : Spells p root) :
      ∃ q, filePath? root = some q ∧ Path.isAbsolute q = true ∧ Path.names q = ns := by
    obtain ⟨⟨m, hpath⟩, -⟩ := filePath?_of_spells h hp hroot
    refine ⟨_, hpath, Path.isAbsolute_slashed rfl m, ?_⟩
    rw [Path.names_slashed, Path.names_absolute h]
  obtain ⟨q, hq, habsolute, hnames⟩ := hnamed hroot
  obtain ⟨q', hq', habsolute', hnames'⟩ := hnamed hroot'
  have hsame : SameViews root root' :=
    { node := fun app => by
        have hat := isAt_of_spells h hp hroot (r := ⟨root, .null, []⟩) rfl
        have hat' := isAt_of_spells h hp hroot' (r := ⟨root', .null, []⟩) rfl
        exact (hat.node app).trans (hat'.node app).symm
      glob := fun r r' hr hr' =>
        (isAt_of_spells h hp hroot hr).glob.trans (isAt_of_spells h hp hroot' hr').glob.symm
      path := ⟨q, q', hq, hq', habsolute, habsolute', hnames.trans hnames'.symm⟩ }
  exact ⟨hsame, ⟨q, hq, hnames⟩, fun r hr => isAt_of_spells h hp hroot hr⟩

/-- What looks like a drive letter stays a name, at the start and at the end, and percent signs and
blanks are read as they are in a path and decoded in a URI. -/
theorem same_views_of_hard_path :
    let ns : List Bytes := [textBytes "C|", textBytes "50%25 é", textBytes "c:"]
    let p := "/C|/50%25 é/c:"
    (∀ n ∈ ns, Path.IsName n) ∧ textBytes p = Path.absolute ns ∧
      SameViews "file:///C|/50%2525%20%C3%A9/c://" "/C|/50%25 é/c:///" := by
  intro ns p
  have hnames : ∀ n ∈ ns, Path.IsName n := by decide
  have hp : textBytes p = Path.absolute ns := by decide
  have huri : ofDirectory (textBytes p) ++ slashes 2 = "file:///C|/50%2525%20%C3%A9/c://" := by
    decide
  have hpath : p ++ slashes 3 = "/C|/50%25 é/c:///" := by decide
  rw [← huri, ← hpath]
  exact ⟨hnames, hp, (same_views_of_spellings hnames hp (.uri 2) (.path 3)).1⟩

end SessionGate
