import SessionGate.Proofs.Session.Spelling

/-!
# The local path of a root

A root is any text. Some roots name a local directory, and then by an absolute path, whatever the
text is: a URI may be written in any letters, with blanks around it and breaks in it, with slashes
missing, too many or the wrong way round, and with dots that lead above its start.

- `Segments.done_resolveFrom_ne_nil`: the segments of a path are never none.
- `Uri.IsSchemeOf`: what stands before the first colon of a text.
- `Uri.parse_eq_ok`: what every URI that is read has.
- `Uri.filePath?_eq_some_iff`: which of them name a local path.
- `Root.IsReadAsPath`: what a root names; `Root.isReadAsPath`: every root.
-/

namespace SessionGate

/-! ## Segments -/

namespace Segments

theorem done_add_ne_nil (kind : Uri.Kind) (p : Progress) (piece : Piece) :
    (add kind p piece).done ≠ [] := by
  unfold add
  split
  · cases piece.split with
    | none => exact List.cons_ne_nil _ _
    | some cut => exact List.cons_ne_nil _ _
  · exact List.cons_ne_nil _ _

/-- A path has a segment, even where dots lead above its start: the last piece leaves one. -/
theorem done_resolveFrom_ne_nil {path : List Piece} (hpath : path ≠ []) (kind : Uri.Kind)
    (p : Progress) : (resolveFrom kind p path).done ≠ [] := by
  induction path generalizing p with
  | nil => exact absurd rfl hpath
  | cons piece rest ih =>
    rw [resolveFrom]
    dsimp only
    by_cases hlast : rest = []
    · subst hlast
      split
      · exact List.cons_ne_nil _ _
      · split
        · exact List.cons_ne_nil _ _
        · exact done_add_ne_nil kind p piece
    · split
      · exact ih hlast _
      · split
        · exact ih hlast _
        · exact ih hlast _

theorem segments_ofBroken_ne_nil (kind : Uri.Kind) (text : Broken) :
    (ofBroken kind text).segments ≠ [] := by
  have hpieces : (text.splitOnP fun c => kind.isSlash c.1).map Piece.ofText ≠ [] := by
    simp
  have hdone : (ofBroken kind text).done ≠ [] := done_resolveFrom_ne_nil hpieces kind ⟨[], false⟩
  simpa [Progress.segments] using hdone

theorem dropEmpty_ne_nil {items : List (List Char)} (h : items ≠ []) : dropEmpty items ≠ [] := by
  fun_induction dropEmpty items with
  | case1 next rest ih => exact ih (List.cons_ne_nil _ _)
  | case2 items => exact h

end Segments

namespace Uri

/-! ## The scheme -/

/-- The characters of a text that count: no margin, and no breaks. -/
def counted (text : List Char) : List Char :=
  (trimEnd isMargin (text.dropWhile isMargin)).filter fun c => !isBreak c

/-- What stands before the first colon of a text, as it is written. -/
def IsSchemeOf (root : String) (scheme : List Char) : Prop :=
  ':' ∉ scheme ∧ ∃ rest, counted root.toList = scheme ++ ':' :: rest

theorem plain_withBreaks (isAfterBreak : Bool) (text : List Char) :
    Segments.plain (withBreaks isAfterBreak text) = text.filter fun c => !isBreak c := by
  induction text generalizing isAfterBreak with
  | nil => rfl
  | cons c rest ih =>
    rw [withBreaks]
    by_cases hbreak : isBreak c = true
    · rw [if_pos hbreak, ih, List.filter_cons_of_neg (by simp [hbreak])]
    · have hplain : Segments.plain ((c, isAfterBreak) :: withBreaks false rest)
          = c :: Segments.plain (withBreaks false rest) := rfl
      rw [if_neg hbreak, hplain, ih, List.filter_cons_of_pos (by simpa using hbreak)]

theorem plain_clean (text : List Char) : Segments.plain (clean text) = counted text :=
  plain_withBreaks false _

/-- A scheme is what stands before the colon, in lower case. -/
theorem splitScheme?_eq_some {text scheme rest : List Char}
    (h : splitScheme? text = some (scheme, rest)) :
    ∃ written, ':' ∉ written ∧ text = written ++ ':' :: rest ∧
      scheme = written.map Char.toLower := by
  unfold splitScheme? at h
  split at h
  · cases h
  · split at h
    · cases h
    · next first others _ =>
      split at h
      case h_2 => cases h
      next rest' hcolon =>
        cases h
        refine ⟨_, fun hmem => ?_, ?_, rfl⟩
        · have hchar : isSchemeChar ':' = true := List.mem_takeWhile_imp hmem
          exact absurd hchar (by decide)
        · rw [← hcolon, List.takeWhile_append_dropWhile]

/-- Only the scheme of files is read as that of files. -/
theorem ne_file_of_kindOf {scheme : List Char} (h : kindOf scheme ≠ .file) :
    scheme ≠ ['f', 'i', 'l', 'e'] := by
  rintro rfl
  exact h rfl

/-! ## Files -/

theorem fileAt_eq (authority : Authority) (text : Segments.Broken) :
    ∃ items, items ≠ [] ∧ (fileAt authority text).2 = .segments items :=
  ⟨_, Segments.dropEmpty_ne_nil (Segments.segments_ofBroken_ne_nil .file text), rfl⟩

/-- Whatever follows `file:`, there is a path of segments. -/
theorem readFile_eq_ok {text : Segments.Broken} {authority : Authority} {path : UriPath}
    (h : readFile text = .ok (authority, path)) :
    ∃ items, items ≠ [] ∧ path = .segments items := by
  have hfile {a : Authority} {t : Segments.Broken}
      (h : (.ok (fileAt a t) : Except UriError (Authority × UriPath)) = .ok (authority, path)) :
      ∃ items, items ≠ [] ∧ path = .segments items := by
    obtain ⟨items, hne, hpath⟩ := fileAt_eq a t
    rw [Except.ok.inj h] at hpath
    exact ⟨items, hne, hpath⟩
  unfold readFile at h
  split at h
  · split at h
    · dsimp only at h
      split at h
      · exact hfile h
      · split at h
        · exact hfile h
        · -- a host is read before the path
          generalize Host.parse _ = read at h
          cases read with
          | error e => cases h
          | ok host =>
            by_cases hlocal : host = .domain ['l', 'o', 'c', 'a', 'l', 'h', 'o', 's', 't']
            · subst hlocal
              exact hfile h
            · exact hfile ((if_neg hlocal).symm.trans h)
    · exact hfile h
  · exact hfile h

/-- The host of a URI is this one: none, or the local one by its name. -/
def IsLocal (u : Uri) : Prop :=
  u.host? = none ∨ u.host? = some .empty ∨
    u.host? = some (.domain ['l', 'o', 'c', 'a', 'l', 'h', 'o', 's', 't'])

theorem isLocalHost_iff {u : Uri} : isLocalHost u.host? = true ↔ u.IsLocal := by
  unfold isLocalHost IsLocal
  cases u.host? with
  | none => simp
  | some host => simp

/-- A URI names a local path exactly if it is that of a file here. -/
theorem filePath?_eq_some_iff {u : Uri} {p : Path} :
    u.filePath? = some p ↔ u.scheme = ['f', 'i', 'l', 'e'] ∧ u.IsLocal ∧
      ∃ items, u.path = .segments items ∧ segmentsPath items = p := by
  have hcheck : (decide (u.scheme = ['f', 'i', 'l', 'e']) && isLocalHost u.host?) = true ↔
      u.scheme = ['f', 'i', 'l', 'e'] ∧ u.IsLocal := by
    rw [Bool.and_eq_true, decide_eq_true_eq, isLocalHost_iff]
  unfold filePath?
  by_cases hfile : u.scheme = ['f', 'i', 'l', 'e'] ∧ u.IsLocal
  · rw [if_pos (hcheck.mpr hfile)]
    cases hpath : u.path with
    | rootless text => simp
    | segments items => simp [hfile]
  · rw [if_neg (mt hcheck.mp hfile)]
    exact iff_of_false nofun fun h => hfile ⟨h.1, h.2.1⟩

theorem segmentsPath_isAbsolute {items : List (List Char)} (h : items ≠ []) :
    ∃ rest, segmentsPath items = Path.slash :: rest := by
  obtain ⟨s, items, rfl⟩ := List.exists_cons_of_ne_nil h
  unfold segmentsPath
  dsimp only
  rw [List.flatMap_cons, List.cons_append]
  split
  · exact ⟨_, List.cons_append⟩
  · exact ⟨_, rfl⟩

/-! ## Reading -/

/-- A URI that is read has the scheme that stands before its first colon, and if that of files then
a path of segments. -/
theorem parse_eq_ok {root : String} {u : Uri} (h : parse root = .ok u) :
    ∃ written, IsSchemeOf root written ∧ u.scheme = written.map Char.toLower ∧
      (u.scheme = ['f', 'i', 'l', 'e'] → ∃ items, items ≠ [] ∧ u.path = .segments items) := by
  unfold parse at h
  dsimp only at h
  split at h
  · cases h
  · next scheme rest hscheme =>
    rw [plain_clean] at hscheme
    obtain ⟨written, hcolon, htext, hlower⟩ := splitScheme?_eq_some hscheme
    have hwritten : IsSchemeOf root written := ⟨hcolon, rest, htext⟩
    split at h
    · generalize hread : readFile _ = read at h
      cases read with
      | error e => cases h
      | ok found =>
        cases h
        exact ⟨written, hwritten, hlower, fun _ => readFile_eq_ok hread⟩
    · next hkind =>
      have hne : scheme ≠ ['f', 'i', 'l', 'e'] := ne_file_of_kindOf (by rw [hkind]; nofun)
      generalize readNetwork _ _ = read at h
      cases read with
      | error e => cases h
      | ok found =>
        cases h
        exact ⟨written, hwritten, hlower, fun hfile => absurd hfile hne⟩
    · next hkind =>
      have hne : scheme ≠ ['f', 'i', 'l', 'e'] := ne_file_of_kindOf (by rw [hkind]; nofun)
      generalize readPlain _ _ _ = read at h
      cases read with
      | error e => cases h
      | ok found =>
        cases h
        exact ⟨written, hwritten, hlower, fun hfile => absurd hfile hne⟩

end Uri

namespace Root

variable {root : String} {p : Path}

/-- What a root names, for a root of any kind. -/
structure IsReadAsPath (root : String) : Prop where
  /-- A local path is absolute. -/
  absolute : ∀ p, filePath? root = some p → ∃ rest, p = Path.slash :: rest
  /-- A text that begins with a slash is no URI, and names itself octet by octet. -/
  path : root.toList.head? = some '/' →
    (∀ u, Uri.parse root ≠ .ok u) ∧ filePath? root = some (textBytes root)
  /-- A URI names a local path exactly if its scheme, in whatever letters it is written, is that of
  files, and its host is none or the local one. -/
  uri : ∀ u, Uri.parse root = .ok u → ∃ scheme, Uri.IsSchemeOf root scheme ∧
    ((∃ p, filePath? root = some p) ↔
      scheme.map Char.toLower = ['f', 'i', 'l', 'e'] ∧ u.IsLocal)
  /-- Any other text names none. -/
  other : (∀ u, Uri.parse root ≠ .ok u) → root.toList.head? ≠ some '/' → filePath? root = none

theorem isAbsolute_textBytes_iff :
    Path.isAbsolute (textBytes root) = true ↔ root.toList.head? = some '/' := by
  constructor
  · intro habsolute
    exact Utf8.head?_of_head?_encode (by decide) (of_decide_eq_true habsolute)
  · intro hhead
    obtain ⟨rest, hrest⟩ := List.head?_eq_some_iff.mp hhead
    rw [textBytes, hrest, Utf8.encode_cons]
    rfl

/-- A text that is no URI is a path if it begins with a slash, and nothing otherwise. -/
theorem filePath?_of_unparsed (h : ∀ u, Uri.parse root ≠ .ok u) :
    filePath? root = if root.toList.head? = some '/' then some (textBytes root) else none := by
  unfold filePath?
  cases hparse : Uri.parse root with
  | ok u => exact absurd hparse (h u)
  | error e =>
    dsimp only
    by_cases hslash : root.toList.head? = some '/'
    · rw [if_pos hslash, if_pos (isAbsolute_textBytes_iff.mpr hslash)]
    · rw [if_neg hslash, if_neg fun habsolute => hslash (isAbsolute_textBytes_iff.mp habsolute)]

theorem ne_ok_of_slash (h : root.toList.head? = some '/') : ∀ u, Uri.parse root ≠ .ok u := by
  intro u hu
  rw [Uri.parse_of_slash h] at hu
  cases hu

/-- The path that a URI names is absolute. -/
theorem isAbsolute_of_parse {u : Uri} (hu : Uri.parse root = .ok u) (hp : filePath? root = some p) :
    ∃ rest, p = Path.slash :: rest := by
  rw [filePath?_of_parse hu, Uri.filePath?_eq_some_iff] at hp
  obtain ⟨hfile, -, items, hitems, rfl⟩ := hp
  obtain ⟨-, -, -, hsegments⟩ := Uri.parse_eq_ok hu
  obtain ⟨items', hne, hitems'⟩ := hsegments hfile
  cases hitems.symm.trans hitems'
  exact Uri.segmentsPath_isAbsolute hne

/-- The path that any root names is absolute. -/
theorem isAbsolute_of_filePath? (hp : filePath? root = some p) :
    ∃ rest, p = Path.slash :: rest := by
  by_cases hparse : ∃ u, Uri.parse root = .ok u
  · obtain ⟨u, hu⟩ := hparse
    exact isAbsolute_of_parse hu hp
  · rw [filePath?_of_unparsed (not_exists.mp hparse)] at hp
    split at hp
    · next hslash =>
      cases hp
      exact List.head?_eq_some_iff.mp (of_decide_eq_true (isAbsolute_textBytes_iff.mpr hslash))
    · cases hp

/-- **Every root that names a local path names an absolute one.** A text that begins with a slash is
no URI and names itself, octet by octet; a URI names a path exactly if it is that of a file, its
scheme written in any letters, with no host or the local one; and any other text names none. -/
theorem isReadAsPath (root : String) : IsReadAsPath root where
  absolute _ hp := isAbsolute_of_filePath? hp
  path hslash := by
    have hnone := ne_ok_of_slash hslash
    exact ⟨hnone, by rw [filePath?_of_unparsed hnone, if_pos hslash]⟩
  uri u hu := by
    obtain ⟨scheme, hscheme, hlower, hsegments⟩ := Uri.parse_eq_ok hu
    refine ⟨scheme, hscheme, ?_⟩
    rw [filePath?_of_parse hu, ← hlower]
    constructor
    · rintro ⟨p, hp⟩
      obtain ⟨hfile, hlocal, -⟩ := Uri.filePath?_eq_some_iff.mp hp
      exact ⟨hfile, hlocal⟩
    · rintro ⟨hfile, hlocal⟩
      obtain ⟨items, -, hitems⟩ := hsegments hfile
      exact ⟨_, Uri.filePath?_eq_some_iff.mpr ⟨hfile, hlocal, items, hitems, rfl⟩⟩
  other hnone hslash := by
    rw [filePath?_of_unparsed hnone, if_neg hslash]

/-- Blanks, breaks and case do not count, slashes may be missing or the wrong way round, and dots
lead no higher than the start. -/
example : filePath? " Fi\tLe:..\\a%20b/%2e\n" = some (textBytes "/a b/") := by
  decide

end Root

end SessionGate
