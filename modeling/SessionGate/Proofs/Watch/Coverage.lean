import SessionGate.Proofs.Index.Listing
import SessionGate.Proofs.Session.Root
import SessionGate.Proofs.Watch.Pattern

/-!
# Which sources are watched

The pattern of the files that are watched is the path of the root with a pattern after it. A client
reads all of it as a pattern, the path too, and nothing in the path is escaped. So the sources of a
workspace are watched exactly if its path, read as a pattern, stands for itself or for a directory
above it. It does unless there are brackets or braces in it that are closed again.

- `Pattern.matches_sourceTail_iff`: what the end of the pattern stands for.
- `Pattern.CoversItself`: a directory is among those that its path stands for, or one above it is.
- `Path.textBelow`: the path of a file below a root, as text.
- `Record.Watches`: the texts that the pattern of a session stands for.
- `Record.watches_sources_iff`: every root.
- `Record.unwatched_in_brackets`: a root with brackets, whose sources are not watched.
-/

namespace SessionGate

/-! ## The end of the pattern -/

namespace Pattern

/-- What follows the path of the root and a slash. -/
def sourceTail : List Char :=
  ['*', '*', '/', '*', '.', '\x7b', 'e', ',', 'h', '\x7d', 'r', 'l']

theorem toList_sourcePattern : Registration.sourcePattern.toList = '/' :: sourceTail := by decide

theorem closesNothing_sourceTail : ClosesNothing sourceTail where
  noClass := by decide
  noGroup depth := by simp [group?, sourceTail]

/-- A text ends as sources and headers do. -/
def EndsInSource (text : List Char) : Prop :=
  ∃ stem, text = stem ++ ['.', 'e', 'r', 'l'] ∨ text = stem ++ ['.', 'h', 'r', 'l']

theorem EndsInSource.append {t : List Char} (h : EndsInSource t) (s : List Char) :
    EndsInSource (s ++ t) := by
  obtain ⟨stem, rfl | rfl⟩ := h
  · exact ⟨s ++ stem, .inl (List.append_assoc ..).symm⟩
  · exact ⟨s ++ stem, .inr (List.append_assoc ..).symm⟩

/-- The end of the pattern stands for all texts that end as sources and headers do. -/
theorem matches_sourceTail_iff {t : List Char} : Matches true sourceTail t ↔ EndsInSource t := by
  have hgroup : group? 0 ['e', ',', 'h', '\x7d', 'r', 'l'] = some ([['e'], ['h']], ['r', 'l']) := by
    decide
  have hsingle : ¬IsDoubleStar true ['.', '\x7b', 'e', ',', 'h', '\x7d', 'r', 'l'] := by
    rintro ⟨-, after, hafter, -⟩
    cases hafter
  constructor
  · intro h
    -- the two stars are a whole segment, the third is not
    cases h with
    | itself stands => exact absurd rfl stands.notRun
    | run single => exact absurd ⟨rfl, _, rfl, .inr rfl⟩ single
    | @segments before _ _ whole h =>
      cases h with
      | itself stands => exact absurd rfl stands.notRun
      | @run _ last _ _ single within h =>
        refine EndsInSource.append (EndsInSource.append ?_ last) before
        cases h with
        | itself stands h =>
          cases h with
          | itself stands => cases hgroup.symm.trans (stands.noGroup rfl)
          | @ofGroup _ _ a _ _ _ read among h =>
            cases hgroup.symm.trans read
            simp only [List.mem_cons, List.not_mem_nil, or_false] at among
            rcases among with rfl | rfl
            · rw [eq_of_matches h (by simp [special])]
              exact ⟨[], .inl rfl⟩
            · rw [eq_of_matches h (by simp [special])]
              exact ⟨[], .inr rfl⟩
  · rintro ⟨stem, hstem⟩
    obtain ⟨before, last, rfl, hbefore, hlast⟩ := exists_last_segment stem
    have hplain {a : Char} (ha : [a] ∈ [['e'], ['h']]) (hself : IsPlain [a, 'r', 'l']) :
        Matches true sourceTail (before ++ (last ++ ['.', a, 'r', 'l'])) :=
      .segments hbefore (.run hsingle hlast (.itself (standsForItself_of_not_mem (by decide) _)
        (.ofGroup hgroup ha (matches_self _ _ hself))))
    rcases hstem with rfl | rfl
    · rw [List.append_assoc]
      exact hplain (by decide) (by decide)
    · rw [List.append_assoc]
      exact hplain (by decide) (by decide)

/-! ## Directories that are covered -/

/-- A directory is among those that its path, read as a pattern, stands for, or one above it is. -/
def CoversItself (p : List Char) : Prop :=
  ∃ w, w <+: p ++ ['/'] ∧ Matches true (p ++ ['/']) w

theorem startsSegment_append_slash (b : Bool) (p : List Char) :
    startsSegment b (p ++ ['/']) = true := by
  rw [startsSegment_append]
  rfl

theorem coversItself_of_isPlain {p : List Char} (h : IsPlain p) : CoversItself p := by
  have hslash : ClosesNothing ['/'] := ⟨by decide, fun depth => by simp [group?]⟩
  exact ⟨p ++ ['/'], List.prefix_rfl, matches_self true _ (.append hslash (by decide) h)⟩

/-- Below a directory that is covered all sources are. -/
theorem CoversItself.matches {p t : List Char} (h : CoversItself p) (ht : EndsInSource t) :
    Matches true (p ++ ['/'] ++ sourceTail) (p ++ ['/'] ++ t) := by
  obtain ⟨w, ⟨more, hmore⟩, hw⟩ := h
  have htext : p ++ ['/'] ++ t = w ++ (more ++ t) := by rw [← hmore, List.append_assoc]
  rw [htext]
  exact hw.append closesNothing_sourceTail (startsSegment_append_slash true p)
    (matches_sourceTail_iff.mpr (ht.append more))

/-- A directory is covered if one file right in it is. -/
theorem coversItself_of_matches {p name : List Char} (hname : '/' ∉ name)
    (h : Matches true (p ++ ['/'] ++ sourceTail) (p ++ ['/'] ++ name)) : CoversItself p := by
  have hslash := startsSegment_append_slash true p
  obtain ⟨w, t, hcut, hw, -⟩ := h.split closesNothing_sourceTail hslash
  refine ⟨w, ?_, hw⟩
  rcases List.append_eq_append_iff.mp hcut with ⟨more, hmore, hname'⟩ | ⟨more, hmore, -⟩
  · -- what the path stands for ends with a slash, and there is none in the name
    have hends := startsSegment_of_matches hw hslash
    have hnil : more = [] := by
      by_contra hne
      have hmem : '/' ∉ more := fun hmem => hname (hname' ▸ List.mem_append_left t hmem)
      rw [hmore, startsSegment_append, startsSegment_of_not_mem hmem hne] at hends
      cases hends
    rw [hmore, hnil, List.append_nil]
  · exact ⟨more, hmore.symm⟩

end Pattern

/-! ## The sources below a root -/

namespace Path

/-- The path of a root as text, without slashes at its end. -/
def trimmedText (root : Path) : List Char :=
  trimEnd (fun c => c = '/') (Utf8.decodeLossy root)

/-- The path of a file below a root as text: that of the root, and the names that lead to the
file. -/
def textBelow (root : Path) (names : List Bytes) : List Char :=
  root.trimmedText ++ namesText names

/-- The last of some names ends as those of sources and headers do. -/
def LeadToSource (names : List Bytes) : Prop :=
  ∃ above stem e, names = above ++ [stem ++ dot :: e] ∧
    (e = textBytes "erl" ∨ e = textBytes "hrl")

theorem leadToSource_of_isSource (above : List Bytes) {name : Bytes} (h : Walk.IsSource name) :
    LeadToSource (above ++ [name]) := by
  obtain ⟨stem, e, -, he, rfl⟩ := h
  exact ⟨above, stem, e, rfl, he⟩

theorem endsInSource_decodeLossy {stem e : Bytes} (he : e = textBytes "erl" ∨ e = textBytes "hrl") :
    Pattern.EndsInSource (Utf8.decodeLossy (stem ++ dot :: e)) := by
  rw [Utf8.decodeLossy_append_cons (by decide)]
  refine ⟨Utf8.decodeLossy stem, ?_⟩
  rcases he with rfl | rfl
  · exact .inl rfl
  · exact .inr rfl

/-- What follows the path of the root and a slash ends as sources and headers do. -/
theorem exists_textBelow_eq (root : Path) {names : List Bytes} (h : LeadToSource names) :
    ∃ t, root.textBelow names = root.trimmedText ++ ['/'] ++ t ∧ Pattern.EndsInSource t := by
  obtain ⟨above, stem, e, rfl, he⟩ := h
  have hlast : Pattern.EndsInSource (Utf8.decodeLossy (stem ++ dot :: e)) :=
    endsInSource_decodeLossy he
  cases above with
  | nil =>
    refine ⟨_, ?_, hlast⟩
    simp [textBelow, namesText]
  | cons n above =>
    refine ⟨Utf8.decodeLossy n ++ (namesText above ++ '/' :: Utf8.decodeLossy (stem ++ dot :: e)),
      ?_, ?_⟩
    · simp [textBelow, namesText]
    · exact .append (.append (.append hlast ['/']) _) _

end Path

namespace Record

/-- The client of a session is asked to watch a path. -/
def Watches (r : Record) (path : List Char) : Prop :=
  Pattern.Matches true (Registration.sourceGlob r).toList path

variable {r : Record} {q : Path}

theorem watches_iff (hroot : r.rootPath? = some q) (path : List Char) :
    r.Watches path ↔
      Pattern.Matches true (q.trimmedText ++ ['/'] ++ Pattern.sourceTail) path := by
  have hglob : (Registration.sourceGlob r).toList
      = q.trimmedText ++ ['/'] ++ Pattern.sourceTail := by
    rw [Registration.sourceGlob, Registration.globBase, hroot, String.toList_append,
      String.toList_ofList, Pattern.toList_sourcePattern, Path.trimmedText]
    simp
  rw [Watches, hglob]

/-- **Which sources are watched.** Take a session with a local root. All sources and headers below
the root are watched exactly if the root, read as a pattern, covers itself. It does if no bracket
and no brace in it is closed. And where it does, every file that the indexer lists is watched. -/
theorem watches_sources_iff (hroot : r.rootPath? = some q) :
    ((∀ names, (∀ n ∈ names, Path.IsName n) → Path.LeadToSource names →
        r.Watches (q.textBelow names)) ↔ Pattern.CoversItself q.trimmedText) ∧
      (Pattern.IsPlain q.trimmedText → Pattern.CoversItself q.trimmedText) ∧
      (Pattern.CoversItself q.trimmedText → ∀ (root : FileTree) (working : List Bytes)
        (files : List Path), root.IsProper → sourceFiles root working q = .ok files →
          ∀ f ∈ files, ∃ names, f = q.chain names ∧ r.Watches (q.textBelow names)) := by
  have hwatched (hcovers : Pattern.CoversItself q.trimmedText) {names : List Bytes}
      (hsource : Path.LeadToSource names) : r.Watches (q.textBelow names) := by
    obtain ⟨t, htext, ht⟩ := q.exists_textBelow_eq hsource
    rw [watches_iff hroot, htext]
    exact hcovers.matches ht
  refine ⟨⟨fun hall => ?_, fun hcovers names _ hsource => hwatched hcovers hsource⟩,
    Pattern.coversItself_of_isPlain, fun hcovers root working files hproper hfiles f hf => ?_⟩
  · -- one file right in the root tells
    have hone := hall [textBytes "x.erl"] (by decide) ⟨[], textBytes "x", _, rfl, .inl rfl⟩
    have htext : q.textBelow [textBytes "x.erl"]
        = q.trimmedText ++ ['/'] ++ ['x', '.', 'e', 'r', 'l'] := by
      have hname : Utf8.decodeLossy (textBytes "x.erl") = ['x', '.', 'e', 'r', 'l'] := by decide
      simp [Path.textBelow, Path.namesText, hname]
    rw [watches_iff hroot, htext] at hone
    exact Pattern.coversItself_of_matches (by decide) hone
  · by_cases hdirectory : ∃ place es,
        FileTree.resolve? root working q = some (place, .directory es)
    · obtain ⟨place, es, hes⟩ := hdirectory
      obtain ⟨-, above, name, rfl, hlisted⟩ := (mem_sourceFiles_iff hproper hes hfiles f).mp hf
      exact ⟨_, rfl, hwatched hcovers (Path.leadToSource_of_isSource above hlisted.source)⟩
    · rw [sourceFiles_eq_error fun place es hes => hdirectory ⟨place, es, hes⟩] at hfiles
      cases hfiles

/-- One directory of a name, and one source in it. -/
def oneSource (name : Bytes) : FileTree :=
  .directory [(name, .directory [(textBytes "x.erl", .file "")])]

theorem isProper_oneSource {name : Bytes} (h : Path.IsName name) : (oneSource name).IsProper := by
  have hinner : (FileTree.directory [(textBytes "x.erl", .file "")]).IsProper :=
    .directory (by decide) (by decide) (by simpa using .file "")
  exact .directory (by simpa using h) (by simp) (by simpa using hinner)

/-- A root with a star, and with a bracket and a brace that are never closed. -/
theorem watches_sources_below_star :
    (Record.mk "/a*[\x7bb" .null []).rootPath? = some (textBytes "/a*[\x7bb") ∧
      Pattern.IsPlain (Path.trimmedText (textBytes "/a*[\x7bb")) ∧
      (oneSource (textBytes "a*[\x7bb")).IsProper ∧
      sourceFiles (oneSource (textBytes "a*[\x7bb")) [] (textBytes "/a*[\x7bb")
        = .ok [textBytes "/a*[\x7bb/x.erl"] ∧
      (Record.mk "/a*[\x7bb" .null []).Watches
        (Path.textBelow (textBytes "/a*[\x7bb") [textBytes "src", textBytes "y.hrl"]) ∧
      ∃ names, textBytes "/a*[\x7bb/x.erl" = Path.chain (textBytes "/a*[\x7bb") names ∧
        (Record.mk "/a*[\x7bb" .null []).Watches
          (Path.textBelow (textBytes "/a*[\x7bb") names) := by
  have hroot : (Record.mk "/a*[\x7bb" .null []).rootPath? = some (textBytes "/a*[\x7bb") := by
    decide
  have hplain : Pattern.IsPlain (Path.trimmedText (textBytes "/a*[\x7bb")) := by decide
  have hproper : (oneSource (textBytes "a*[\x7bb")).IsProper := isProper_oneSource (by decide)
  have hfiles : sourceFiles (oneSource (textBytes "a*[\x7bb")) [] (textBytes "/a*[\x7bb")
      = .ok [textBytes "/a*[\x7bb/x.erl"] := by cbv
  obtain ⟨hiff, hcovers, hlisted⟩ := watches_sources_iff hroot
  refine ⟨hroot, hplain, hproper, hfiles, ?_, ?_⟩
  · exact hiff.mpr (hcovers hplain) _ (by decide)
      ⟨[textBytes "src"], textBytes "y", _, rfl, .inr rfl⟩
  · exact hlisted (hcovers hplain) _ _ _ hproper hfiles _ List.mem_cons_self

/-- A root whose name holds brackets. The indexer lists a source in it that is not watched. -/
theorem unwatched_in_brackets :
    (Record.mk "/a[b]" .null []).rootPath? = some (textBytes "/a[b]") ∧
      sourceFiles (oneSource (textBytes "a[b]")) [] (textBytes "/a[b]")
        = .ok [textBytes "/a[b]/x.erl"] ∧
      Path.IsName (textBytes "x.erl") ∧ Path.LeadToSource [textBytes "x.erl"] ∧
      Path.textBelow (textBytes "/a[b]") [textBytes "x.erl"] = "/a[b]/x.erl".toList ∧
      ¬(Record.mk "/a[b]" .null []).Watches
        (Path.textBelow (textBytes "/a[b]") [textBytes "x.erl"]) := by
  have hroot : (Record.mk "/a[b]" .null []).rootPath? = some (textBytes "/a[b]") := by decide
  have hfiles : sourceFiles (oneSource (textBytes "a[b]")) [] (textBytes "/a[b]")
      = .ok [textBytes "/a[b]/x.erl"] := by cbv
  have htext : Path.textBelow (textBytes "/a[b]") [textBytes "x.erl"] = "/a[b]/x.erl".toList := by
    decide
  refine ⟨hroot, hfiles, by decide, ⟨[], textBytes "x", _, rfl, .inl rfl⟩, htext, ?_⟩
  rw [watches_iff hroot, htext]
  intro h
  have hpattern : Path.trimmedText (textBytes "/a[b]") ++ ['/'] ++ Pattern.sourceTail
      = '/' :: 'a' :: '[' :: (['b', ']', '/'] ++ Pattern.sourceTail) := by decide
  rw [hpattern] at h
  -- the slash and the letter stand for themselves, the bracket opens a class of one letter
  cases h with
  | itself _ h =>
    cases h with
    | itself _ h =>
      cases h with
      | itself stands => exact absurd (stands.noClass rfl) (by decide)
      | ofClass read within =>
        cases read
        obtain ⟨-, range, hrange, hle, -⟩ := within
        rw [List.mem_singleton.mp hrange] at hle
        exact absurd hle (by decide)

end Record

end SessionGate
