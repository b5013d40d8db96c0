import Mathlib.Data.List.TakeWhile
import SessionGate.Proofs.Path.Names
import SessionGate.Proofs.Text.Trim
import SessionGate.Proofs.Uri.Percent
import SessionGate.Uri.FilePath

/-!
# URIs of files

The URI of a file is its names, encoded, with a slash before each. A reader does not read it back by
names: it cleans the text, looks for a scheme, a host, a query and a fragment, resolves dot segments
and drive letters, and encodes what is left. An encoded name gives it nothing to do.

- `Uri.ofSegments`: the URI of a file with these segments.
- `Uri.parse_ofSegments`: it is read back, but for empty segments at its start.
- `Uri.parse_ofFilePath`: the URI of a path is read back as it is.
- `Uri.filePath?_ofFilePath`: and names the path, which may get one more slash.
-/

namespace SessionGate

open Percent Segments

variable {items : List (List Char)} {text : List Char}

namespace Uri

/-- The URI of a file of this host with these segments. -/
def ofSegments (items : List (List Char)) : Uri where
  scheme := ['f', 'i', 'l', 'e']
  authority := some noHost
  path := .segments items
  query := none
  fragment := none

theorem text_ofSegments (items : List (List Char)) :
    (ofSegments items).text
      = ['f', 'i', 'l', 'e', ':', '/', '/'] ++ segmentsText items := by
  simp [ofSegments, text, Authority.text, noHost, Host.text, pathText, markedText]

/-! ## Text with nothing in it to take out -/

/-- The segments of a path give a reader nothing to do: they consist of characters that stand for
themselves, and none is a dot segment. -/
structure ArePlain (items : List (List Char)) : Prop where
  chars : ∀ s ∈ items, ∀ c ∈ s, IsPathChar c
  noDots : ∀ s ∈ items, isSingleDot s = false ∧ isDoubleDot s = false

theorem ArePlain.mem_segmentsText (h : ArePlain items) {c : Char} (hc : c ∈ segmentsText items) :
    c = '/' ∨ IsPathChar c := by
  obtain ⟨s, hs, hc⟩ := List.mem_flatMap.mp hc
  exact (List.mem_cons.mp hc).imp_right (h.chars s hs c)

theorem isBreak_eq_false {c : Char} (h : 0x20 < c.toNat) : isBreak c = false := by
  rw [Bool.eq_false_iff]
  intro hbreak
  simp only [isBreak, Bool.or_eq_true, decide_eq_true_eq] at hbreak
  rcases hbreak with (rfl | rfl) | rfl <;> exact absurd h (by decide)

theorem withBreaks_of_forall (h : ∀ c ∈ text, 0x20 < c.toNat) :
    withBreaks false text = text.map (·, false) := by
  induction text with
  | nil => rfl
  | cons c rest ih =>
    rw [List.forall_mem_cons] at h
    rw [withBreaks, if_neg (by simp [isBreak_eq_false h.1]), ih h.2, List.map_cons]

theorem clean_of_forall (h : ∀ c ∈ text, 0x20 < c.toNat) : clean text = text.map (·, false) := by
  have hmargin : ∀ c ∈ text, isMargin c = false := by
    simpa [isMargin] using h
  have hstart : text.dropWhile isMargin = text :=
    List.dropWhile_eq_self_iff.mpr fun hne => by simp [hmargin _ (List.getElem_mem hne)]
  rw [clean, hstart, trimEnd_of_forall hmargin, withBreaks_of_forall h]

theorem isMark_eq_false {c : Char} (h : c = '/' ∨ IsPathChar c) : isMark c = false := by
  rw [Bool.eq_false_iff]
  intro hmark
  simp only [isMark, Bool.or_eq_true, decide_eq_true_eq] at hmark
  rcases hmark with rfl | rfl <;> exact absurd h (by decide)

theorem isSlash_eq_false {c : Char} (h : IsPathChar c) : Kind.isSlash .file c = false := by
  simp [Kind.isSlash, h.2.2.1, h.2.2.2]

theorem splitMarks_of_forall (kind : Kind) (h : ∀ c ∈ text, isMark c = false) :
    splitMarks kind text = (text, none, none) := by
  have hmarks : ∀ c ∈ text, (!isMark c) = true := by simpa using h
  unfold splitMarks
  dsimp only
  rw [List.dropWhile_eq_nil_iff.mpr hmarks, List.takeWhile_eq_self_iff.mpr hmarks]

end Uri

/-! ## Segments -/

namespace Segments

open Uri

/-- A sequence of images is cut where their preimages are. -/
theorem splitOnP_map {α β : Type} (f : α → β) (isSeparator : β → Bool) (text : List α) :
    (text.map f).splitOnP isSeparator
      = (text.splitOnP fun a => isSeparator (f a)).map (List.map f) := by
  induction text with
  | nil => rfl
  | cons a rest ih =>
    rw [List.map_cons, List.splitOnP_cons_eq_if_modifyHead, List.splitOnP_cons_eq_if_modifyHead, ih]
    split
    · rfl
    · cases rest.splitOnP fun a => isSeparator (f a) <;> rfl

theorem splitOnP_segmentsText (h : ∀ s ∈ items, ∀ c ∈ s, IsPathChar c) :
    (segmentsText items).splitOnP (Kind.isSlash .file) = [] :: items := by
  -- by induction on the segments, with the piece that the next slash ends as it has begun
  have hgo (before : List Char) (hbefore : ∀ c ∈ before, IsPathChar c) :
      (before ++ segmentsText items).splitOnP (Kind.isSlash .file) = before :: items := by
    induction items generalizing before with
    | nil =>
      rw [segmentsText, List.flatMap_nil, List.append_nil]
      exact List.splitOnP_eq_singleton fun c hc => isSlash_eq_false (hbefore c hc)
    | cons s items ih =>
      rw [List.forall_mem_cons] at h
      rw [segmentsText, List.flatMap_cons, ← segmentsText, List.cons_append,
        List.splitOnP_append_cons _ _ (by decide), ih h.2 s h.1,
        List.splitOnP_eq_singleton fun c hc => isSlash_eq_false (hbefore c hc), List.singleton_append]
  simpa using hgo []

theorem plain_map (text : List Char) : plain (text.map (·, false)) = text := by
  simp [plain, List.map_map, Function.comp_def]

theorem splitAtBreak?_of_map (text : List Char) : splitAtBreak? (text.map (·, false)) = none := by
  unfold splitAtBreak?
  split
  · next heq => simp [List.map_eq_cons_iff] at heq
  · rfl

theorem ofText_of_map (h : ∀ c ∈ text, IsPathChar c) :
    Piece.ofText (text.map (·, false)) = ⟨text, none⟩ := by
  rw [Piece.ofText, splitAtBreak?_of_map, plain_map, encodeText_eq_self h, Option.map_none]

/-- Where a path has begun, segments that are no dot segments are added one after another. -/
theorem resolveFrom_of_forall (kind : Kind) (p : Progress) (hp : p.done ≠ [])
    (hdots : ∀ s ∈ items, isSingleDot s = false ∧ isDoubleDot s = false) :
    resolveFrom kind p (items.map fun s => ⟨s, none⟩)
      = { p with done := items.reverse ++ p.done } := by
  induction items generalizing p with
  | nil => rfl
  | cons s items ih =>
    rw [List.forall_mem_cons] at hdots
    have hadd : add kind p ⟨s, none⟩ = { p with done := s :: p.done } := by
      rw [add, if_neg (by simp [hp])]
    rw [List.map_cons, resolveFrom]
    dsimp only
    rw [if_neg (by simp [hdots.1.2]), if_neg (by simp [hdots.1.1]), hadd,
      ih { p with done := s :: p.done } (List.cons_ne_nil _ _) hdots.2]
    simp

/-- The first slash leaves an empty segment, and no drive letter counts after it. -/
theorem ofBroken_segmentsText (h : ArePlain items) :
    ofBroken .file ((segmentsText items).map (·, false)) = ⟨items.reverse ++ [[]], false⟩ := by
  have hpieces : (((segmentsText items).map (·, false)).splitOnP
        fun c => Kind.isSlash .file c.1).map Piece.ofText
      = ⟨[], none⟩ :: items.map fun s => ⟨s, none⟩ := by
    rw [splitOnP_map, splitOnP_segmentsText h.chars, List.map_map, List.map_cons]
    congr 1
    exact List.map_congr_left fun s hs => ofText_of_map (h.chars s hs)
  rw [ofBroken, resolve, hpieces]
  exact resolveFrom_of_forall .file ⟨[[]], false⟩ (List.cons_ne_nil _ _) h.noDots

theorem dropEmpty_of_ne {s : List Char} (hs : s ≠ []) (rest : List (List Char)) :
    dropEmpty (s :: rest) = s :: rest := by
  cases s with
  | nil => exact absurd rfl hs
  | cons c s => rfl

end Segments

namespace Uri

/-! ## Reading back -/

theorem fileAt_segmentsText (hne : items ≠ []) (h : ArePlain items) :
    fileAt noHost ((segmentsText items).map (·, false))
      = (noHost, .segments (dropEmpty items)) := by
  rw [fileAt, ofBroken_segmentsText h]
  obtain ⟨s, items, rfl⟩ := List.exists_cons_of_ne_nil hne
  simp [Progress.segments, dropEmpty]

/-- What follows `file:` with no host in it. -/
theorem readFile_segmentsText (hne : items ≠ []) (h : ArePlain items) :
    readFile (('/' :: '/' :: segmentsText items).map (·, false))
      = .ok (noHost, .segments (dropEmpty items)) := by
  rw [← fileAt_segmentsText hne h]
  obtain ⟨s, items, rfl⟩ := List.exists_cons_of_ne_nil hne
  rfl

/-- **A file URI is read back** where its segments are plain, but for empty ones at its start. -/
theorem parse_ofSegments (hne : items ≠ []) (h : ArePlain items) :
    parse (String.ofList (ofSegments items).text) = .ok (ofSegments (dropEmpty items)) := by
  have hblank : ∀ c ∈ (ofSegments items).text, 0x20 < c.toNat := by
    rw [text_ofSegments, List.forall_mem_append]
    refine ⟨by simp, fun c hc => ?_⟩
    rcases h.mem_segmentsText hc with rfl | hc
    · decide
    · exact hc.blank_lt
  have hscheme : splitScheme? (ofSegments items).text
      = some (['f', 'i', 'l', 'e'], '/' :: '/' :: segmentsText items) := by
    rw [text_ofSegments]
    rfl
  have hmarks : ∀ c ∈ '/' :: '/' :: segmentsText items, isMark c = false := by
    simpa using ⟨by decide, fun c hc => isMark_eq_false (h.mem_segmentsText hc)⟩
  -- of a file URI the text with its breaks is read on, here it has none
  have hcolon : (((ofSegments items).text.map (·, false)).dropWhile fun c => c.1 != ':').drop 1
      = ('/' :: '/' :: segmentsText items).map (·, false) := by
    rw [text_ofSegments]
    rfl
  have hrest : (('/' :: '/' :: segmentsText items).map (·, false)).takeWhile
      (fun c => !isMark c.1) = ('/' :: '/' :: segmentsText items).map (·, false) :=
    List.takeWhile_eq_self_iff.mpr (by simpa using hmarks)
  have hkind : kindOf ['f', 'i', 'l', 'e'] = .file := rfl
  rw [parse, String.toList_ofList]
  dsimp only
  rw [clean_of_forall hblank, plain_map, hscheme]
  dsimp only
  rw [splitMarks_of_forall _ hmarks, hkind, hcolon]
  dsimp only
  rw [hrest, readFile_segmentsText hne h]
  rfl

/-! ## The URI of a path -/

variable {ns : List Bytes}

/-- Names are plain once they are encoded; none is written as a dot segment. -/
theorem arePlain_encode (h : ∀ n ∈ ns, Path.IsName n) : ArePlain (ns.map (encode pathName)) where
  chars s hs c hc := by
    obtain ⟨n, -, rfl⟩ := List.mem_map.mp hs
    exact isPathChar_of_mem_encode hc
  noDots s hs := by
    obtain ⟨n, hn, rfl⟩ := List.mem_map.mp hs
    rw [Bool.eq_false_iff, Bool.eq_false_iff, ne_eq, ne_eq, isSingleDot_encode,
      isDoubleDot_encode]
    exact ⟨(h n hn).ne_dot, (h n hn).ne_dotDot⟩

theorem ofFilePath_slash : ofFilePath (Path.absolute []) = ofSegments [[]] := rfl

theorem ofFilePath_absolute (h : ∀ n ∈ ns, Path.IsName n) (hne : ns ≠ []) :
    ofFilePath (Path.absolute ns) = ofSegments (ns.map (encode pathName)) := by
  rw [ofFilePath, Path.names_absolute h, if_neg (by simpa using hne)]
  rfl

/-- **The URI of a path is read back** as it is. -/
theorem parse_ofFilePath (h : ∀ n ∈ ns, Path.IsName n) :
    parse (String.ofList (ofFilePath (Path.absolute ns)).text)
      = .ok (ofFilePath (Path.absolute ns)) := by
  cases ns with
  | nil =>
    rw [ofFilePath_slash]
    exact parse_ofSegments (List.cons_ne_nil _ _) ⟨by simp, by decide⟩
  | cons n ns =>
    have hn : encode pathName n ≠ [] := fun heq =>
      (h n List.mem_cons_self).ne_nil (encode_eq_nil_iff.mp heq)
    rw [ofFilePath_absolute h (List.cons_ne_nil _ _),
      parse_ofSegments (by simp) (arePlain_encode h), List.map_cons, dropEmpty_of_ne hn]

end Uri

/-! ## The path of a URI -/

/-- Whether a path ends in an ASCII letter followed by a colon or bar. -/
def Path.EndsInDrive (p : Path) : Prop :=
  ∃ front letter mark, p = front ++ [letter, mark] ∧ (Char.ofNat letter.toNat).isAlpha = true ∧
    (mark = 0x3A ∨ mark = 0x7C)

namespace Uri

theorem endsInDrive_iff {p : Path} (h : Path.isAbsolute p = true) :
    endsInDrive p = true ↔ p.EndsInDrive := by
  constructor
  · intro hends
    unfold endsInDrive at hends
    split at hends
    case h_2 => cases hends
    next mark letter last front heq =>
    simp only [Bool.and_eq_true, Bool.or_eq_true, decide_eq_true_eq] at hends
    refine ⟨(last :: front).reverse, letter, mark, ?_, hends.2, hends.1⟩
    rw [← List.reverse_reverse p, heq]
    simp
  · rintro ⟨front, letter, mark, rfl, hletter, hmark⟩
    cases hfront : front.reverse with
    | nil =>
      rw [List.reverse_eq_nil_iff.mp hfront] at h
      have hslash : letter = Path.slash := by simpa [Path.isAbsolute] using h
      rw [hslash] at hletter
      exact absurd hletter (by decide)
    | cons last front => simp [endsInDrive, hfront, hletter, hmark]

theorem filePath?_ofSegments (items : List (List Char)) :
    filePath? (ofSegments items) = some (segmentsPath items) := rfl

/-- The URI of a path names that path. A drive letter at its end gets a slash. -/
theorem filePath?_ofFilePath (h : ∀ n ∈ ns, Path.IsName n) :
    filePath? (ofFilePath (Path.absolute ns)) = some (if endsInDrive (Path.absolute ns) then
      Path.absolute ns ++ [Path.slash] else Path.absolute ns) := by
  by_cases hne : ns = []
  · subst hne
    rfl
  · have hnames : ((ns.map (encode pathName)).flatMap fun s => Path.slash :: decodeText s)
        = Path.absolute ns := by
      rw [Path.absolute_eq_flatMap hne]
      simp [List.flatMap_map, decodeText_encode]
    rw [ofFilePath_absolute h hne, filePath?_ofSegments, segmentsPath, hnames]

end Uri

end SessionGate
