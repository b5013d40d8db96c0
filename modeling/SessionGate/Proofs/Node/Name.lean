import Mathlib.Data.List.Induction
import SessionGate.Proofs.Session.Root

/-!
# What a node is called

A node is called by an application and the last name in a root, and both may be any texts: the root
a URI of any scheme, a path, or neither, its last name empty or full of characters that mean
something to a shell or to the program of the node. The name itself consists of letters, and cannot
be taken for anything but a name.

- `NodeName.IsLetter`, `NodeName.Replaces`: what a name may consist of, and how a text is made to.
- `Root.IsLastPiece`, `Root.IsBasename`: the last name in a text and in a root, as relations;
  `Root.isBasename_iff`: every root has one, and it is the one that is used.
- `NodeName.readFlags`: arguments, read as flags with their values.
- `NodeName.IsNameFor`: what the name of a node is; `NodeName.forRoot_isNameFor`: every application
  and every root.
-/

namespace SessionGate

/-! ## Letters -/

namespace NodeName

/-- ASCII letters, digits and the underscore. -/
def IsLetter (c : Char) : Prop :=
  ('A' ≤ c ∧ c ≤ 'Z') ∨ ('a' ≤ c ∧ c ≤ 'z') ∨ ('0' ≤ c ∧ c ≤ '9') ∨ c = '_'

theorem isNameChar_iff {c : Char} : isNameChar c = true ↔ IsLetter c := by
  have hupper : c.isUpper = true ↔ 'A' ≤ c ∧ c ≤ 'Z' := decide_eq_true_iff
  have hlower : c.isLower = true ↔ 'a' ≤ c ∧ c ≤ 'z' :=
    Bool.and_eq_true_iff.trans (and_congr decide_eq_true_iff decide_eq_true_iff)
  have hdigit : c.isDigit = true ↔ '0' ≤ c ∧ c ≤ '9' :=
    Bool.and_eq_true_iff.trans (and_congr decide_eq_true_iff decide_eq_true_iff)
  have hname : isNameChar c = (c.isUpper || c.isLower || c.isDigit || decide (c = '_')) := rfl
  rw [hname, Bool.or_eq_true, Bool.or_eq_true, Bool.or_eq_true, hupper, hlower, hdigit,
    decide_eq_true_eq, or_assoc, or_assoc, IsLetter]

instance (c : Char) : Decidable (IsLetter c) :=
  decidable_of_iff _ isNameChar_iff

/-- What tells names from hosts, flags, directories, words and lines. -/
def marks : List Char := ['@', '-', '+', '/', ' ', '\t', '\r', '\n']

theorem IsLetter.not_mem_marks {c : Char} (h : IsLetter c) : c ∉ marks := by
  have hnone : (marks.all fun m => !isNameChar m) = true := by decide
  intro hmem
  have hother := List.all_eq_true.mp hnone c hmem
  rw [isNameChar_iff.mpr h] at hother
  cases hother

/-- A text is written with an underscore in the place of each character that is no letter. -/
inductive Replaces : List Char → List Char → Prop where
  | nil : Replaces [] []
  | keep {text written : List Char} (c : Char) (letter : IsLetter c)
      (rest : Replaces text written) : Replaces (c :: text) (c :: written)
  | replace {text written : List Char} (c : Char) (other : ¬IsLetter c)
      (rest : Replaces text written) : Replaces (c :: text) ('_' :: written)

variable {text written : List Char}

theorem replaces_clean (text : List Char) : Replaces text (clean text) := by
  induction text with
  | nil => exact .nil
  | cons c text ih =>
    unfold clean at ih ⊢
    rw [List.map_cons]
    by_cases hc : isNameChar c = true
    · rw [if_pos hc]
      exact .keep c (isNameChar_iff.mp hc) ih
    · rw [if_neg hc]
      exact .replace c (fun hletter => hc (isNameChar_iff.mpr hletter)) ih

theorem Replaces.isLetter (h : Replaces text written) : ∀ d ∈ written, IsLetter d := by
  induction h with
  | nil => exact nofun
  | keep c letter _ ih => exact List.forall_mem_cons.mpr ⟨letter, ih⟩
  | replace c _ _ ih => exact List.forall_mem_cons.mpr ⟨by decide, ih⟩

theorem Replaces.ne_nil (h : Replaces text written) (hne : text ≠ []) : written ≠ [] := by
  rintro rfl
  cases h
  exact hne rfl

end NodeName

/-! ## The last name in a root -/

namespace Root

/-- What follows the last slash of a text, slashes at its end apart. It is empty only if there is
nothing but slashes. -/
inductive IsLastPiece : List Char → List Char → Prop where
  | whole (base : List Char) (n : Nat) (no_slash : '/' ∉ base) :
      IsLastPiece (base ++ List.replicate n '/') base
  | after (front base : List Char) (n : Nat) (no_slash : '/' ∉ base) (ne_nil : base ≠ []) :
      IsLastPiece (front ++ '/' :: base ++ List.replicate n '/') base

variable {text base : List Char}

/-- Slashes at the end of a text make no difference to its last piece. -/
theorem lastPiece_append_slashes (text : List Char) (n : Nat) :
    lastPiece (text ++ List.replicate n '/') = lastPiece text := by
  unfold lastPiece
  rw [trimEnd_append_replicate (by decide)]

theorem decide_eq_slash (h : '/' ∉ base) : ∀ c ∈ base, decide (c = '/') = false := by
  intro c hc
  exact decide_eq_false fun heq => h (heq ▸ hc)

theorem lastPiece_of_no_slash (h : '/' ∉ base) : lastPiece base = base := by
  unfold lastPiece
  rw [trimEnd_of_forall (decide_eq_slash h), List.splitOn_eq_singleton h]
  rfl

theorem lastPiece_after (front : List Char) (h : '/' ∉ base) (hne : base ≠ []) :
    lastPiece (front ++ '/' :: base) = base := by
  obtain hnil | ⟨start, c, hc⟩ := List.eq_nil_or_concat base
  · exact absurd hnil hne
  -- the text ends in a character that is no slash, so that nothing is taken off
  have hslash : c ≠ '/' := by
    rintro rfl
    simp [hc] at h
  have hend : front ++ '/' :: base = (front ++ '/' :: start) ++ [c] := by simp [hc]
  have htrim : trimEnd (fun c => c = '/') (front ++ '/' :: base) = front ++ '/' :: base := by
    rw [hend, trimEnd_eq_rdropWhile, List.rdropWhile_concat_neg _ _ _ (by simpa using hslash)]
  unfold lastPiece
  rw [htrim, List.splitOn_append_cons_self, List.splitOn_eq_singleton h,
    List.getLast?_concat]
  rfl

theorem lastPiece_of_isLastPiece (h : IsLastPiece text base) : lastPiece text = base := by
  cases h with
  | whole _ n no_slash => rw [lastPiece_append_slashes, lastPiece_of_no_slash no_slash]
  | after front _ n no_slash ne_nil =>
    rw [lastPiece_append_slashes, lastPiece_after front no_slash ne_nil]

/-- A slash more at the end of a text makes no difference. -/
theorem IsLastPiece.concat_slash (h : IsLastPiece text base) : IsLastPiece (text ++ ['/']) base := by
  cases h with
  | whole _ n no_slash =>
    rw [List.append_assoc, ← List.replicate_succ']
    exact .whole base (n + 1) no_slash
  | after front _ n no_slash ne_nil =>
    rw [List.append_assoc, ← List.replicate_succ']
    exact .after front base (n + 1) no_slash ne_nil

/-- A text with a slash is cut at its last one. -/
theorem exists_last_slash (h : '/' ∈ text) :
    ∃ front tail, text = front ++ '/' :: tail ∧ '/' ∉ tail := by
  obtain ⟨back, rest, hreverse, hback⟩ := List.eq_append_cons_of_mem (List.mem_reverse.mpr h)
  refine ⟨rest.reverse, back.reverse, ?_, by simpa using hback⟩
  simpa using congrArg List.reverse hreverse

/-- Every text has a last piece. -/
theorem exists_isLastPiece (text : List Char) : ∃ base, IsLastPiece text base := by
  -- from the end: slashes come off one by one, and then the last slash before what is left is found
  induction text using List.reverseRecOn with
  | nil => exact ⟨[], .whole [] 0 nofun⟩
  | append_singleton text c ih =>
    by_cases hc : c = '/'
    · subst hc
      obtain ⟨base, h⟩ := ih
      exact ⟨base, h.concat_slash⟩
    · have hnone {tail : List Char} (h : '/' ∉ tail) : '/' ∉ tail ++ [c] := by
        simpa [h] using Ne.symm hc
      by_cases hslash : '/' ∈ text
      · obtain ⟨front, tail, htext, htail⟩ := exists_last_slash hslash
        have hafter := IsLastPiece.after front (tail ++ [c]) 0 (hnone htail) (by simp)
        exact ⟨_, by simpa [htext] using hafter⟩
      · exact ⟨_, by simpa using IsLastPiece.whole (text ++ [c]) 0 (hnone hslash)⟩

theorem isLastPiece_iff : IsLastPiece text base ↔ base = lastPiece text := by
  constructor
  · exact fun h => (lastPiece_of_isLastPiece h).symm
  · rintro rfl
    obtain ⟨base, h⟩ := exists_isLastPiece text
    rwa [lastPiece_of_isLastPiece h]

/-- A root names a local path, and this is its last name. -/
def IsLocalName (root : String) (name : Bytes) : Prop :=
  ∃ p front, filePath? root = some p ∧ Path.names p = front ++ [name] ∧
    name ≠ [Path.dot, Path.dot]

/-- The last name in a root: that of the local path it names, as far as that is text, and the last
piece of its path part if it names no path or one without a last name. -/
inductive IsBasename (root : String) : List Char → Prop where
  | local (name : Bytes) (named : IsLocalName root name) : IsBasename root (Utf8.decodeLossy name)
  | piece (base : List Char) (nameless : ∀ name, ¬IsLocalName root name)
      (last : IsLastPiece (pathText root) base) : IsBasename root base

variable {root : String}

theorem isLocalName_iff {name : Bytes} :
    IsLocalName root name ↔ (filePath? root).bind Path.fileName? = some name := by
  simp only [Option.bind_eq_some_iff, Path.fileName?_eq_some_iff, IsLocalName, exists_and_left]

/-- Every root has one last name, and it is the one that is used. -/
theorem isBasename_iff : IsBasename root base ↔ base = basename root := by
  unfold basename
  -- a root with a local name has no other, and one without has its last piece alone
  cases hname : (filePath? root).bind Path.fileName? with
  | some name =>
    have hnamed : IsLocalName root name := isLocalName_iff.mpr hname
    constructor
    · rintro (⟨other, hother⟩ | ⟨_, nameless, -⟩)
      · rw [Option.some.inj (hname.symm.trans (isLocalName_iff.mp hother))]
      · exact absurd hnamed (nameless name)
    · rintro rfl
      exact .local name hnamed
  | none =>
    have hnone (name : Bytes) : ¬IsLocalName root name := fun hnamed => by
      cases hname.symm.trans (isLocalName_iff.mp hnamed)
    constructor
    · rintro (⟨other, hother⟩ | ⟨_, -, last⟩)
      · exact absurd hother (hnone other)
      · exact isLastPiece_iff.mp last
    · intro hbase
      exact .piece base hnone (isLastPiece_iff.mpr hbase)

end Root

/-! ## The arguments of a node -/

namespace NodeName

/-- An argument that is no value: it begins with a minus or a plus. -/
def isFlag (argument : String) : Bool :=
  argument.toList.head? = some '-' || argument.toList.head? = some '+'

/-- Arguments as flags with the values that follow each, and the values before the first flag. -/
def readFlags : List String → List String × List (String × List String)
  | [] => ([], [])
  | argument :: rest =>
    let (values, flags) := readFlags rest
    if isFlag argument then ([], (argument, values) :: flags) else (argument :: values, flags)

/-- A text that begins with a letter is no flag. -/
theorem isFlag_of_isLetter {argument : String} (h : ∀ c ∈ argument.toList, IsLetter c) :
    isFlag argument = false := by
  unfold isFlag
  cases hhead : argument.toList.head? with
  | none => rfl
  | some c =>
    have hletter : IsLetter c := h c (List.mem_of_head? hhead)
    have hminus : c ≠ '-' := fun heq => absurd (heq ▸ hletter) (by decide)
    have hplus : c ≠ '+' := fun heq => absurd (heq ▸ hletter) (by decide)
    simp [hminus, hplus]

theorem readFlags_arguments {name : String} (h : ∀ c ∈ name.toList, IsLetter c) :
    readFlags (arguments name) = ([], [("-sname", [name]), ("-hidden", []), ("-noinput", [])]) := by
  have hname : isFlag name = false := isFlag_of_isLetter h
  have hsname : isFlag "-sname" = true := by decide
  have hhidden : isFlag "-hidden" = true := by decide
  have hnoinput : isFlag "-noinput" = true := by decide
  simp only [arguments, readFlags, hname, hsname, hhidden, hnoinput, if_true, if_false,
    Bool.false_eq_true]

/-! ## The name of a node -/

/-- What the name of the node of an application for a root is. -/
structure IsNameFor (app root name : String) : Prop where
  /-- It is the application, an underscore, and the last name in the root or what stands for it,
  with underscores for all that is no letter. -/
  composed : ∃ front base suffix, name.toList = front ++ '_' :: suffix ∧
    Replaces app.toList front ∧ (∀ other, Root.IsBasename root other ↔ other = base) ∧
    (base = [] ∧ suffix = "workspace".toList ∨ base ≠ [] ∧ Replaces base suffix) ∧ suffix ≠ []
  letters : ∀ c ∈ name.toList, IsLetter c
  length : 2 ≤ name.toList.length
  plain : ∀ c ∈ name.toList, c ∉ marks
  /-- It is the one value of its flag, and the other flags have none. -/
  value : readFlags (arguments name)
    = ([], [("-sname", [name]), ("-hidden", []), ("-noinput", [])])

/-- The last name in a root, or what stands for it. -/
theorem clean_suffix (base : List Char) :
    ∃ suffix, clean (if base.isEmpty then fallback else base) = suffix ∧
      (base = [] ∧ suffix = "workspace".toList ∨ base ≠ [] ∧ Replaces base suffix) ∧
      suffix ≠ [] := by
  refine ⟨_, rfl, ?_⟩
  by_cases hbase : base = []
  · subst hbase
    exact ⟨.inl ⟨rfl, by decide⟩, by decide⟩
  · have hempty : base.isEmpty = false := by simpa using hbase
    rw [hempty]
    have hsuffix : Replaces base (clean base) := replaces_clean base
    exact ⟨.inr ⟨hbase, hsuffix⟩, hsuffix.ne_nil hbase⟩

theorem toList_forRoot (app root : String) :
    (forRoot app root).toList = clean app.toList ++ '_' ::
      clean (if (Root.basename root).isEmpty then fallback else Root.basename root) := by
  unfold forRoot clean
  rw [String.toList_ofList, List.map_append, List.map_cons]
  rfl

/-- **Every node has a name.** Whatever texts an application and a root are, the name of the node is
the application, an underscore, and the last name in the root, with an underscore for each character
that is no letter; of a root without a last name it is "workspace" instead. So it has two characters
or more, all of them letters, and the program of the node is given it as the one value of its
flag. -/
theorem forRoot_isNameFor (app root : String) : IsNameFor app root (forRoot app root) := by
  obtain ⟨suffix, hclean, hsuffix, hne⟩ := clean_suffix (Root.basename root)
  have hname : (forRoot app root).toList = clean app.toList ++ '_' :: suffix := by
    rw [toList_forRoot, hclean]
  have hletters : ∀ c ∈ (forRoot app root).toList, IsLetter c := by
    have hforRoot : (forRoot app root).toList
        = clean (app.toList ++ '_' ::
            if (Root.basename root).isEmpty then fallback else Root.basename root) :=
      String.toList_ofList
    rw [hforRoot]
    exact (replaces_clean _).isLetter
  constructor
  case composed =>
    exact ⟨_, Root.basename root, suffix, hname, replaces_clean _, fun _ => Root.isBasename_iff,
      hsuffix, hne⟩
  case letters => exact hletters
  case length =>
    have hpos : 0 < suffix.length := List.length_pos_iff.mpr hne
    rw [hname, List.length_append, List.length_cons]
    omega
  case plain => exact fun c hc => (hletters c hc).not_mem_marks
  case value => exact readFlags_arguments hletters

/-- A path that ends above a directory has no last name, and the last piece of its URI is taken as
it is written. -/
example : forRoot "a-b" "file:///srv/..%2F" = "a_b____2F" := by decide

end NodeName

end SessionGate
