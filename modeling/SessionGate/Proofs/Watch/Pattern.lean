import Mathlib.Data.List.Basic
import Mathlib.Data.List.Induction

/-!
# Patterns of watchers

The patterns by which a client is told what to watch. `?` stands for one character within a segment
and `*` for any number of them; `**` as a whole segment stands for any number of segments, `[...]`
for one character of a class, and `{a,b}` for one of some alternatives. Every other character stands
for itself, and so does a bracket or a brace that is never closed.

- `Pattern.class?`, `Pattern.group?`: what follows an opening bracket, or an opening brace.
- `Pattern.startsSegment`: whether a segment begins where a text ends.
- `Pattern.Matches`: the texts that a pattern stands for.
- `Pattern.Matches.append`, `Pattern.Matches.split`: a pattern that ends with a slash, and what
  follows it, stand for a text that is cut in two.
- `Pattern.matches_self`: a text without classes and groups stands for itself.
-/

namespace SessionGate

namespace Pattern

/-! ## Classes and groups -/

/-- What follows an opening bracket: what is named up to the next closing one, and the rest. -/
def class? : List Char → Option (List Char × List Char)
  | [] => none
  | c :: rest =>
    if c = ']' then some ([], rest) else (class? rest).map fun r => (c :: r.1, r.2)

/-- The ranges that a class names: from one character to another, or one character alone. -/
def ranges : List Char → List (Char × Char)
  | a :: '-' :: b :: rest => (a, b) :: ranges rest
  | a :: rest => (a, a) :: ranges rest
  | [] => []

/-- A character is of a class. A class that begins with an exclamation mark is of all that it does
not name. A slash is of no class. -/
def InClass (c : Char) (named : List Char) : Prop :=
  c ≠ '/' ∧
    match named with
    | '!' :: rest => ∀ r ∈ ranges rest, ¬(r.1 ≤ c ∧ c ≤ r.2)
    | _ => ∃ r ∈ ranges named, r.1 ≤ c ∧ c ≤ r.2

/-- Puts a character before the first of some alternatives. -/
def consFirst (c : Char) : List (List Char) → List (List Char)
  | [] => [[c]]
  | a :: more => (c :: a) :: more

/-- What follows an opening brace: the alternatives up to the brace that closes it, and the rest.
The depth counts the braces that have been opened since and not closed. -/
def group? (depth : Nat) : List Char → Option (List (List Char) × List Char)
  | [] => none
  | c :: rest =>
    if c = '\x7d' ∧ depth = 0 then some ([[]], rest)
    else if c = ',' ∧ depth = 0 then (group? 0 rest).map fun r => ([] :: r.1, r.2)
    else
      (group? (if c = '\x7b' then depth + 1 else if c = '\x7d' then depth - 1 else depth) rest).map
        fun r => (consFirst c r.1, r.2)

/-- A text closes no bracket and no brace that was opened before it. -/
structure ClosesNothing (text : List Char) : Prop where
  noClass : class? text = none
  noGroup : ∀ depth, group? depth text = none

/-! ## What a pattern stands for -/

/-- Whether a segment begins where a text ends. -/
def startsSegment (atStart : Bool) : List Char → Bool
  | [] => atStart
  | c :: rest => startsSegment (decide (c = '/')) rest

/-- A star and the rest of a pattern begin with two stars that are a whole segment. -/
def IsDoubleStar (atStart : Bool) (rest : List Char) : Prop :=
  atStart = true ∧ ∃ after, rest = '*' :: after ∧ (after = [] ∨ after.head? = some '/')

/-- A character stands for itself before the rest of a pattern. -/
structure StandsForItself (c : Char) (rest : List Char) : Prop where
  notOne : c ≠ '?'
  notRun : c ≠ '*'
  noClass : c = '[' → class? rest = none
  noGroup : c = '\x7b' → group? 0 rest = none

/-- The texts that a pattern stands for, where it begins a segment or stands within one. -/
inductive Matches : Bool → List Char → List Char → Prop where
  | nil {atStart : Bool} : Matches atStart [] []
  /-- A character that stands for itself. -/
  | itself {atStart : Bool} {c : Char} {rest text : List Char} (stands : StandsForItself c rest)
      (tail : Matches (decide (c = '/')) rest text) : Matches atStart (c :: rest) (c :: text)
  /-- A question mark: one character of a segment. -/
  | one {atStart : Bool} {c : Char} {rest text : List Char} (within : c ≠ '/')
      (tail : Matches false rest text) : Matches atStart ('?' :: rest) (c :: text)
  /-- A star: any characters of a segment. -/
  | run {atStart : Bool} {taken rest text : List Char} (single : ¬IsDoubleStar atStart rest)
      (within : '/' ∉ taken) (tail : Matches false rest text) :
      Matches atStart ('*' :: rest) (taken ++ text)
  /-- Two stars before a slash: any number of segments, each with the slash after it. -/
  | segments {taken rest text : List Char} (whole : startsSegment true taken = true)
      (tail : Matches true rest text) : Matches true ('*' :: '*' :: '/' :: rest) (taken ++ text)
  /-- Two stars at the end: any segments. -/
  | everything {text : List Char} : Matches true ['*', '*'] text
  /-- A class: one of its characters. -/
  | ofClass {atStart : Bool} {c : Char} {rest named after text : List Char}
      (read : class? rest = some (named, after)) (within : InClass c named)
      (tail : Matches false after text) : Matches atStart ('[' :: rest) (c :: text)
  /-- A group: the pattern with one of the alternatives in its place. -/
  | ofGroup {atStart : Bool} {rest a after text : List Char} {alternatives : List (List Char)}
      (read : group? 0 rest = some (alternatives, after)) (among : a ∈ alternatives)
      (tail : Matches atStart (a ++ after) text) : Matches atStart ('\x7b' :: rest) text

variable {b : Bool} {p q s t : List Char}

/-! ## Classes and groups of longer texts -/

theorem class?_append (h : class? q = none) (p : List Char) :
    class? (p ++ q) = (class? p).map fun r => (r.1, r.2 ++ q) := by
  induction p with
  | nil => exact h
  | cons c p ih =>
    rw [List.cons_append, class?, class?]
    split
    · rfl
    · rw [ih, Option.map_map, Option.map_map]
      rfl

theorem group?_append (h : ∀ depth, group? depth q = none) (depth : Nat) (p : List Char) :
    group? depth (p ++ q) = (group? depth p).map fun r => (r.1, r.2 ++ q) := by
  induction p generalizing depth with
  | nil => exact h depth
  | cons c p ih =>
    rw [List.cons_append, group?, group?]
    split
    · rfl
    · split
      · rw [ih, Option.map_map, Option.map_map]
        rfl
      · rw [ih, Option.map_map, Option.map_map]
        rfl

theorem class?_append_of_some (h : class? q = none) {named after : List Char}
    (hp : class? p = some (named, after)) : class? (p ++ q) = some (named, after ++ q) := by
  rw [class?_append h, hp]
  rfl

theorem class?_of_append (h : class? q = none) {named after : List Char}
    (hp : class? (p ++ q) = some (named, after)) :
    ∃ rest, class? p = some (named, rest) ∧ rest ++ q = after := by
  rw [class?_append h, Option.map_eq_some_iff] at hp
  obtain ⟨r, hr, heq⟩ := hp
  cases heq
  exact ⟨r.2, hr, rfl⟩

theorem group?_append_of_some (h : ∀ depth, group? depth q = none) {depth : Nat}
    {alternatives : List (List Char)} {after : List Char}
    (hp : group? depth p = some (alternatives, after)) :
    group? depth (p ++ q) = some (alternatives, after ++ q) := by
  rw [group?_append h, hp]
  rfl

theorem group?_of_append (h : ∀ depth, group? depth q = none) {depth : Nat}
    {alternatives : List (List Char)} {after : List Char}
    (hp : group? depth (p ++ q) = some (alternatives, after)) :
    ∃ rest, group? depth p = some (alternatives, rest) ∧ rest ++ q = after := by
  rw [group?_append h, Option.map_eq_some_iff] at hp
  obtain ⟨r, hr, heq⟩ := hp
  cases heq
  exact ⟨r.2, hr, rfl⟩

theorem StandsForItself.append_iff (h : ClosesNothing q) {c : Char} :
    StandsForItself c (p ++ q) ↔ StandsForItself c p := by
  have hclass : class? (p ++ q) = none ↔ class? p = none := by
    rw [class?_append h.noClass, Option.map_eq_none_iff]
  have hgroup : group? 0 (p ++ q) = none ↔ group? 0 p = none := by
    rw [group?_append h.noGroup, Option.map_eq_none_iff]
  constructor
  · intro hc
    exact ⟨hc.notOne, hc.notRun, fun heq => hclass.mp (hc.noClass heq),
      fun heq => hgroup.mp (hc.noGroup heq)⟩
  · intro hc
    exact ⟨hc.notOne, hc.notRun, fun heq => hclass.mpr (hc.noClass heq),
      fun heq => hgroup.mpr (hc.noGroup heq)⟩

/-! ## Where segments begin -/

theorem startsSegment_append (b : Bool) (s t : List Char) :
    startsSegment b (s ++ t) = startsSegment (startsSegment b s) t := by
  induction s generalizing b with
  | nil => rfl
  | cons c s ih => exact ih _

/-- A text after which a segment begins does not depend on what stands before it, unless it is
empty. -/
theorem startsSegment_of_false (h : startsSegment false t = true) (b : Bool) :
    startsSegment b t = true := by
  cases t with
  | nil => cases h
  | cons c t => exact h

theorem startsSegment_of_not_mem (h : '/' ∉ t) (hne : t ≠ []) (b : Bool) :
    startsSegment b t = false := by
  induction t generalizing b with
  | nil => exact absurd rfl hne
  | cons c t ih =>
    obtain ⟨hc, ht⟩ := List.ne_and_not_mem_of_not_mem_cons h
    rw [startsSegment, decide_eq_false hc.symm]
    cases t with
    | nil => rfl
    | cons d t => exact ih ht (List.cons_ne_nil d t) false

theorem startsSegment_of_class? {named after : List Char} (h : class? p = some (named, after))
    (b : Bool) : startsSegment b p = startsSegment false after := by
  induction p generalizing b named with
  | nil => cases h
  | cons c p ih =>
    rw [class?] at h
    split at h
    · next hc =>
      cases h
      rw [startsSegment, hc]
      rfl
    · obtain ⟨r, hr, heq⟩ := Option.map_eq_some_iff.mp h
      cases heq
      exact ih hr _

theorem startsSegment_of_group? {alternatives : List (List Char)} {after : List Char} {depth : Nat}
    (h : group? depth p = some (alternatives, after)) (b : Bool) :
    startsSegment b p = startsSegment false after := by
  induction p generalizing b depth alternatives with
  | nil => cases h
  | cons c p ih =>
    rw [group?] at h
    split at h
    · next hc =>
      cases h
      rw [startsSegment, hc.1]
      rfl
    · split at h
      · obtain ⟨r, hr, heq⟩ := Option.map_eq_some_iff.mp h
        cases heq
        exact ih hr _
      · obtain ⟨r, hr, heq⟩ := Option.map_eq_some_iff.mp h
        cases heq
        exact ih hr _

/-- A pattern ends with a slash also if an alternative is taken in the place of a group. -/
theorem startsSegment_of_among {alternatives : List (List Char)} {after a : List Char}
    (h : group? 0 p = some (alternatives, after)) (b : Bool)
    (hp : startsSegment b ('\x7b' :: p) = true) : startsSegment b (a ++ after) = true := by
  rw [startsSegment_append]
  exact startsSegment_of_false ((startsSegment_of_group? h _).symm.trans hp) _

/-! ## Patterns that end with a slash -/

/-- Whether a star is one of two is not decided by what follows a slash. -/
theorem isDoubleStar_append_iff (hp : startsSegment false p = true) :
    IsDoubleStar b (p ++ q) ↔ IsDoubleStar b p := by
  have hmore {after : List Char} (hafter : startsSegment false ('*' :: after) = true) :
      after ≠ [] := by
    rintro rfl
    cases hafter
  constructor
  · rintro ⟨hb, after, hafter, hnext⟩
    cases p with
    | nil => cases hp
    | cons c p =>
      rw [List.cons_append, List.cons.injEq] at hafter
      obtain ⟨rfl, rfl⟩ := hafter
      refine ⟨hb, p, rfl, .inr ?_⟩
      rcases hnext with hnil | hslash
      · exact absurd (List.append_eq_nil_iff.mp hnil).1 (hmore hp)
      · rwa [List.head?_append_of_ne_nil _ (hmore hp)] at hslash
  · rintro ⟨hb, after, rfl, hnext⟩
    refine ⟨hb, after ++ q, rfl, .inr ?_⟩
    rw [List.head?_append_of_ne_nil _ (hmore hp)]
    exact hnext.resolve_left (hmore hp)

/-- A segment begins where a text ends that such a pattern stands for. -/
theorem startsSegment_of_matches (h : Matches b p s) (hp : startsSegment b p = true) :
    startsSegment b s = true := by
  induction h with
  | nil => exact hp
  | itself stands tail ih => exact ih hp
  | one within tail ih => exact startsSegment_of_false (ih hp) _
  | run single within tail ih =>
    rw [startsSegment_append]
    exact startsSegment_of_false (ih hp) _
  | segments whole tail ih =>
    rw [startsSegment_append, whole]
    exact ih hp
  | everything => cases hp
  | ofClass read within tail ih =>
    exact startsSegment_of_false (ih ((startsSegment_of_class? read _).symm.trans hp)) _
  | ofGroup read among tail ih => exact ih (startsSegment_of_among read _ hp)

theorem Matches.append (hq : ClosesNothing q) (h : Matches b p s) (hp : startsSegment b p = true)
    (ht : Matches true q t) : Matches b (p ++ q) (s ++ t) := by
  induction h with
  | nil =>
    cases hp
    exact ht
  | itself stands tail ih =>
    exact .itself ((StandsForItself.append_iff hq).mpr stands) (ih hp)
  | one within tail ih => exact .one within (ih hp)
  | run single within tail ih =>
    rw [List.append_assoc]
    exact .run (fun hdouble => single ((isDoubleStar_append_iff hp).mp hdouble)) within (ih hp)
  | segments whole tail ih =>
    rw [List.append_assoc]
    exact .segments whole (ih hp)
  | everything => cases hp
  | ofClass read within tail ih =>
    refine .ofClass ?_ within (ih ((startsSegment_of_class? read _).symm.trans hp))
    exact class?_append_of_some hq.noClass read
  | ofGroup read among tail ih =>
    refine .ofGroup (group?_append_of_some hq.noGroup read) among ?_
    rw [← List.append_assoc]
    exact ih (startsSegment_of_among read _ hp)

/-- A text that such a pattern and another one after it stand for is cut in two. -/
theorem Matches.split (hq : ClosesNothing q) (h : Matches b (p ++ q) s)
    (hp : startsSegment b p = true) :
    ∃ w t, s = w ++ t ∧ Matches b p w ∧ Matches true q t := by
  have hnone {b : Bool} {s : List Char} (hb : startsSegment b [] = true) (h : Matches b q s) :
      ∃ w t, s = w ++ t ∧ Matches b [] w ∧ Matches true q t := by
    cases hb
    exact ⟨[], s, rfl, .nil, h⟩
  -- with each part that is read the first pattern gets shorter; once it is empty, what is left of
  -- the text is what the second one stands for
  generalize hwhole : p ++ q = whole at h
  induction h generalizing p with
  | nil =>
    obtain ⟨rfl, rfl⟩ := List.append_eq_nil_iff.mp hwhole
    exact hnone hp .nil
  | itself stands tail ih =>
    rcases List.append_eq_cons_iff.mp hwhole with ⟨rfl, rfl⟩ | ⟨p, rfl, rfl⟩
    · exact hnone hp (.itself stands tail)
    · obtain ⟨w, t, rfl, hw, ht⟩ := ih hp rfl
      exact ⟨_, t, rfl, .itself ((StandsForItself.append_iff hq).mp stands) hw, ht⟩
  | one within tail ih =>
    rcases List.append_eq_cons_iff.mp hwhole with ⟨rfl, rfl⟩ | ⟨p, rfl, rfl⟩
    · exact hnone hp (.one within tail)
    · obtain ⟨w, t, rfl, hw, ht⟩ := ih hp rfl
      exact ⟨_, t, rfl, .one within hw, ht⟩
  | run single within tail ih =>
    rcases List.append_eq_cons_iff.mp hwhole with ⟨rfl, rfl⟩ | ⟨p, rfl, rfl⟩
    · exact hnone hp (.run single within tail)
    · obtain ⟨w, t, rfl, hw, ht⟩ := ih hp rfl
      refine ⟨_, t, (List.append_assoc ..).symm, .run ?_ within hw, ht⟩
      exact fun hdouble => single ((isDoubleStar_append_iff hp).mpr hdouble)
  | segments whole tail ih =>
    match p with
    | [] =>
      rw [List.nil_append] at hwhole
      subst hwhole
      exact hnone hp (.segments whole tail)
    | [c] =>
      cases hwhole
      cases hp
    | [c, d] =>
      cases hwhole
      cases hp
    | c :: d :: e :: p =>
      simp only [List.cons_append, List.cons.injEq] at hwhole
      obtain ⟨rfl, rfl, rfl, rfl⟩ := hwhole
      obtain ⟨w, t, rfl, hw, ht⟩ := ih (p := p) hp rfl
      exact ⟨_, t, (List.append_assoc ..).symm, .segments whole hw, ht⟩
  | everything =>
    rcases List.append_eq_cons_iff.mp hwhole with ⟨rfl, rfl⟩ | ⟨p, rfl, hstar⟩
    · exact hnone hp .everything
    · -- there is no slash that the first pattern could end with
      have hstars : '/' ∉ '*' :: p := fun hslash => by
        have hslash := List.mem_append_left q hslash
        rw [List.cons_append, ← hstar] at hslash
        simp at hslash
      rw [startsSegment_of_not_mem hstars (List.cons_ne_nil _ p)] at hp
      cases hp
  | ofClass read within tail ih =>
    rcases List.append_eq_cons_iff.mp hwhole with ⟨rfl, rfl⟩ | ⟨p, rfl, rfl⟩
    · exact hnone hp (.ofClass read within tail)
    · obtain ⟨after, hread, rfl⟩ := class?_of_append hq.noClass read
      obtain ⟨w, t, rfl, hw, ht⟩ := ih ((startsSegment_of_class? hread _).symm.trans hp) rfl
      exact ⟨_, t, rfl, .ofClass hread within hw, ht⟩
  | ofGroup read among tail ih =>
    rcases List.append_eq_cons_iff.mp hwhole with ⟨rfl, rfl⟩ | ⟨p, rfl, rfl⟩
    · exact hnone hp (.ofGroup read among tail)
    · obtain ⟨after, hread, rfl⟩ := group?_of_append hq.noGroup read
      obtain ⟨w, t, rfl, hw, ht⟩ :=
        ih (startsSegment_of_among hread _ hp) (List.append_assoc ..)
      exact ⟨w, t, rfl, .ofGroup hread among hw, ht⟩

/-! ## Texts that stand for themselves -/

/-- No bracket and no brace that is opened in a text is closed in it. -/
def IsPlain : List Char → Prop
  | [] => True
  | c :: rest =>
    ((c = '[' → class? rest = none) ∧ (c = '\x7b' → group? 0 rest = none)) ∧ IsPlain rest

instance IsPlain.decide : (p : List Char) → Decidable (IsPlain p)
  | [] => .isTrue trivial
  | _ :: rest => @instDecidableAnd _ _ _ (IsPlain.decide rest)

theorem IsPlain.append (hq : ClosesNothing q) (hplain : IsPlain q) (h : IsPlain p) :
    IsPlain (p ++ q) := by
  induction p with
  | nil => exact hplain
  | cons c p ih =>
    obtain ⟨⟨hclass, hgroup⟩, hrest⟩ := h
    rw [List.cons_append]
    refine ⟨⟨fun hc => ?_, fun hc => ?_⟩, ih hrest⟩
    · rw [class?_append hq.noClass, hclass hc]
      rfl
    · rw [group?_append hq.noGroup, hgroup hc]
      rfl

/-- A text without classes and groups is among those that it stands for, whatever stars and question
marks it holds. -/
theorem matches_self (b : Bool) : (p : List Char) → IsPlain p → Matches b p p
  | [], _ => .nil
  | c :: rest, h => by
    by_cases hrun : c = '*'
    · subst hrun
      by_cases hdouble : IsDoubleStar b rest
      · obtain ⟨rfl, after, rfl, rfl | hslash⟩ := hdouble
        · exact .everything
        · -- the two stars and the slash after them stand for a segment that reads the same
          obtain ⟨more, rfl⟩ := List.head?_eq_some_iff.mp hslash
          show Matches true _ (['*', '*', '/'] ++ more)
          exact .segments rfl (matches_self true more h.2.2.2)
      · show Matches b _ (['*'] ++ rest)
        exact .run hdouble (by decide) (matches_self false rest h.2)
    · by_cases hone : c = '?'
      · subst hone
        exact .one (by decide) (matches_self false rest h.2)
      · exact .itself ⟨hone, hrun, h.1.1, h.1.2⟩ (matches_self _ rest h.2)
termination_by p => p.length

/-- The characters that may stand for others. -/
def special : List Char := ['?', '*', '[', '\x7b']

theorem standsForItself_of_not_mem {c : Char} (h : c ∉ special) (rest : List Char) :
    StandsForItself c rest := by
  have hne {d : Char} (hd : d ∈ special) : c ≠ d := fun heq => h (heq ▸ hd)
  exact ⟨hne (by decide), hne (by decide), fun heq => absurd heq (hne (by decide)),
    fun heq => absurd heq (hne (by decide))⟩

/-- A pattern without special characters stands for nothing but itself. -/
theorem eq_of_matches (h : Matches b p s) (hp : ∀ c ∈ p, c ∉ special) : s = p := by
  induction h with
  | nil => rfl
  | itself stands tail ih => rw [ih fun c hc => hp c (List.mem_cons_of_mem _ hc)]
  | one | run | segments | everything | ofClass | ofGroup =>
    exact absurd (by decide) (hp _ List.mem_cons_self)

/-- Every text ends within a segment, or where one begins. -/
theorem exists_last_segment (s : List Char) :
    ∃ before last, s = before ++ last ∧ startsSegment true before = true ∧ '/' ∉ last := by
  induction s using List.reverseRecOn with
  | nil => exact ⟨[], [], rfl, rfl, List.not_mem_nil⟩
  | append_singleton s c ih =>
    by_cases hc : c = '/'
    · refine ⟨s ++ [c], [], (List.append_nil _).symm, ?_, List.not_mem_nil⟩
      rw [startsSegment_append, hc]
      rfl
    · obtain ⟨before, last, rfl, hbefore, hlast⟩ := ih
      refine ⟨before, last ++ [c], List.append_assoc .., hbefore, ?_⟩
      rw [List.mem_append, List.mem_singleton, not_or]
      exact ⟨hlast, fun heq => hc heq.symm⟩

end Pattern

end SessionGate
