import SessionGate.Text.Utf8

/-!
# Octets read as text

ASCII stands for itself in UTF-8 and is no part of anything longer, whatever surrounds it. So an
octet string that is read as a text falls apart at its ASCII octets, well-formed or not, and no
ASCII character comes from anywhere else.

- `head?_of_head?_encode`: an ASCII octet at the start of a text was written for its character.
- `Partial.IsOpen`: what holds of a sequence that has begun and is not complete.
- `units_append_cons`, `decodeLossy_append_cons`: an ASCII octet cuts.
- `decodeLossy_eq_nil_iff`: nothing is read as nothing.
- `not_mem_decodeLossy`: an ASCII character that is read comes from its octet.
-/

namespace SessionGate

namespace Utf8

variable {b : UInt8} {p : Partial} {c : Char}

/-! ## Octets of characters -/

theorem toNat_lt (c : Char) : c.toNat < 0x110000 := by
  rcases c.valid with h | ⟨-, h⟩
  · exact Nat.lt_trans h (by decide)
  · exact h

/-- Characters outside ASCII are written with octets outside ASCII. -/
theorem le_of_mem_encodeChar (hc : 0x80 ≤ c.toNat) : ∀ b ∈ encodeChar c, 0x80 ≤ b.toNat := by
  have hlt := toNat_lt c
  have hoctet (n : Nat) (hleast : 0x80 ≤ n) (hgreatest : n < 0x100) :
      0x80 ≤ (UInt8.ofNat n).toNat := by
    rw [UInt8.toNat_ofNat_of_lt' hgreatest]
    exact hleast
  unfold encodeChar
  dsimp only
  rw [if_neg (by omega)]
  split
  · simp only [List.mem_cons, List.not_mem_nil, or_false, forall_eq_or_imp, forall_eq]
    exact ⟨hoctet _ (by omega) (by omega), hoctet _ (by omega) (by omega)⟩
  · split
    all_goals simp only [List.mem_cons, List.not_mem_nil, or_false, forall_eq_or_imp, forall_eq]
    · exact ⟨hoctet _ (by omega) (by omega), hoctet _ (by omega) (by omega),
        hoctet _ (by omega) (by omega)⟩
    · exact ⟨hoctet _ (by omega) (by omega), hoctet _ (by omega) (by omega),
        hoctet _ (by omega) (by omega), hoctet _ (by omega) (by omega)⟩

theorem encodeChar_ne_nil (c : Char) : encodeChar c ≠ [] := by
  unfold encodeChar
  dsimp only
  repeat' split
  all_goals exact List.cons_ne_nil _ _

theorem encode_eq_nil_iff {text : List Char} : encode text = [] ↔ text = [] := by
  cases text with
  | nil => simp
  | cons c text => simp [encodeChar_ne_nil]

/-- The octet of an ASCII character at the start of a text was written for it. -/
theorem head?_of_head?_encode {text : List Char} (hc : c.toNat < 0x80)
    (h : (encode text).head? = some (UInt8.ofNat c.toNat)) : text.head? = some c := by
  cases text with
  | nil => cases h
  | cons d rest =>
    have hoctet : (UInt8.ofNat c.toNat).toNat = c.toNat :=
      UInt8.toNat_ofNat_of_lt' (Nat.lt_trans hc (by decide))
    have hd : d.toNat < 0x80 := by
      refine Nat.lt_of_not_le fun hd => ?_
      obtain ⟨b, more, hcode⟩ := List.exists_cons_of_ne_nil (encodeChar_ne_nil d)
      rw [encode_cons, hcode] at h
      have hb : b = UInt8.ofNat c.toNat := Option.some.inj h
      have hle := le_of_mem_encodeChar hd b (hcode ▸ List.mem_cons_self)
      rw [hb, hoctet] at hle
      omega
    have hfirst : UInt8.ofNat d.toNat = UInt8.ofNat c.toNat := by
      rw [encode_cons, encodeChar, if_pos hd] at h
      exact Option.some.inj h
    have hnat : d.toNat = c.toNat := by
      rw [← hoctet, ← hfirst, UInt8.toNat_ofNat_of_lt' (Nat.lt_trans hd (by decide))]
    rw [List.head?_cons, Char.toNat_inj.mp hnat]

/-! ## Sequences that are not complete -/

/-- A sequence that has begun and is not complete: no ASCII octet goes on with it, and its value
will be above ASCII. -/
structure Partial.IsOpen (p : Partial) : Prop where
  least : 0x80 ≤ p.least.toNat
  value : 2 ≤ p.value ∨ 2 ≤ p.owed ∧ (1 ≤ p.value ∨ 0x90 ≤ p.least.toNat)

theorem isOpen_of_lead (h : lead b = .opens p) : p.IsOpen := by
  unfold lead at h
  dsimp only at h
  repeat' split at h
  all_goals cases h
  all_goals constructor <;> simp <;> omega

theorem accepts_iff :
    p.accepts b = true ↔ p.least.toNat ≤ b.toNat ∧ b.toNat ≤ p.greatest.toNat := by
  simp [Partial.accepts, UInt8.le_iff_toNat_le]

theorem Partial.IsOpen.not_accepts (h : p.IsOpen) (hb : b.toNat < 0x80) : p.accepts b = false := by
  rw [Bool.eq_false_iff, ne_eq, accepts_iff]
  exact fun haccepts => absurd h.least (by omega)

/-- One more octet makes the value large enough. -/
theorem Partial.IsOpen.two_le_push (h : p.IsOpen) (hb : p.accepts b = true) :
    2 ≤ (p.push b).value := by
  have hle := (accepts_iff.mp hb).1
  have hvalue := h.value
  have hleast := h.least
  simp only [Partial.push]
  omega

theorem Partial.IsOpen.push (h : p.IsOpen) (hb : p.accepts b = true) : (p.push b).IsOpen :=
  ⟨Nat.le_refl 0x80, .inl (h.two_le_push hb)⟩

/-- What is no code point counts as the null character. -/
theorem toNat_ofNat_cases (n : Nat) : (Char.ofNat n).toNat = n ∨ Char.ofNat n = '\x00' := by
  by_cases hvalid : n.isValidChar
  · rw [Char.ofNat, dif_pos hvalid]
    exact .inl rfl
  · rw [Char.ofNat, dif_neg hvalid]
    exact .inr rfl

/-- A complete sequence is no ASCII character. -/
theorem Partial.IsOpen.ne_of_complete (h : p.IsOpen) (hb : p.accepts b = true)
    (hcomplete : (p.push b).owed = 0) (hc : c.toNat < 0x80) (hzero : c ≠ '\x00') :
    Char.ofNat (p.push b).value ≠ c := by
  have hle := (accepts_iff.mp hb).1
  have hleast := h.least
  have hvalue : 0x80 ≤ (p.push b).value := by
    have htwo : 2 ≤ p.value := by
      have hvalue := h.value
      simp only [Partial.push] at hcomplete
      omega
    simp only [Partial.push]
    omega
  rintro rfl
  rcases toNat_ofNat_cases (p.push b).value with hnat | hnull
  · exact absurd hc (by omega)
  · exact hzero hnull

/-! ## Cutting at ASCII -/

theorem lead_of_lt (hb : b.toNat < 0x80) : lead b = .char (Char.ofNat b.toNat) := by
  unfold lead
  exact if_pos hb

theorem forall_mem_none : ∀ p ∈ (none : Option Partial), p.IsOpen := by
  simp

theorem forall_mem_some (h : p.IsOpen) : ∀ q ∈ some p, q.IsOpen := by
  simpa using h

theorem unitsFrom_append_cons {pending : Option Partial} (hopen : ∀ p ∈ pending, p.IsOpen)
    (hb : b.toNat < 0x80) (bytes rest : Bytes) :
    unitsFrom pending (bytes ++ b :: rest)
      = unitsFrom pending bytes ++ some (Char.ofNat b.toNat) :: units rest := by
  fun_induction unitsFrom pending bytes with
  | case1 => simp [unitsFrom, lead_of_lt hb, units]
  | case2 p => simp [unitsFrom, lead_of_lt hb, (hopen p rfl).not_accepts hb, units]
  | case3 a more c hlead ih => simp [unitsFrom, hlead, ih forall_mem_none]
  | case4 a more p hlead ih =>
    simp [unitsFrom, hlead, ih (forall_mem_some (isOpen_of_lead hlead))]
  | case5 a more hlead ih => simp [unitsFrom, hlead, ih forall_mem_none]
  | case6 p a more haccepts p' hcomplete ih =>
    simp [unitsFrom, haccepts, hcomplete, p', ih forall_mem_none]
  | case7 p a more haccepts p' hcomplete ih =>
    have hp' := forall_mem_some ((hopen p rfl).push haccepts)
    simp [unitsFrom, haccepts, hcomplete, p', ih hp']
  | case8 p a more haccepts c hlead ih =>
    simp [unitsFrom, haccepts, hlead, ih forall_mem_none]
  | case9 p a more haccepts q hlead ih =>
    simp [unitsFrom, haccepts, hlead, ih (forall_mem_some (isOpen_of_lead hlead))]
  | case10 p a more haccepts hlead ih =>
    simp [unitsFrom, haccepts, hlead, ih forall_mem_none]

/-- An ASCII octet cuts an octet string. -/
theorem units_append_cons (hb : b.toNat < 0x80) (bytes rest : Bytes) :
    units (bytes ++ b :: rest) = units bytes ++ some (Char.ofNat b.toNat) :: units rest :=
  unitsFrom_append_cons forall_mem_none hb bytes rest

theorem decodeLossy_append_cons (hb : b.toNat < 0x80) (bytes rest : Bytes) :
    decodeLossy (bytes ++ b :: rest)
      = decodeLossy bytes ++ Char.ofNat b.toNat :: decodeLossy rest := by
  simp [decodeLossy, units_append_cons hb]

/-! ## Reading nothing -/

theorem unitsFrom_eq_nil_iff {pending : Option Partial} {bytes : Bytes} :
    unitsFrom pending bytes = [] ↔ pending = none ∧ bytes = [] := by
  fun_induction unitsFrom pending bytes <;> simp_all

theorem decodeLossy_eq_nil_iff {bytes : Bytes} : decodeLossy bytes = [] ↔ bytes = [] := by
  simp [decodeLossy, units, unitsFrom_eq_nil_iff]

/-! ## ASCII characters -/

theorem toNat_ofNat_of_lt {n : Nat} (h : n < 0x80) : (Char.ofNat n).toNat = n := by
  have hall : ∀ m < 0x80, (Char.ofNat m).toNat = m := by decide
  exact hall n h

theorem eq_of_lead (h : lead b = .char c) : b = UInt8.ofNat c.toNat := by
  unfold lead at h
  dsimp only at h
  split at h
  · next hb =>
    cases h
    rw [toNat_ofNat_of_lt hb, UInt8.ofNat_toNat]
  · repeat' split at h
    all_goals cases h

theorem mem_of_mem_unitsFrom {pending : Option Partial} (hopen : ∀ p ∈ pending, p.IsOpen)
    {bytes : Bytes} (hc : c.toNat < 0x80) (hzero : c ≠ '\x00')
    (hmem : some c ∈ unitsFrom pending bytes) : UInt8.ofNat c.toNat ∈ bytes := by
  fun_induction unitsFrom pending bytes with
  | case1 => simp at hmem
  | case2 p => simp at hmem
  | case3 a more c' hlead ih =>
    rcases List.mem_cons.mp hmem with heq | hmem
    · cases heq
      simp [eq_of_lead hlead]
    · exact List.mem_cons_of_mem a (ih forall_mem_none hmem)
  | case4 a more p hlead ih =>
    exact List.mem_cons_of_mem a (ih (forall_mem_some (isOpen_of_lead hlead)) hmem)
  | case5 a more hlead ih =>
    exact List.mem_cons_of_mem a (ih forall_mem_none (by simpa using hmem))
  | case6 p a more haccepts p' hcomplete ih =>
    rcases List.mem_cons.mp hmem with heq | hmem
    · have hne := (hopen p rfl).ne_of_complete haccepts hcomplete hc hzero
      exact absurd (Option.some.inj heq).symm hne
    · exact List.mem_cons_of_mem a (ih forall_mem_none hmem)
  | case7 p a more haccepts p' hcomplete ih =>
    exact List.mem_cons_of_mem a (ih (forall_mem_some ((hopen p rfl).push haccepts)) hmem)
  | case8 p a more haccepts c' hlead ih =>
    have hmem : c = c' ∨ some c ∈ unitsFrom none more := by simpa using hmem
    rcases hmem with heq | hmem
    · simp [heq, eq_of_lead hlead]
    · exact List.mem_cons_of_mem a (ih forall_mem_none hmem)
  | case9 p a more haccepts q hlead ih =>
    have hmem : some c ∈ unitsFrom (some q) more := by simpa using hmem
    exact List.mem_cons_of_mem a (ih (forall_mem_some (isOpen_of_lead hlead)) hmem)
  | case10 p a more haccepts hlead ih =>
    exact List.mem_cons_of_mem a (ih forall_mem_none (by simpa using hmem))

/-- An ASCII character comes from its octet. -/
theorem not_mem_decodeLossy {bytes : Bytes} (hc : c.toNat < 0x80) (hzero : c ≠ '\x00')
    (h : UInt8.ofNat c.toNat ∉ bytes) : c ∉ decodeLossy bytes := by
  intro hmem
  obtain ⟨unit, hunit, heq⟩ := List.mem_map.mp hmem
  cases unit with
  | none =>
    rw [← heq] at hc
    exact absurd hc (by decide)
  | some c' =>
    rw [Option.getD_some] at heq
    subst heq
    exact h (mem_of_mem_unitsFrom forall_mem_none hc hzero hunit)

end Utf8

end SessionGate
