import SessionGate.Proofs.Text.Utf8
import SessionGate.Uri.Segments

/-!
# Names of files in URIs

An octet of a name that could be taken for something else is written `%XX` in a URI. What is
written so is read back as the octets that it stands for, and no part of a reader takes it for
anything else.

- `Percent.IsPathChar`: the characters that stand for themselves in a segment of a path.
- `Percent.isPathChar_of_mem_encode`: an encoded name consists of them.
- `Percent.encodeText_eq_self`: they are not encoded a second time.
- `Percent.decodeText_encode`: an encoded name is read back.
- `Segments.isSingleDot_encode`, `Segments.isDoubleDot_encode`: which encoded names stand for this
  place or the place above.
-/

namespace SessionGate

namespace Percent

variable {b : UInt8} {c : Char}

/-! ## Octets -/

/-- The octets that a name is written with as they are: ASCII, but for those that mean something. -/
theorem of_not_pathName (h : pathName b = false) :
    b.toNat < 0x7F ∧ path b = false ∧ Char.ofNat b.toNat ∉ ['/', '%', '\\'] := by
  unfold pathName Set.and at h
  rw [Bool.or_eq_false_iff] at h
  refine ⟨?_, h.1, by simpa using h.2⟩
  have hpath := h.1
  unfold path fragment Set.and controls at hpath
  simp only [Bool.or_eq_false_iff, decide_eq_false_iff_not, UInt8.not_le] at hpath
  exact UInt8.lt_iff_toNat_lt.mp hpath.1.1.2

/-- A character that stands for itself in a segment of a path. -/
def IsPathChar (c : Char) : Prop :=
  c.toNat < 0x80 ∧ path (UInt8.ofNat c.toNat) = false ∧ c ≠ '/' ∧ c ≠ '\\'

instance (c : Char) : Decidable (IsPathChar c) :=
  inferInstanceAs (Decidable (_ ∧ _))

theorem isPathChar_digit : ∀ n < 16, IsPathChar (digit n) := by
  decide

theorem value?_digit : ∀ n < 16, value? (UInt8.ofNat (digit n).toNat) = some n := by
  decide

theorem isPathChar_of_mem_encodeOctet (h : c ∈ encodeOctet pathName b) : IsPathChar c := by
  have hb := b.toNat_lt
  unfold encodeOctet at h
  split at h
  · rcases List.mem_cons.mp h with rfl | h
    · decide
    · rcases List.mem_cons.mp h with rfl | h
      · exact isPathChar_digit _ (by omega)
      · rw [List.mem_singleton.mp h]
        exact isPathChar_digit _ (by omega)
  · next hplain =>
    obtain ⟨hlt, hpath, hmarks⟩ := of_not_pathName (by simpa using hplain)
    rw [List.mem_singleton.mp h]
    have hnat := Utf8.toNat_ofNat_of_lt (Nat.lt_succ_of_lt hlt)
    refine ⟨by omega, ?_, fun heq => hmarks (by simp [heq]), fun heq => hmarks (by simp [heq])⟩
    rw [hnat, UInt8.ofNat_toNat]
    exact hpath

theorem isPathChar_of_mem_encode {bytes : Bytes} (h : c ∈ encode pathName bytes) :
    IsPathChar c := by
  obtain ⟨b, -, hc⟩ := List.mem_flatMap.mp h
  exact isPathChar_of_mem_encodeOctet hc

@[simp] theorem encode_nil (s : Set) : encode s [] = [] := rfl

theorem encode_cons (s : Set) (b : UInt8) (bytes : Bytes) :
    encode s (b :: bytes) = encodeOctet s b ++ encode s bytes := rfl

theorem encodeOctet_ne_nil (s : Set) (b : UInt8) : encodeOctet s b ≠ [] := by
  unfold encodeOctet
  split <;> exact List.cons_ne_nil _ _

theorem encode_eq_nil_iff {s : Set} {bytes : Bytes} : encode s bytes = [] ↔ bytes = [] := by
  cases bytes with
  | nil => simp
  | cons b bytes => simp [encode_cons, encodeOctet_ne_nil]

/-! ## Characters -/

theorem IsPathChar.encodeChar_eq (h : IsPathChar c) :
    Utf8.encodeChar c = [UInt8.ofNat c.toNat] := by
  unfold Utf8.encodeChar
  exact if_pos h.1

theorem IsPathChar.encodeOctet_eq (h : IsPathChar c) :
    encodeOctet path (UInt8.ofNat c.toNat) = [c] := by
  have hc : c.toNat < 256 := Nat.lt_trans h.1 (by decide)
  unfold encodeOctet
  rw [h.2.1, UInt8.toNat_ofNat_of_lt' hc, Char.ofNat_toNat]
  rfl

/-- What stands for itself is not encoded a second time. -/
theorem encodeText_eq_self {text : List Char} (h : ∀ c ∈ text, IsPathChar c) :
    encodeText path text = text := by
  unfold encodeText
  induction text with
  | nil => rfl
  | cons c text ih =>
    rw [List.forall_mem_cons] at h
    rw [Utf8.encode_cons, h.1.encodeChar_eq, List.singleton_append, encode_cons,
      h.1.encodeOctet_eq, ih h.2, List.singleton_append]

/-- A character that stands for itself is not blank. -/
theorem IsPathChar.blank_lt (h : IsPathChar c) : 0x20 < c.toNat := by
  have hblank : ∀ n < 0x21, path (UInt8.ofNat n) = true := by decide
  refine Nat.lt_of_not_le fun hle => ?_
  cases (hblank c.toNat (by omega)).symm.trans h.2.1

/-! ## Reading back -/

theorem decode_cons_of_ne {a : UInt8} (h : a ≠ 0x25) (rest : Bytes) :
    decode (a :: rest) = a :: decode rest := by
  match rest with
  | [] => rfl
  | [_] => rfl
  | _ :: _ :: _ => rw [decode, if_neg h]

theorem encode_append_encodeOctet (b : UInt8) (rest : Bytes) :
    decode (Utf8.encode (encodeOctet pathName b) ++ rest) = b :: decode rest := by
  have hb := b.toNat_lt
  unfold encodeOctet
  split
  · have hhigh := isPathChar_digit (b.toNat / 16) (by omega)
    have hlow := isPathChar_digit (b.toNat % 16) (by omega)
    simp only [Utf8.encode_cons, Utf8.encode_nil, hhigh.encodeChar_eq, hlow.encodeChar_eq,
      (show IsPathChar '%' by decide).encodeChar_eq, List.append_nil, List.cons_append,
      List.nil_append]
    rw [decode, if_pos (by decide), value?_digit _ (by omega), value?_digit _ (by omega)]
    simp only
    rw [Nat.div_add_mod', UInt8.ofNat_toNat]
  · next hplain =>
    obtain ⟨hlt, -, hmarks⟩ := of_not_pathName (by simpa using hplain)
    have hmem : Char.ofNat b.toNat ∈ encodeOctet pathName b := by
      unfold encodeOctet
      rw [if_neg hplain]
      exact List.mem_singleton_self _
    have hne : b ≠ 0x25 := fun heq => hmarks (by rw [heq]; decide)
    rw [Utf8.encode_cons, (isPathChar_of_mem_encodeOctet hmem).encodeChar_eq,
      Utf8.toNat_ofNat_of_lt (Nat.lt_succ_of_lt hlt), UInt8.ofNat_toNat]
    exact decode_cons_of_ne hne rest

/-- An encoded name is read back. -/
theorem decodeText_encode (bytes : Bytes) : decodeText (encode pathName bytes) = bytes := by
  unfold decodeText
  induction bytes with
  | nil => rfl
  | cons b bytes ih =>
    rw [encode_cons, Utf8.encode_append, encode_append_encodeOctet, ih]

end Percent

namespace Segments

open Percent

/-! ## Dot segments -/

theorem afterDot?_of_ne {c : Char} (hdot : c ≠ '.') (hpercent : c ≠ '%') (rest : List Char) :
    afterDot? (c :: rest) = none := by
  unfold afterDot?
  split <;> simp_all

/-- What is written `%XX` is no dot. -/
theorem afterDot?_encoded {n : Nat} (hn : n < 256) (hdot : n ≠ 0x2E) (rest : List Char) :
    afterDot? ('%' :: digit (n / 16) :: digit (n % 16) :: rest) = none := by
  have hhigh : ∀ m < 16, digit m = '2' → m = 2 := by decide
  have hlow : ∀ m < 16, digit m = 'E' → m = 14 := by decide
  have hlower : ∀ m < 16, digit m ≠ 'e' := by decide
  unfold afterDot?
  split
  · next heq => cases heq
  · next heq =>
    simp only [List.cons.injEq] at heq
    exact absurd heq.2.2.1 (hlower _ (by omega))
  · next heq =>
    simp only [List.cons.injEq] at heq
    have h1 := hhigh _ (by omega) heq.2.1
    have h2 := hlow _ (by omega) heq.2.2.1
    omega
  · rfl

/-- A dot in a name is written as it is, and nothing else is written as a dot. -/
theorem afterDot?_encode (b : UInt8) (bytes : Bytes) :
    afterDot? (encode pathName (b :: bytes))
      = if b = 0x2E then some (encode pathName bytes) else none := by
  rw [encode_cons]
  by_cases hdot : b = 0x2E
  · subst hdot
    rfl
  · rw [if_neg hdot, encodeOctet]
    split
    · exact afterDot?_encoded b.toNat_lt (fun heq => hdot (UInt8.toNat_inj.mp heq)) _
    · next hplain =>
      obtain ⟨hlt, -, hmarks⟩ := of_not_pathName (by simpa using hplain)
      refine afterDot?_of_ne (fun heq => hdot ?_) (fun heq => hmarks (by simp [heq])) _
      have hnat := congrArg Char.toNat heq
      rw [Utf8.toNat_ofNat_of_lt (Nat.lt_succ_of_lt hlt)] at hnat
      exact UInt8.toNat_inj.mp hnat

theorem isSingleDot_encode (bytes : Bytes) :
    isSingleDot (encode pathName bytes) = true ↔ bytes = [0x2E] := by
  unfold isSingleDot
  rw [decide_eq_true_iff]
  cases bytes with
  | nil => simp [afterDot?]
  | cons b bytes =>
    rw [afterDot?_encode]
    split
    · next hdot => simp [hdot, encode_eq_nil_iff]
    · next hdot => simp [hdot]

theorem isDoubleDot_encode (bytes : Bytes) :
    isDoubleDot (encode pathName bytes) = true ↔ bytes = [0x2E, 0x2E] := by
  unfold isDoubleDot
  cases bytes with
  | nil => simp [afterDot?]
  | cons b bytes =>
    rw [afterDot?_encode]
    split
    · next hdot => simp [hdot, isSingleDot_encode]
    · next hdot => simp [hdot]

end Segments

end SessionGate
