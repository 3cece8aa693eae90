import Landmarks.Encoding.Utf8
import Mathlib.Tactic.SplitIfs

/-!
# UTF-8 reads back what it writes

* `lead?_two`, `lead?_three`, `lead?_four` : what the first byte of a longer character says.
* `follow_tail` : a byte of the tail adds its six bits.
* `first_encodeChar` : the bytes of a character read as the character, whatever comes behind them.
* `decode_encode` : the bytes of a text are read as the text.
* `encodeChar_of_first` : the bytes that are read as a character are those of the character.
* `decode_eq_ok_iff` : the bytes of texts are all that can be read.
-/

namespace Landmarks.Utf8

/-! ## First bytes -/

theorem lead?_one : ∀ k < 0x80, lead? k.toUInt8 = some (0, 0x80, 0xBF, k) := by decide +kernel

theorem lead?_two : ∀ k < 0x1E, lead? (0xC2 + k).toUInt8 = some (1, 0x80, 0xBF, k + 2) := by
  decide +kernel

theorem lead?_three : ∀ k < 0x10, lead? (0xE0 + k).toUInt8 =
    some (2, if k = 0 then 0xA0 else 0x80, if k = 0xD then 0x9F else 0xBF, k) := by
  decide +kernel

theorem lead?_four : ∀ k < 5, lead? (0xF0 + k).toUInt8 =
    some (3, if k = 0 then 0x90 else 0x80, if k = 4 then 0x8F else 0xBF, k) := by
  decide +kernel

/-! ## The bytes behind the first -/

theorem follow_tail {low high : Byte} {k : Nat} (need acc used : Nat) (rest : List Byte) (hk : k < 0x40)
    (hlow : low.toNat ≤ 0x80 + k) (hhigh : 0x80 + k ≤ high.toNat) :
    follow (need + 1) low high acc used ((0x80 + k).toUInt8 :: rest) =
      follow need 0x80 0xBF (acc * 0x40 + k) (used + 1) rest := by
  have hbyte : (0x80 + k).toUInt8.toNat = 0x80 + k := UInt8.toNat_ofNat_of_lt (by change 0x80 + k < 0x100; omega)
  have hrange : (decide (low ≤ (0x80 + k).toUInt8) && decide ((0x80 + k).toUInt8 ≤ high)) = true := by
    simp only [UInt8.le_iff_toNat_le, hbyte, hlow, hhigh, decide_true, Bool.and_self]
  rw [follow, if_pos hrange, hbyte, Nat.add_sub_cancel_left]

@[simp] theorem follow_zero (low high : Byte) (acc used : Nat) (bs : List Byte) :
    follow 0 low high acc used bs = (.ok acc, used) := by
  rw [follow]

/-- A tail byte that does not follow the first byte directly has no narrower range. -/
theorem follow_inner {k : Nat} (need acc used : Nat) (rest : List Byte) (hk : k < 0x40) :
    follow (need + 1) 0x80 0xBF acc used ((0x80 + k).toUInt8 :: rest) =
      follow need 0x80 0xBF (acc * 0x40 + k) (used + 1) rest :=
  follow_tail need acc used rest hk (Nat.le_add_right _ _) (by change 0x80 + k ≤ 0xBF; omega)

/-! ## One character -/

/-- A character is no half of a pair of code units. -/
theorem toNat_range (c : Char) : c.toNat < 0xD800 ∨ (0xDFFF < c.toNat ∧ c.toNat < 0x110000) := c.valid

theorem first_encodeChar (c : Char) (rest : List Byte) :
    ∃ b bs, encodeChar c = b :: bs ∧ first b (bs ++ rest) = (.ok c, bs.length) := by
  have hrange := toNat_range c
  simp only [encodeChar]
  split_ifs with h1 h2 h3
  · refine ⟨_, _, rfl, ?_⟩
    simp [first, lead?_one _ h1, Char.ofNat_toNat]
  · refine ⟨_, _, rfl, ?_⟩
    rw [first, show 0xC0 + c.toNat / 0x40 = 0xC2 + (c.toNat / 0x40 - 2) by omega, lead?_two _ (by omega)]
    simp only [List.cons_append, List.nil_append]
    rw [follow_inner _ _ _ _ (by omega), follow_zero,
      show (c.toNat / 0x40 - 2 + 2) * 0x40 + c.toNat / 1 % 0x40 = c.toNat by omega]
    simp [Char.ofNat_toNat]
  · refine ⟨_, _, rfl, ?_⟩
    rw [first, lead?_three _ (by omega)]
    simp only [List.cons_append, List.nil_append]
    -- with no bits in the first byte the second one is high, or the character would be shorter
    have hlow : (if c.toNat / 0x1000 = 0 then 0xA0 else 0x80 : Byte).toNat ≤ 0x80 + c.toNat / 0x40 % 0x40 := by
      split_ifs
      · change 0xA0 ≤ _; omega
      · change 0x80 ≤ _; omega
    have hhigh : 0x80 + c.toNat / 0x40 % 0x40 ≤
        (if c.toNat / 0x1000 = 0xD then 0x9F else 0xBF : Byte).toNat := by
      split_ifs
      · change _ ≤ 0x9F; omega
      · change _ ≤ 0xBF; omega
    rw [follow_tail _ _ _ _ (by omega) hlow hhigh, follow_inner _ _ _ _ (by omega), follow_zero,
      show (c.toNat / 0x1000 * 0x40 + c.toNat / 0x40 % 0x40) * 0x40 + c.toNat / 1 % 0x40 = c.toNat by omega]
    simp [Char.ofNat_toNat]
  · refine ⟨_, _, rfl, ?_⟩
    rw [first, lead?_four _ (by omega)]
    simp only [List.cons_append, List.nil_append]
    have hlow : (if c.toNat / 0x40000 = 0 then 0x90 else 0x80 : Byte).toNat ≤
        0x80 + c.toNat / 0x1000 % 0x40 := by
      split_ifs
      · change 0x90 ≤ _; omega
      · change 0x80 ≤ _; omega
    have hhigh : 0x80 + c.toNat / 0x1000 % 0x40 ≤
        (if c.toNat / 0x40000 = 4 then 0x8F else 0xBF : Byte).toNat := by
      split_ifs
      · change _ ≤ 0x8F; omega
      · change _ ≤ 0xBF; omega
    rw [follow_tail _ _ _ _ (by omega) hlow hhigh, follow_inner _ _ _ _ (by omega),
      follow_inner _ _ _ _ (by omega), follow_zero,
      show ((c.toNat / 0x40000 * 0x40 + c.toNat / 0x1000 % 0x40) * 0x40 + c.toNat / 0x40 % 0x40) * 0x40 +
        c.toNat / 1 % 0x40 = c.toNat by omega]
    simp [Char.ofNat_toNat]

/-! ## Texts -/

/-- The bytes that belong to the character before are passed over. -/
theorem units_skip (position : Nat) (bs rest : List Byte) :
    units position bs.length (bs ++ rest) = units (position + bs.length) 0 rest := by
  induction bs generalizing position with
  | nil => rfl
  | cons b bs ih =>
    rw [List.length_cons, List.cons_append, units, ih, Nat.add_right_comm, Nat.add_assoc]

theorem units_encode (position : Nat) (cs : List Char) :
    units position 0 (encode cs) = cs.map .ok := by
  induction cs generalizing position with
  | nil => rfl
  | cons c cs ih =>
    obtain ⟨b, bs, hbytes, hfirst⟩ := first_encodeChar c (encode cs)
    rw [show encode (c :: cs) = b :: (bs ++ encode cs) by rw [encode, List.flatMap_cons, hbytes]; rfl,
      units, hfirst]
    simp only [units_skip, ih, List.map_cons]

/-- The bytes of a text are read as the text. -/
theorem decode_encode (cs : List Char) : decode (encode cs) = .ok cs := by
  rw [decode, units_encode]
  induction cs with
  | nil => rfl
  | cons c cs ih =>
    rw [List.map_cons, List.mapM_cons, ih]
    rfl

theorem decodeLossy_encode (cs : List Char) : decodeLossy (encode cs) = cs := by
  rw [decodeLossy, units_encode, List.map_map]
  exact List.map_id cs

/-! ## What is read was written -/

theorem lead?_range : ∀ n < 0x100, lead? n.toUInt8 ≠ none →
    n < 0x80 ∨ (0xC2 ≤ n ∧ n < 0xE0) ∨ (0xE0 ≤ n ∧ n < 0xF0) ∨ (0xF0 ≤ n ∧ n < 0xF5) := by
  decide +kernel

/-- A byte of the tail that is accepted gives six bits. -/
theorem exists_of_follow {need acc used n u : Nat} {low high : Byte} {bs : List Byte} (hlow : 0x80 ≤ low.toNat)
    (hhigh : high.toNat ≤ 0xBF) (h : follow (need + 1) low high acc used bs = (.ok n, u)) :
    ∃ k rest, bs = (0x80 + k).toUInt8 :: rest ∧ k < 0x40 ∧ low.toNat ≤ 0x80 + k ∧ 0x80 + k ≤ high.toNat ∧
      follow need 0x80 0xBF (acc * 0x40 + k) (used + 1) rest = (.ok n, u) := by
  cases bs with
  | nil =>
    rw [follow] at h
    cases h
  | cons b rest =>
    rw [follow] at h
    split_ifs at h with hrange
    · simp only [Bool.and_eq_true, decide_eq_true_eq, UInt8.le_iff_toNat_le] at hrange
      refine ⟨b.toNat - 0x80, rest, ?_, by omega, by omega, by omega, h⟩
      rw [show 0x80 + (b.toNat - 0x80) = b.toNat by omega]
      exact congrArg (· :: rest) UInt8.ofNat_toNat.symm
    · cases h

theorem exists_of_follow_inner {need acc used n u : Nat} {bs : List Byte}
    (h : follow (need + 1) 0x80 0xBF acc used bs = (.ok n, u)) :
    ∃ k rest, bs = (0x80 + k).toUInt8 :: rest ∧ k < 0x40 ∧
      follow need 0x80 0xBF (acc * 0x40 + k) (used + 1) rest = (.ok n, u) := by
  obtain ⟨k, rest, hbs, hk, -, -, hrest⟩ := exists_of_follow (Nat.le_refl _) (Nat.le_refl _) h
  exact ⟨k, rest, hbs, hk, hrest⟩

theorem exists_of_first {b : Byte} {rest : List Byte} {c : Char} {used need bits : Nat} {low high : Byte}
    (hlead : lead? b = some (need, low, high, bits)) (h : first b rest = (.ok c, used)) :
    ∃ n, follow need low high bits 0 rest = (.ok n, used) ∧ c = Char.ofNat n := by
  simp only [first, hlead] at h
  split at h
  · rename_i n u hfollow
    cases h
    exact ⟨n, hfollow, rfl⟩
  · cases h

theorem toNat_ofNat {n : Nat} (h : n < 0xD800 ∨ (0xDFFF < n ∧ n < 0x110000)) : (Char.ofNat n).toNat = n := by
  have hvalid : n.isValidChar := h
  rw [Char.ofNat, dif_pos hvalid]
  rfl

/-! The bytes of the character that some bits make up. -/

section Bits

variable {k i j l : Nat} (hi : i < 0x40) (hj : j < 0x40) (hl : l < 0x40)

theorem encodeChar_one (hk : k < 0x80) : encodeChar (Char.ofNat k) = [k.toUInt8] := by
  rw [encodeChar, toNat_ofNat (by omega)]
  simp only [if_pos hk]

include hi

theorem encodeChar_two (hk : k < 0x1E) :
    encodeChar (Char.ofNat ((k + 2) * 0x40 + i)) = [(0xC2 + k).toUInt8, (0x80 + i).toUInt8] := by
  rw [encodeChar, toNat_ofNat (by omega)]
  simp only []
  rw [if_neg (by omega), if_pos (by omega), show 0xC0 + ((k + 2) * 0x40 + i) / 0x40 = 0xC2 + k by omega,
    show ((k + 2) * 0x40 + i) / 1 % 0x40 = i by omega]

include hj

/-- Without bits in the first byte the second one is high, and half a pair of code units is no character. -/
theorem encodeChar_three (hk : k < 0x10) (hlow : k = 0 → 0x20 ≤ i) (hhigh : k = 0xD → i < 0x20) :
    encodeChar (Char.ofNat ((k * 0x40 + i) * 0x40 + j)) =
      [(0xE0 + k).toUInt8, (0x80 + i).toUInt8, (0x80 + j).toUInt8] := by
  rw [encodeChar, toNat_ofNat (by omega)]
  simp only []
  rw [if_neg (by omega), if_neg (by omega), if_pos (by omega),
    show 0xE0 + ((k * 0x40 + i) * 0x40 + j) / 0x1000 = 0xE0 + k by omega,
    show ((k * 0x40 + i) * 0x40 + j) / 0x40 % 0x40 = i by omega,
    show ((k * 0x40 + i) * 0x40 + j) / 1 % 0x40 = j by omega]

include hl

theorem encodeChar_four (hk : k < 5) (hlow : k = 0 → 0x10 ≤ i) (hhigh : k = 4 → i < 0x10) :
    encodeChar (Char.ofNat (((k * 0x40 + i) * 0x40 + j) * 0x40 + l)) =
      [(0xF0 + k).toUInt8, (0x80 + i).toUInt8, (0x80 + j).toUInt8, (0x80 + l).toUInt8] := by
  rw [encodeChar, toNat_ofNat (by omega)]
  simp only []
  rw [if_neg (by omega), if_neg (by omega), if_neg (by omega),
    show 0xF0 + (((k * 0x40 + i) * 0x40 + j) * 0x40 + l) / 0x40000 = 0xF0 + k by omega,
    show (((k * 0x40 + i) * 0x40 + j) * 0x40 + l) / 0x1000 % 0x40 = i by omega,
    show (((k * 0x40 + i) * 0x40 + j) * 0x40 + l) / 0x40 % 0x40 = j by omega,
    show (((k * 0x40 + i) * 0x40 + j) * 0x40 + l) / 1 % 0x40 = l by omega]

end Bits

/-- The bytes that are read as a character are those of the character. -/
theorem encodeChar_of_first {b : Byte} {rest : List Byte} {c : Char} {used : Nat} (h : first b rest = (.ok c, used)) :
    ∃ bs tail, rest = bs ++ tail ∧ bs.length = used ∧ encodeChar c = b :: bs := by
  obtain ⟨n, hn, rfl⟩ : ∃ n < 0x100, b = n.toUInt8 := ⟨b.toNat, b.toNat_lt, UInt8.ofNat_toNat.symm⟩
  have hlead : lead? n.toUInt8 ≠ none := by
    intro hnone
    simp only [first, hnone] at h
    cases h
  rcases lead?_range n hn hlead with hone | ⟨htwo, htwo'⟩ | ⟨hthree, hthree'⟩ | ⟨hfour, hfour'⟩
  · obtain ⟨m, hm, rfl⟩ := exists_of_first (lead?_one n hone) h
    rw [follow_zero] at hm
    cases hm
    exact ⟨[], rest, rfl, rfl, encodeChar_one hone⟩
  · obtain ⟨k, hk, rfl⟩ : ∃ k < 0x1E, n = 0xC2 + k := ⟨n - 0xC2, by omega, by omega⟩
    obtain ⟨m, hm, rfl⟩ := exists_of_first (lead?_two k hk) h
    obtain ⟨i, tail, rfl, hi, hm⟩ := exists_of_follow_inner hm
    rw [follow_zero] at hm
    cases hm
    exact ⟨[_], tail, rfl, rfl, encodeChar_two hi hk⟩
  · obtain ⟨k, hk, rfl⟩ : ∃ k < 0x10, n = 0xE0 + k := ⟨n - 0xE0, by omega, by omega⟩
    obtain ⟨m, hm, rfl⟩ := exists_of_first (lead?_three k hk) h
    obtain ⟨i, tail, rfl, hi, hlow, hhigh, hm⟩ :=
      exists_of_follow (by split_ifs <;> decide) (by split_ifs <;> decide) hm
    obtain ⟨j, tail, rfl, hj, hm⟩ := exists_of_follow_inner hm
    rw [follow_zero] at hm
    cases hm
    refine ⟨[_, _], tail, rfl, rfl, encodeChar_three hi hj hk ?_ ?_⟩
    · rintro rfl
      change 0xA0 ≤ 0x80 + i at hlow
      omega
    · rintro rfl
      change 0x80 + i ≤ 0x9F at hhigh
      omega
  · obtain ⟨k, hk, rfl⟩ : ∃ k < 5, n = 0xF0 + k := ⟨n - 0xF0, by omega, by omega⟩
    obtain ⟨m, hm, rfl⟩ := exists_of_first (lead?_four k hk) h
    obtain ⟨i, tail, rfl, hi, hlow, hhigh, hm⟩ :=
      exists_of_follow (by split_ifs <;> decide) (by split_ifs <;> decide) hm
    obtain ⟨j, tail, rfl, hj, hm⟩ := exists_of_follow_inner hm
    obtain ⟨l, tail, rfl, hl, hm⟩ := exists_of_follow_inner hm
    rw [follow_zero] at hm
    cases hm
    refine ⟨[_, _, _], tail, rfl, rfl, encodeChar_four hi hj hl hk ?_ ?_⟩
    · rintro rfl
      change 0x90 ≤ 0x80 + i at hlow
      omega
    · rintro rfl
      change 0x80 + i ≤ 0x8F at hhigh
      omega

theorem encode_of_units {position : Nat} {bs : List Byte} {cs : List Char}
    (h : (units position 0 bs).mapM id = .ok cs) : encode cs = bs := by
  induction hn : bs.length using Nat.strongRecOn generalizing position bs cs with
  | ind n ih =>
    subst hn
    cases bs with
    | nil =>
      cases h
      rfl
    | cons b rest =>
      rw [units] at h
      rcases hfirst : first b rest with ⟨fault | c, used⟩
      · rw [hfirst] at h
        cases h
      · obtain ⟨bytes, tail, rfl, rfl, hbytes⟩ := encodeChar_of_first hfirst
        simp only [hfirst, units_skip, List.mapM_cons] at h
        cases hrest : (units (position + 1 + bytes.length) 0 tail).mapM id with
        | error e =>
          rw [hrest] at h
          cases h
        | ok cs' =>
          rw [hrest] at h
          cases h
          have htail : encode cs' = tail := ih tail.length (by rw [List.length_cons, List.length_append]; omega) hrest rfl
          rw [encode, List.flatMap_cons, ← encode, htail, hbytes, List.cons_append]

/-- The bytes of texts are all that can be read. -/
theorem decode_eq_ok_iff {bs : List Byte} {cs : List Char} : decode bs = .ok cs ↔ bs = encode cs := by
  constructor
  · intro h
    exact (encode_of_units h).symm
  · rintro rfl
    exact decode_encode cs

end Landmarks.Utf8
