import Landmarks.Number.Shortest
import Landmarks.Proofs.Rounding
import Mathlib.Order.Compare

/-!
# The shortest decimal reads back

* `Binary64.compareDecimal_eq` : decimals and quotients are compared by value.
* `Binary64.holds_interval` : the decimals of the interval of a number are those that it covers.
* `Binary64.covers_shortest` : the search ends at such a decimal, since the grid of 17 digits is finer
  than what a number covers.
* `Binary64.ofDecimal_of_covers` : the decimals that a number covers are read as it.
-/

namespace Landmarks.Binary64

theorem ten_zpow_pos (s : ℤ) : (0 : ℚ) < 10 ^ s := zpow_pos (by norm_num) s

theorem ten_zpow_le {s t : ℤ} (h : s ≤ t) : (10 : ℚ) ^ s ≤ 10 ^ t := zpow_le_zpow_right₀ (by norm_num) h

/-! ## Comparison -/

theorem compare_congr {α β : Type} [LinearOrder α] [LinearOrder β] {a b : α} {c d : β}
    (hlt : a < b ↔ c < d) (hgt : b < a ↔ d < c) : compare a b = compare c d := by
  rcases lt_trichotomy a b with h | h | h
  · rw [compare_lt_iff_lt.2 h, compare_lt_iff_lt.2 (hlt.1 h)]
  · have hc : c = d := le_antisymm (le_of_not_gt fun h' => (hgt.2 h').ne' h) (le_of_not_gt fun h' => (hlt.2 h').ne h)
    rw [compare_eq_iff_eq.2 h, compare_eq_iff_eq.2 hc]
  · rw [compare_gt_iff_gt.2 h, compare_gt_iff_gt.2 (hgt.1 h)]

theorem compareDecimal_eq (c : ℕ) (s : ℤ) (a : ℕ) {b : ℕ} (hb : 0 < b) :
    compareDecimal c s a b = compare ((c : ℚ) * 10 ^ s) (a / b) := by
  have hb' : (0 : ℚ) < b := by exact_mod_cast hb
  unfold compareDecimal
  split_ifs with hs
  · refine compare_congr ?_ ?_
    · rw [lt_div_iff₀ hb', ← zpow_toNat 10 hs]
      norm_cast
    · rw [div_lt_iff₀ hb', ← zpow_toNat 10 hs]
      norm_cast
  · have hten : (0 : ℚ) < 10 ^ (-s).toNat := by positivity
    have hneg : (10 : ℚ) ^ s = (10 ^ (-s).toNat)⁻¹ := by
      rw [zpow_toNat 10 (by omega : 0 ≤ -s), zpow_neg, inv_inv]
    rw [hneg, ← div_eq_mul_inv]
    refine compare_congr ?_ ?_
    · rw [div_lt_div_iff₀ hten hb']
      norm_cast
    · rw [div_lt_div_iff₀ hb' hten]
      norm_cast

theorem unitsAbove_bounds (a : ℕ) {b : ℕ} (hb : 0 < b) (s : ℤ) :
    (unitsAbove a b s : ℚ) * 10 ^ s ≤ a / b ∧ (a : ℚ) / b < (unitsAbove a b s + 1) * 10 ^ s := by
  have hb' : (0 : ℚ) < b := by exact_mod_cast hb
  unfold unitsAbove
  split_ifs with hs
  · have hpos : 0 < b * 10 ^ s.toNat := Nat.mul_pos hb (Nat.pow_pos (by norm_num))
    have hdown := Nat.div_mul_le_self a (b * 10 ^ s.toNat)
    have hup := Nat.lt_mul_of_div_lt (Nat.lt_succ_self (a / (b * 10 ^ s.toNat))) hpos
    rw [← zpow_toNat 10 hs, le_div_iff₀ hb', div_lt_iff₀ hb', Nat.pow_eq]
    generalize a / (b * 10 ^ s.toNat) = q at *
    constructor
    · rw [mul_comm b, ← mul_assoc] at hdown
      exact_mod_cast hdown
    · rw [mul_comm b, ← mul_assoc] at hup
      exact_mod_cast hup
  · have hten : (0 : ℚ) < 10 ^ (-s).toNat := by positivity
    have hneg : (10 : ℚ) ^ s = (10 ^ (-s).toNat)⁻¹ := by
      rw [zpow_toNat 10 (by omega : 0 ≤ -s), zpow_neg, inv_inv]
    rw [hneg, ← div_eq_mul_inv, ← div_eq_mul_inv, div_le_div_iff₀ hten hb', div_lt_div_iff₀ hb' hten, Nat.pow_eq]
    constructor
    · exact_mod_cast Nat.div_mul_le_self (a * 10 ^ (-s).toNat) b
    · have h := Nat.lt_mul_of_div_lt (Nat.lt_succ_self (a * 10 ^ (-s).toNat / b)) hb
      exact_mod_cast h

/-! ## The interval of a number -/

variable {m : ℕ} {e : ℤ}

theorem interval_den_pos (m : ℕ) (e : ℤ) : 0 < (interval m e).den := Nat.pow_pos (by norm_num)

theorem interval_unit (e : ℤ) : (2 ^ (e - 2).toNat : ℚ) / 2 ^ (2 - e).toNat = 2 ^ e / 4 := by
  have hquarter : (2 : ℚ) ^ (e - 2) = 2 ^ e / 4 := by
    rw [zpow_sub₀ (by norm_num)]
    norm_num
  rcases le_total 2 e with h | h
  · rw [zpow_toNat 2 (by omega : 0 ≤ e - 2), show (2 - e).toNat = 0 by omega, pow_zero, div_one, hquarter]
  · rw [show (e - 2).toNat = 0 by omega, pow_zero, zpow_toNat 2 (by omega : 0 ≤ 2 - e), ← hquarter, one_div,
      ← zpow_neg, neg_sub]

theorem interval_value (k : ℕ) (e : ℤ) :
    ((k * Nat.pow 2 (e - 2).toNat : ℕ) : ℚ) / (Nat.pow 2 (2 - e).toNat : ℕ) = k / 4 * 2 ^ e := by
  rw [Nat.pow_eq, Nat.pow_eq]
  push_cast
  rw [mul_div_assoc, interval_unit]
  ring

theorem interval_mid (m : ℕ) (e : ℤ) : ((interval m e).mid : ℚ) / (interval m e).den = m * 2 ^ e := by
  refine (interval_value (4 * m) e).trans ?_
  push_cast
  ring

/-- The decimals of the interval are those that the number covers. -/
theorem holds_interval (hm : 0 < m) (c : ℕ) (s : ℤ) :
    (interval m e).holds c s = true ↔ Covers m e (c * 10 ^ s) := by
  have hlow : ((interval m e).low : ℚ) / (interval m e).den =
      (m - if m = 2 ^ 52 ∧ minExponent < e then 1 / 4 else 1 / 2) * 2 ^ e := by
    refine (interval_value _ e).trans ?_
    congr 1
    by_cases h : m = 2 ^ 52 ∧ minExponent < e
    · rw [if_pos h, if_pos (by simpa using h), Nat.cast_sub (by omega)]
      push_cast
      ring
    · rw [if_neg h, if_neg (by simpa using h), Nat.cast_sub (by omega)]
      push_cast
      ring
  have hhigh : ((interval m e).high : ℚ) / (interval m e).den = (m + 1 / 2) * 2 ^ e := by
    refine (interval_value _ e).trans ?_
    push_cast
    ring
  rw [Interval.holds, compareDecimal_eq _ _ _ (interval_den_pos m e), compareDecimal_eq _ _ _ (interval_den_pos m e),
    hlow, hhigh, Covers, Between]
  simp only [Bool.and_eq_true, Bool.or_eq_true, beq_iff_eq, compare_gt_iff_gt, compare_lt_iff_lt, compare_eq_iff_eq,
    interval, gt_iff_lt]
  exact and_congr (or_congr Iff.rfl (and_congr eq_comm Iff.rfl)) Iff.rfl

/-! ## The search -/

theorem Interval.holds_of_onGrid? {i : Interval} {s : ℤ} {c : ℕ} (h : i.onGrid? s = some c) :
    i.holds c s = true := by
  simp only [Interval.onGrid?] at h
  split at h
  · rename_i hdown hup
    cases h
    unfold Interval.nearer
    split
    · exact hup
    · exact hdown
    · split_ifs
      · exact hdown
      · exact hup
  · rename_i hdown hup
    cases h
    exact hdown
  · rename_i hdown hup
    cases h
    exact hup
  · cases h

theorem Interval.onGrid?_ne_none {i : Interval} {s : ℤ} (h : i.holds (unitsAbove i.mid i.den s) s = true ∨
    i.holds (unitsAbove i.mid i.den s + 1) s = true) : i.onGrid? s ≠ none := by
  simp only [Interval.onGrid?]
  split <;> simp_all

theorem Interval.holds_search {i : Interval} {s : ℤ} {t tries : ℕ} (ht : t < tries) (h : i.onGrid? (s - t) ≠ none) :
    i.holds (i.search tries s).1 (i.search tries s).2 = true := by
  induction tries generalizing s t with
  | zero => omega
  | succ tries ih =>
    rw [Interval.search]
    cases hgrid : i.onGrid? s with
    | some c => exact i.holds_of_onGrid? hgrid
    | none =>
      cases t with
      | zero => exact absurd hgrid (by simpa using h)
      | succ t =>
        refine ih (by omega : t < tries) ?_
        rwa [show s - 1 - (t : ℤ) = s - ((t + 1 : ℕ) : ℤ) by push_cast; ring]

/-- A grid finer than what the number covers has a point in it. -/
theorem onGrid?_interval_ne_none (hm : 0 < m) {s : ℤ}
    (hfine : (10 : ℚ) ^ s < ((if m = 2 ^ 52 ∧ minExponent < e then 1 / 4 else 1 / 2) + 1 / 2) * 2 ^ e) :
    (interval m e).onGrid? s ≠ none := by
  obtain ⟨hdown, hup⟩ := unitsAbove_bounds (interval m e).mid (interval_den_pos m e) s
  rw [interval_mid] at hdown hup
  have htwo := two_zpow_pos e
  set c := unitsAbove (interval m e).mid (interval m e).den s
  refine Interval.onGrid?_ne_none ?_
  rw [holds_interval hm, holds_interval hm]
  push_cast
  by_cases hlow : (m - if m = 2 ^ 52 ∧ minExponent < e then 1 / 4 else 1 / 2 : ℚ) * 2 ^ e < c * 10 ^ s
  · exact .inl ⟨.inl hlow, .inl (by linarith)⟩
  · have hless : (m - if m = 2 ^ 52 ∧ minExponent < e then 1 / 4 else 1 / 2 : ℚ) * 2 ^ e ≤ m * 2 ^ e := by
      refine mul_le_mul_of_nonneg_right ?_ htwo.le
      split_ifs <;> linarith
    exact .inr ⟨.inl (by linarith), .inl (by linarith)⟩

/-! ## The place of the first digit -/

theorem ten_pow_guess_le_two_pow : ∀ k < 1100, 10 ^ (k * 30103 / 100000 - 1) ≤ 2 ^ k := by decide +kernel

theorem two_pow_le_ten_pow_guess : ∀ k < 1100, 2 ^ k ≤ 10 ^ ((k * 30103 + 99999) / 100000) := by decide +kernel

/-- The guess of the place of the first digit is at most one too high. -/
theorem guess_le {k : ℤ} (hlow : -1100 < k) (hhigh : k < 1100) :
    (10 : ℚ) ^ (Int.fdiv (k * 30103) 100000 - 1) ≤ 2 ^ k := by
  rw [Int.fdiv_eq_ediv_of_nonneg _ (by norm_num)]
  rcases le_total 0 k with hk | hk
  · obtain ⟨j, rfl⟩ := Int.eq_ofNat_of_zero_le hk
    have h : (10 : ℚ) ^ (j * 30103 / 100000 - 1) ≤ 2 ^ j := by exact_mod_cast ten_pow_guess_le_two_pow j (by omega)
    rw [zpow_natCast]
    refine le_trans ?_ h
    rw [← zpow_natCast]
    exact ten_zpow_le (by omega)
  · obtain ⟨j, rfl⟩ : ∃ j : ℕ, k = -(j : ℤ) := ⟨k.natAbs, by omega⟩
    have h : (2 : ℚ) ^ j ≤ 10 ^ ((j * 30103 + 99999) / 100000) := by
      exact_mod_cast two_pow_le_ten_pow_guess j (by omega)
    calc (10 : ℚ) ^ (-(j : ℤ) * 30103 / 100000 - 1)
        ≤ 10 ^ (-(((j * 30103 + 99999) / 100000 : ℕ) : ℤ)) := ten_zpow_le (by omega)
      _ ≤ 2 ^ (-(j : ℤ)) := by
        rw [zpow_neg, zpow_neg, zpow_natCast, zpow_natCast]
        exact inv_anti₀ (by positivity) h

theorem decimalOrder_le {a b : ℕ} (hb : 0 < b) {guess : ℤ} (hguess : (10 : ℚ) ^ (guess - 1) ≤ a / b) :
    (10 : ℚ) ^ decimalOrder a b guess ≤ a / b := by
  have hless : ∀ {s : ℤ}, ¬ compareDecimal 1 s a b = .gt → (10 : ℚ) ^ s ≤ a / b := by
    intro s hs
    rw [compareDecimal_eq _ _ _ hb, compare_gt_iff_gt, Nat.cast_one, one_mul] at hs
    exact le_of_not_gt hs
  unfold decimalOrder
  split_ifs with h1 h2
  · exact hguess
  · exact hless (by simpa using h1)
  · exact hless (by simpa using h2)

/-! ## The shortest decimal -/

theorem dropZeros_value (fuel c : ℕ) (s : ℤ) :
    ((dropZeros fuel c s).1 : ℚ) * 10 ^ (dropZeros fuel c s).2 = c * 10 ^ s := by
  induction fuel generalizing c s with
  | zero => rfl
  | succ fuel ih =>
    rw [dropZeros]
    split_ifs with h
    · have hc : c = 10 * (c / 10) := by simp only [Bool.and_eq_true, beq_iff_eq] at h; omega
      rw [ih, zpow_add_one₀ (by norm_num)]
      nth_rewrite 2 [hc]
      push_cast
      ring
    · rfl

/-- The shortest decimal of a number is one that it covers. -/
theorem covers_shortest (hm : 0 < m) {negative : Bool} (hc : (finite negative m e).Canonical) :
    Covers m e ((shortest m e).1 * 10 ^ (shortest m e).2) := by
  obtain ⟨hlong, hleast, hmost, -⟩ := hc
  have htwo := two_zpow_pos e
  set k : ℤ := (m.log2 : ℤ) + e with hk
  have hvalue : (2 : ℚ) ^ k ≤ m * 2 ^ e := by
    have h : (2 : ℚ) ^ m.log2 ≤ m := by exact_mod_cast Nat.log2_self_le hm.ne'
    rw [hk, zpow_add₀ (by norm_num), zpow_natCast]
    exact mul_le_mul_of_nonneg_right h htwo.le
  have hlog : m.log2 < 53 := (Nat.log2_lt hm.ne').2 hlong
  have hguess := guess_le (k := k) (by unfold minExponent at hleast; omega) (by unfold maxExponent at hmost; omega)
  set place := decimalOrder (interval m e).mid (interval m e).den (Int.fdiv (k * 30103) 100000)
  have hplace : (10 : ℚ) ^ place ≤ m * 2 ^ e := by
    rw [← interval_mid]
    refine decimalOrder_le (interval_den_pos m e) ?_
    rw [interval_mid]
    exact hguess.trans hvalue
  -- the last grid has 17 digits, which are more than a significand has
  have hlast : (interval m e).onGrid? (place - (16 : ℕ)) ≠ none := by
    refine onGrid?_interval_ne_none hm ?_
    have hgrid : (10 : ℚ) ^ (place - (16 : ℕ)) ≤ m / 10 ^ 16 * 2 ^ e := by
      rw [zpow_sub₀ (by norm_num), zpow_natCast, div_mul_eq_mul_div]
      exact div_le_div_of_nonneg_right hplace (by positivity)
    refine hgrid.trans_lt (mul_lt_mul_of_pos_right ?_ htwo)
    split_ifs with hpower
    · rw [hpower.1]
      norm_num
    · have hlong : (m : ℚ) < 2 ^ 53 := by exact_mod_cast hlong
      rw [div_lt_iff₀ (by norm_num)]
      norm_num at hlong ⊢
      linarith
  have hfound := Interval.holds_search (by norm_num : 16 < 17) hlast
  rw [holds_interval hm] at hfound
  rw [shortest, dropZeros_value]
  exact hfound

/-! ## Reading decimals -/

theorem Covers.pos {x : ℚ} (hm : 0 < m) (hx : Covers m e x) : 1 / 2 * 2 ^ e ≤ x := by
  have hm' : (1 : ℚ) ≤ m := by exact_mod_cast hm
  refine le_trans (mul_le_mul_of_nonneg_right ?_ (two_zpow_pos e).le) hx.low_le
  split_ifs <;> linarith

/-- The number of digits gives the order of magnitude of a decimal. -/
theorem decimal_bounds {digits : ℕ} (hdigits : 0 < digits) (exponent : ℤ) :
    (10 : ℚ) ^ ((Nat.toDigits 10 digits).length + exponent - 1) ≤ digits * 10 ^ exponent ∧
      (digits : ℚ) * 10 ^ exponent < 10 ^ ((Nat.toDigits 10 digits).length + exponent) := by
  have hlength : 0 < (Nat.toDigits 10 digits).length := Nat.length_toDigits_pos
  have hten := ten_zpow_pos exponent
  constructor
  · obtain ⟨n, hn⟩ : ∃ n, (Nat.toDigits 10 digits).length = n + 1 := ⟨_, (Nat.sub_add_cancel hlength).symm⟩
    have hlow : 10 ^ n ≤ digits := by
      rcases Nat.eq_zero_or_pos n with rfl | hpos
      · exact hdigits
      · by_contra hlt
        have := (Nat.length_toDigits_le_iff (by norm_num) hpos).2 (Nat.lt_of_not_le hlt)
        omega
    have hlow : (10 : ℚ) ^ n ≤ digits := by exact_mod_cast hlow
    rw [hn, show ((n + 1 : ℕ) : ℤ) + exponent - 1 = n + exponent by push_cast; ring, zpow_add₀ (by norm_num),
      zpow_natCast]
    exact mul_le_mul_of_nonneg_right hlow hten.le
  · have hhigh : (digits : ℚ) < 10 ^ (Nat.toDigits 10 digits).length := by
      exact_mod_cast (Nat.length_toDigits_le_iff (by norm_num) hlength).1 le_rfl
    rw [zpow_add₀ (by norm_num), zpow_natCast]
    exact mul_lt_mul_of_pos_right hhigh hten

/-- No finite number has the order of magnitude of what is taken for infinite. -/
theorem max_lt : (2 : ℚ) ^ 53 * 2 ^ maxExponent < 10 ^ (310 : ℤ) := by
  have h : ((2 ^ 1024 : ℕ) : ℚ) < ((10 ^ 310 : ℕ) : ℚ) := Nat.cast_lt.2 (by decide +kernel)
  simp only [Nat.cast_pow, Nat.cast_ofNat] at h
  rw [show (2 : ℚ) ^ maxExponent = 2 ^ 971 from zpow_natCast 2 971, ← pow_add,
    show (10 : ℚ) ^ (310 : ℤ) = 10 ^ 310 from zpow_natCast 10 310]
  exact h

/-- No finite number but zero has the order of magnitude of what is taken for zero. -/
theorem lt_min : (10 : ℚ) ^ (-330 : ℤ) < 1 / 2 * 2 ^ minExponent := by
  have h : ((2 ^ 1075 : ℕ) : ℚ) < ((10 ^ 330 : ℕ) : ℚ) := Nat.cast_lt.2 (by decide +kernel)
  simp only [Nat.cast_pow, Nat.cast_ofNat] at h
  have hleast : (2 : ℚ) ^ minExponent = (2 ^ 1074)⁻¹ := zpow_neg_coe_of_pos 2 (by norm_num)
  rw [hleast, one_div, ← mul_inv, ← pow_succ',
    show (10 : ℚ) ^ (-330 : ℤ) = (10 ^ 330)⁻¹ from zpow_neg_coe_of_pos 10 (by norm_num)]
  exact inv_strictAnti₀ (by positivity) h

/-- The decimals that a number covers are read as it. -/
theorem ofDecimal_of_covers (hm : 0 < m) {negative : Bool} (hc : (finite negative m e).Canonical) {digits : ℕ}
    {exponent : ℤ} (hx : Covers m e (digits * 10 ^ exponent)) :
    ofDecimal negative digits exponent = finite negative m e := by
  have hten := ten_zpow_pos exponent
  have hlow := hx.pos hm
  have hdigits : 0 < digits := by
    rcases Nat.eq_zero_or_pos digits with rfl | h
    · have := two_zpow_pos e
      simp only [Nat.cast_zero, zero_mul] at hlow
      linarith
    · exact h
  obtain ⟨horderLow, horderHigh⟩ := decimal_bounds hdigits exponent
  obtain ⟨hlong, hleast, hmost, -⟩ := id hc
  -- the order of magnitude is one of a finite number
  have hbig : ¬ ((Nat.toDigits 10 digits).length + exponent > 310) := by
    intro horder
    have h1 : (10 : ℚ) ^ (310 : ℤ) ≤ digits * 10 ^ exponent := (ten_zpow_le (by omega)).trans horderLow
    have h2 : (m : ℚ) + 1 / 2 ≤ 2 ^ 53 := by
      have : (m : ℚ) + 1 ≤ 2 ^ 53 := by exact_mod_cast hlong
      linarith
    have h3 : (digits : ℚ) * 10 ^ exponent ≤ 2 ^ 53 * 2 ^ maxExponent :=
      hx.le_high.trans (mul_le_mul h2 (two_zpow_le hmost) (two_zpow_pos e).le (by norm_num))
    exact absurd (h1.trans h3) (not_le_of_gt max_lt)
  have hsmall : ¬ ((Nat.toDigits 10 digits).length + exponent < -330) := by
    intro horder
    have h1 : (digits : ℚ) * 10 ^ exponent < 10 ^ (-330 : ℤ) := horderHigh.trans_le (ten_zpow_le horder.le)
    have h2 : (1 : ℚ) / 2 * 2 ^ minExponent ≤ digits * 10 ^ exponent :=
      le_trans (mul_le_mul_of_nonneg_left (two_zpow_le hleast) (by norm_num)) hlow
    exact absurd (h2.trans h1.le) (not_le_of_gt lt_min)
  simp only [ofDecimal, if_neg hbig, if_neg hsmall, beq_eq_false_iff_ne.2 hdigits.ne', Bool.false_eq_true, if_false]
  split_ifs with hexponent
  · refine ofRatio_of_covers negative (Nat.mul_pos hdigits (Nat.pow_pos (by norm_num))) Nat.one_pos hc ?_
    rw [Nat.pow_eq]
    push_cast
    rw [zpow_toNat 10 hexponent, div_one]
    exact hx
  · refine ofRatio_of_covers negative hdigits (Nat.pow_pos (by norm_num)) hc ?_
    rw [Nat.pow_eq]
    push_cast
    rw [zpow_toNat 10 (by omega : 0 ≤ -exponent), zpow_neg, div_inv_eq_mul]
    exact hx

end Landmarks.Binary64
