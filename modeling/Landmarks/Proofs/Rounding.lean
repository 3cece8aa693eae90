import Landmarks.Number.Binary64
import Mathlib.Algebra.Order.Field.Power
import Mathlib.Data.Nat.Log
import Mathlib.Data.Rat.Cast.Order
import Mathlib.Tactic.FieldSimp
import Mathlib.Tactic.Linarith
import Mathlib.Tactic.Positivity
import Mathlib.Tactic.Ring

/-!
# Rounding to binary floating point

Numbers are compared by value, as rationals.

* `Between` : a rational between two ends, which count or not.
* `Nearest` : the integer nearest to a rational, a tie to the even one; `roundDiv` computes it.
* `Binary64.Fits` : the exponent for which a rational has 53 binary digits before the point, or fewer
  and the least exponent. There is one, and `ofRatio` finds it.
* `Binary64.Canonical` : finite numbers in the only form that rounding gives.
* `Binary64.Covers` : the rationals that a number is the nearest one to.
* `Binary64.canonical_ofRatio`, `Binary64.ofRatio_of_covers` : what is rounded is canonical, and what a
  number covers is rounded to it.
-/

namespace Landmarks

/-- A rational between two ends; they belong to the range if `closed`. -/
def Between (low high : ℚ) (closed : Prop) (x : ℚ) : Prop :=
  (low < x ∨ low = x ∧ closed) ∧ (x < high ∨ x = high ∧ closed)

namespace Between

variable {low high x : ℚ} {closed : Prop}

theorem low_le (h : Between low high closed x) : low ≤ x :=
  h.1.elim le_of_lt fun h => h.1.le

theorem le_high (h : Between low high closed x) : x ≤ high :=
  h.2.elim le_of_lt fun h => h.1.le

theorem div {k : ℚ} (hk : 0 < k) (h : Between (low * k) (high * k) closed x) :
    Between low high closed (x / k) := by
  refine ⟨h.1.imp (lt_div_iff₀ hk).2 ?_, h.2.imp (div_lt_iff₀ hk).2 ?_⟩
  · exact fun h => ⟨eq_div_of_mul_eq hk.ne' h.1, h.2⟩
  · exact fun h => ⟨(div_eq_iff hk.ne').2 h.1, h.2⟩

/-- An end may be moved away, or to where the number lies beyond it. -/
theorem of_low_lt {low' : ℚ} (h : Between low high closed x) (hlow : low' < x) :
    Between low' high closed x :=
  ⟨.inl hlow, h.2⟩

end Between

/-- The integer nearest to a rational, a tie to the even one. -/
def Nearest (x : ℚ) (m : ℕ) : Prop := Between (m - 1 / 2) (m + 1 / 2) (m % 2 = 0) x

namespace Nearest

variable {x : ℚ} {m n : ℕ}

theorem not_lt (hm : Nearest x m) (hn : Nearest x n) : ¬ m < n := by
  intro hlt
  have hle : (m : ℚ) + 1 ≤ n := by exact_mod_cast hlt
  have hlow := hn.low_le
  have hhigh := hm.le_high
  -- both must be a tie of neighbours, of which one is odd
  have hnext : (m : ℚ) + 1 = n := by linarith
  have hnext : m + 1 = n := by exact_mod_cast hnext
  rcases hm.2 with h | ⟨-, heven⟩
  · linarith
  · rcases hn.1 with h | ⟨-, heven'⟩
    · linarith
    · omega

theorem unique (hm : Nearest x m) (hn : Nearest x n) : m = n :=
  Nat.le_antisymm (Nat.le_of_not_lt (hn.not_lt hm)) (Nat.le_of_not_lt (hm.not_lt hn))

theorem le_of_lt {k : ℕ} (h : Nearest x m) (hx : x < k) : m ≤ k := by
  have hlow := h.low_le
  have hlt : (m : ℚ) < k + 1 := by linarith
  have hlt : m < k + 1 := by exact_mod_cast hlt
  omega

theorem ge_of_le {k : ℕ} (h : Nearest x m) (hx : k ≤ x) : k ≤ m := by
  have hhigh := h.le_high
  have hlt : (k : ℚ) < m + 1 := by linarith
  have hlt : k < m + 1 := by exact_mod_cast hlt
  omega

end Nearest

namespace Binary64

theorem nearest_roundDiv (a : ℕ) {b : ℕ} (hb : 0 < b) : Nearest ((a : ℚ) / b) (roundDiv a b) := by
  have hb' : (0 : ℚ) < b := by exact_mod_cast hb
  have hsplit : (a : ℚ) = (a / b : ℕ) * b + (a % b : ℕ) := by exact_mod_cast (Nat.div_add_mod' a b).symm
  have hmod : (a % b : ℕ) < b := Nat.mod_lt a hb
  refine Between.div hb' ?_
  rw [roundDiv, hsplit]
  generalize a / b = q at *
  generalize a % b = r at *
  have hr : (0 : ℚ) ≤ r := r.cast_nonneg
  have hrb : (r : ℚ) < b := by exact_mod_cast hmod
  split_ifs with h
  · refine ⟨.inl (by linarith), ?_⟩
    rcases Bool.or_eq_true_iff.1 h with h | h
    · have h : 2 * (r : ℚ) < b := by exact_mod_cast of_decide_eq_true h
      exact .inl (by linarith)
    · rw [Bool.and_eq_true_iff, beq_iff_eq, beq_iff_eq] at h
      have htie : 2 * (r : ℚ) = b := by exact_mod_cast h.1
      exact .inr ⟨by linarith, h.2⟩
  · rw [Bool.or_eq_true_iff, Bool.and_eq_true_iff, decide_eq_true_iff, beq_iff_eq, beq_iff_eq] at h
    refine ⟨?_, .inl (by push_cast; linarith)⟩
    rcases Nat.lt_or_ge b (2 * r) with hlt | hge
    · have hlt : (b : ℚ) < 2 * r := by exact_mod_cast hlt
      exact .inl (by push_cast; linarith)
    · have htie : 2 * r = b := by omega
      have htie' : 2 * (r : ℚ) = b := by exact_mod_cast htie
      exact .inr ⟨by push_cast; linarith, by omega⟩

/-! ## Exponents -/

theorem two_zpow_pos (e : ℤ) : (0 : ℚ) < 2 ^ e := zpow_pos (by norm_num) e

theorem two_zpow_le {e f : ℤ} (h : e ≤ f) : (2 : ℚ) ^ e ≤ 2 ^ f := zpow_le_zpow_right₀ (by norm_num) h

theorem two_zpow_succ (e : ℤ) : (2 : ℚ) ^ (e + 1) = 2 * 2 ^ e := by
  rw [zpow_add_one₀ (by norm_num), mul_comm]

theorem zpow_toNat {e : ℤ} (k : ℚ) (h : 0 ≤ e) : k ^ e.toNat = k ^ e := by
  rw [← zpow_natCast, Int.toNat_of_nonneg h]

/-- Scaling divides by a power of two. -/
theorem scale_eq (num : ℕ) {den : ℕ} (hden : 0 < den) (e : ℤ) :
    ∃ a b, scale num den e = (a, b) ∧ 0 < b ∧ (a : ℚ) / b = num / den / 2 ^ e := by
  have hden' : (den : ℚ) ≠ 0 := by exact_mod_cast hden.ne'
  have htwo := (two_zpow_pos e).ne'
  unfold scale
  split_ifs with he
  · refine ⟨_, _, rfl, Nat.mul_pos hden (Nat.pow_pos (by norm_num)), ?_⟩
    rw [Nat.pow_eq]
    push_cast
    rw [zpow_toNat 2 he, div_div]
  · refine ⟨_, _, rfl, hden, ?_⟩
    rw [Nat.pow_eq]
    push_cast
    rw [zpow_toNat 2 (by omega : 0 ≤ -e), zpow_neg]
    field_simp

/-- The exponent of a rational: it has 53 binary digits before the point, or fewer and the least
exponent. -/
structure Fits (x : ℚ) (e : ℤ) : Prop where
  least : minExponent ≤ e
  low : 2 ^ 52 * 2 ^ e ≤ x ∨ e = minExponent
  high : x < 2 ^ 53 * 2 ^ e

namespace Fits

variable {x : ℚ} {e f : ℤ}

theorem not_lt (he : Fits x e) (hf : Fits x f) : ¬ e < f := by
  intro hlt
  rcases hf.low with hlow | hleast
  · have hstep : (2 : ℚ) * 2 ^ e ≤ 2 ^ f := by
      rw [← two_zpow_succ]
      exact two_zpow_le hlt
    have hhigh := he.high
    linarith
  · have := he.least
    omega

theorem unique (he : Fits x e) (hf : Fits x f) : e = f :=
  le_antisymm (le_of_not_gt (hf.not_lt he)) (le_of_not_gt (he.not_lt hf))

theorem of_bounds (hlow : 2 ^ 52 * 2 ^ e ≤ x) (hhigh : x < 2 ^ 53 * 2 ^ e) :
    Fits x (max e minExponent) where
  least := le_max_right e minExponent
  low := by
    rcases le_total minExponent e with h | h
    · rw [max_eq_left h]
      exact .inl hlow
    · exact .inr (max_eq_right h)
  high := by
    have := two_zpow_le (le_max_left e minExponent)
    linarith

end Fits

/-- The lengths of numerator and denominator give the size of a quotient up to a factor of two. -/
theorem ratio_bounds {num den : ℕ} (hnum : 0 < num) (hden : 0 < den) :
    (2 : ℚ) ^ ((num.log2 : ℤ) - den.log2 - 1) < num / den ∧
      (num : ℚ) / den < 2 ^ ((num.log2 : ℤ) - den.log2 + 1) := by
  have hnumLow : (2 : ℚ) ^ num.log2 ≤ num := by exact_mod_cast Nat.log2_self_le hnum.ne'
  have hnumHigh : (num : ℚ) < 2 ^ (num.log2 + 1) := by exact_mod_cast Nat.lt_log2_self
  have hdenLow : (2 : ℚ) ^ den.log2 ≤ den := by exact_mod_cast Nat.log2_self_le hden.ne'
  have hdenHigh : (den : ℚ) < 2 ^ (den.log2 + 1) := by exact_mod_cast Nat.lt_log2_self
  have hden' : (0 : ℚ) < den := by exact_mod_cast hden
  constructor
  · rw [show (num.log2 : ℤ) - den.log2 - 1 = (num.log2 : ℤ) - ((den.log2 + 1 : ℕ) : ℤ) by push_cast; ring,
      zpow_sub₀ (by norm_num), zpow_natCast, zpow_natCast]
    exact div_lt_div₀' hnumLow hdenHigh (by positivity) hden'
  · rw [show (num.log2 : ℤ) - den.log2 + 1 = ((num.log2 + 1 : ℕ) : ℤ) - (den.log2 : ℤ) by push_cast; ring,
      zpow_sub₀ (by norm_num), zpow_natCast, zpow_natCast]
    exact div_lt_div₀ hnumHigh hdenLow (by positivity) (by positivity)

/-- A number from its rounded significand, which may have become one digit too long. -/
def pack (negative : Bool) (m : ℕ) (e : ℤ) : Binary64 :=
  let (m, e) := if m == Nat.pow 2 53 then (Nat.pow 2 52, e + 1) else (m, e)
  if e > maxExponent then .infinite negative else .finite negative m e

/-- A quotient is rounded at the exponent that fits it. -/
theorem ofRatio_eq (negative : Bool) {num den : ℕ} (hnum : 0 < num) (hden : 0 < den) :
    ∃ m e, Fits (num / den) e ∧ Nearest (num / den / 2 ^ e) m ∧ ofRatio negative num den = pack negative m e := by
  obtain ⟨hlow, hhigh⟩ := ratio_bounds hnum hden
  rw [ofRatio, if_neg (by simpa using hnum.ne')]
  set guess : ℤ := (num.log2 : ℤ) - den.log2 - 52 with hguess
  obtain ⟨a, b, hscale, hb, hvalue⟩ := scale_eq num hden guess
  have hb' : (0 : ℚ) < b := by exact_mod_cast hb
  have htwo := two_zpow_pos guess
  rw [show (num.log2 : ℤ) - den.log2 - 1 = guess + 51 by omega, zpow_add₀ (by norm_num)] at hlow
  rw [show (num.log2 : ℤ) - den.log2 + 1 = guess + 53 by omega, zpow_add₀ (by norm_num)] at hhigh
  -- the guess is right, or one too high
  have hfits : Fits (num / den) (max (if a / b < Nat.pow 2 52 then guess - 1 else guess) minExponent) := by
    split_ifs with hsmall
    · have hsmall : (a : ℚ) / b < 2 ^ 52 := by
        rw [div_lt_iff₀ hb']
        exact_mod_cast (Nat.div_lt_iff_lt_mul hb).1 hsmall
      rw [hvalue, div_lt_iff₀ htwo] at hsmall
      refine Fits.of_bounds ?_ ?_ <;> rw [zpow_sub_one₀ (by norm_num)]
      · norm_num at hlow ⊢
        linarith
      · norm_num at hsmall ⊢
        linarith
    · have hlarge : (2 : ℚ) ^ 52 ≤ a / b := by
        rw [le_div_iff₀ hb']
        exact_mod_cast (Nat.le_div_iff_mul_le hb).1 (Nat.le_of_not_lt hsmall)
      rw [hvalue, le_div_iff₀ htwo] at hlarge
      refine Fits.of_bounds hlarge ?_
      norm_num at hhigh ⊢
      linarith
  simp only [hscale]
  set e := max (if a / b < Nat.pow 2 52 then guess - 1 else guess) minExponent
  obtain ⟨a', b', hscale', hb', hvalue'⟩ := scale_eq num hden e
  refine ⟨roundDiv a' b', e, hfits, ?_, ?_⟩
  · rw [← hvalue']
    exact nearest_roundDiv a' hb'
  · rw [hscale']
    rfl

/-! ## Canonical numbers -/

/-- Finite numbers in the form that rounding gives: the significand has 53 binary digits, or fewer and
the least exponent. -/
def Canonical : Binary64 → Prop
  | finite _ m e => m < 2 ^ 53 ∧ minExponent ≤ e ∧ e ≤ maxExponent ∧ (2 ^ 52 ≤ m ∨ e = minExponent)
  | _ => True

theorem canonical_zero (negative : Bool) : (zero negative).Canonical :=
  ⟨by norm_num, le_rfl, by decide, .inr rfl⟩

theorem canonical_pack (negative : Bool) {m : ℕ} {e : ℤ} (hm : m ≤ 2 ^ 53) (he : minExponent ≤ e)
    (hfull : 2 ^ 52 ≤ m ∨ e = minExponent) : (pack negative m e).Canonical := by
  unfold pack
  by_cases hlong : m = 2 ^ 53
  · simp only [hlong, Nat.pow_eq, beq_self_eq_true, if_true]
    split_ifs with hbig
    · trivial
    · exact ⟨by norm_num, by omega, by omega, .inl le_rfl⟩
  · simp only [Nat.pow_eq, beq_eq_false_iff_ne.2 hlong, Bool.false_eq_true, if_false]
    split_ifs with hbig
    · trivial
    · exact ⟨by omega, he, by omega, hfull⟩

theorem canonical_ofRatio (negative : Bool) (num : ℕ) {den : ℕ} (hden : 0 < den) :
    (ofRatio negative num den).Canonical := by
  rcases Nat.eq_zero_or_pos num with rfl | hnum
  · exact canonical_zero negative
  obtain ⟨m, e, hfits, hnearest, heq⟩ := ofRatio_eq negative hnum hden
  rw [heq]
  have htwo := two_zpow_pos e
  refine canonical_pack negative (hnearest.le_of_lt ?_) hfits.least (hfits.low.imp_left fun hlow => ?_)
  · rw [div_lt_iff₀ htwo]
    exact_mod_cast hfits.high
  · refine hnearest.ge_of_le ?_
    rw [le_div_iff₀ htwo]
    exact_mod_cast hlow

theorem canonical_ofDecimal (negative : Bool) (digits : ℕ) (exponent : ℤ) :
    (ofDecimal negative digits exponent).Canonical := by
  simp only [ofDecimal]
  split_ifs
  · exact canonical_zero negative
  · trivial
  · exact canonical_zero negative
  · exact canonical_ofRatio negative _ Nat.one_pos
  · exact canonical_ofRatio negative _ (Nat.pow_pos (by norm_num))

/-! ## What a number covers -/

/-- The rationals that are nearer to a number than to its neighbours, or as near and its significand is
even. The neighbour below a power of two is only half as far. -/
def Covers (m : ℕ) (e : ℤ) : ℚ → Prop :=
  Between ((m - if m = 2 ^ 52 ∧ minExponent < e then 1 / 4 else 1 / 2) * 2 ^ e) ((m + 1 / 2) * 2 ^ e) (m % 2 = 0)

variable {m : ℕ} {e : ℤ} {x : ℚ}

/-- Below a power of two there is one digit more, and rounding carries into it. -/
theorem fits_of_covers_below (he : minExponent < e) (hx : Covers (2 ^ 52) e x) (hbelow : x < 2 ^ 52 * 2 ^ e) :
    Fits x (e - 1) ∧ Nearest (x / 2 ^ (e - 1)) (2 ^ 53) := by
  have htwo := two_zpow_pos (e - 1)
  have hstep : (2 : ℚ) ^ e = 2 * 2 ^ (e - 1) := by rw [← two_zpow_succ, sub_add_cancel]
  rw [Covers, if_pos ⟨rfl, he⟩, hstep] at hx
  rw [hstep] at hbelow
  have hlow := hx.low_le
  push_cast at hlow
  refine ⟨⟨by omega, .inl (by linarith), by linarith⟩, Between.div htwo ⟨?_, .inl (by push_cast; linarith)⟩⟩
  refine hx.1.imp (fun h => ?_) (fun h => ⟨?_, by norm_num⟩)
  · push_cast at h ⊢
    linarith
  · rw [← h.1]
    push_cast
    ring

theorem fits_of_covers (hc : (finite false m e).Canonical) (hx : Covers m e x)
    (habove : m = 2 ^ 52 → minExponent < e → 2 ^ 52 * 2 ^ e ≤ x) : Fits x e ∧ Nearest (x / 2 ^ e) m := by
  obtain ⟨hm, hleast, -, hfull⟩ := hc
  have htwo := two_zpow_pos e
  have hm' : (m : ℚ) + 1 ≤ 2 ^ 53 := by exact_mod_cast hm
  have hhigh : x ≤ (m + 1 / 2) * 2 ^ e := hx.le_high
  have hbetween : Between ((m - 1 / 2) * 2 ^ e) ((m + 1 / 2) * 2 ^ e) (m % 2 = 0) x := by
    by_cases hpower : m = 2 ^ 52 ∧ minExponent < e
    · have hx' := habove hpower.1 hpower.2
      refine hx.of_low_lt ?_
      rw [hpower.1]
      push_cast
      linarith
    · rw [Covers, if_neg hpower] at hx
      exact hx
  refine ⟨⟨hleast, ?_, by nlinarith⟩, hbetween.div htwo⟩
  rcases hleast.eq_or_lt with heq | hlt
  · exact .inr heq.symm
  · have hfull : 2 ^ 52 ≤ m := hfull.resolve_right hlt.ne'
    rcases hfull.eq_or_lt with heq | hmore
    · exact .inl (habove heq.symm hlt)
    · have hmore : (2 : ℚ) ^ 52 + 1 ≤ m := by exact_mod_cast hmore
      have hlow := hbetween.low_le
      exact .inl (by nlinarith)

/-- What a number covers is rounded to it. -/
theorem ofRatio_of_covers (negative : Bool) {num den : ℕ} (hnum : 0 < num) (hden : 0 < den)
    (hc : (finite negative m e).Canonical) (hx : Covers m e (num / den)) :
    ofRatio negative num den = finite negative m e := by
  obtain ⟨m', e', hfits', hnearest', heq⟩ := ofRatio_eq negative hnum hden
  rw [heq]
  have hbig : ¬ e > maxExponent := not_lt_of_ge hc.2.2.1
  by_cases hbelow : m = 2 ^ 52 ∧ minExponent < e ∧ (num : ℚ) / den < 2 ^ 52 * 2 ^ e
  · obtain ⟨rfl, hlt, hbelow⟩ := hbelow
    obtain ⟨hfits, hnearest⟩ := fits_of_covers_below hlt hx hbelow
    obtain rfl := hfits.unique hfits'
    obtain rfl := hnearest.unique hnearest'
    simp only [pack, Nat.pow_eq, beq_self_eq_true, if_true, sub_add_cancel, if_neg hbig]
  · have habove : m = 2 ^ 52 → minExponent < e → 2 ^ 52 * 2 ^ e ≤ (num : ℚ) / den := by
      intro hm hlt
      exact le_of_not_gt fun hless => hbelow ⟨hm, hlt, hless⟩
    obtain ⟨hfits, hnearest⟩ := fits_of_covers hc hx habove
    obtain rfl := hfits.unique hfits'
    obtain rfl := hnearest.unique hnearest'
    have hlong : m ≠ 2 ^ 53 := hc.1.ne
    simp only [pack, Nat.pow_eq, beq_eq_false_iff_ne.2 hlong, Bool.false_eq_true, if_false, if_neg hbig]

end Binary64

end Landmarks
