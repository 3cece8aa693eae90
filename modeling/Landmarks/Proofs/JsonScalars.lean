import Landmarks.Proofs.JsonStrings
import Landmarks.Proofs.ShortestDecimal
import Mathlib.Data.List.TakeWhile

/-!
# Numbers and other scalars in JSON read back

* `Json.number_toDigits` : the digits of an integer are read as it.
* `Json.number_layout` : the layout of digits and an exponent is read as a decimal of their value.
* `Json.Plain` : the values without parts that can be written and read again.
* `Json.readBack` : what a value is read as when it was written.
* `Json.scalar_scalarText` : a plain value is read so, if nothing follows that could belong to it.
-/

namespace Landmarks.Json

open Number (isDigit digitsValue withSign)

/-! ## Digits -/

theorem isDigit_eq (c : Char) : isDigit c = c.isDigit := by
  simp only [isDigit, Char.isDigit, Char.le_def]

theorem all_isDigit_toDigits (n : ℕ) : ∀ c ∈ Nat.toDigits 10 n, isDigit c = true := by
  intro c hc
  rw [isDigit_eq]
  exact Nat.isDigit_of_mem_toDigits (by norm_num) le_rfl hc

theorem digitsValue_toDigits (n : ℕ) : digitsValue (Nat.toDigits 10 n) = n :=
  Nat.ofDigitChars_toDigits (by norm_num) le_rfl

theorem digitsValue_zeros_append (k : ℕ) (ds : List Char) :
    digitsValue (List.replicate k '0' ++ ds) = digitsValue ds := by
  change Nat.ofDigitChars 10 _ 0 = Nat.ofDigitChars 10 ds 0
  rw [Nat.ofDigitChars_append, Nat.ofDigitChars_replicate_zero, Nat.mul_zero]

theorem digitsValue_append_zeros (ds : List Char) (k : ℕ) :
    digitsValue (ds ++ List.replicate k '0') = 10 ^ k * digitsValue ds := by
  change Nat.ofDigitChars 10 _ 0 = 10 ^ k * Nat.ofDigitChars 10 ds 0
  rw [Nat.ofDigitChars_append, Nat.ofDigitChars_replicate_zero]

theorem withSign_natAbs (i : ℤ) : withSign (decide (i < 0)) i.natAbs = i := by
  unfold withSign
  by_cases h : i < 0
  · rw [if_pos (decide_eq_true h)]
    omega
  · rw [if_neg (by simpa using h)]
    omega

/-- The first digit of a positive number is no zero. -/
theorem head?_toDigits_ne {n : ℕ} (hn : 0 < n) : (Nat.toDigits 10 n).head? ≠ some '0' := by
  induction n using Nat.strongRecOn with
  | ind n ih =>
    rw [Nat.toDigits_eq_if (by norm_num)]
    split_ifs with h
    · simp only [List.head?_cons, ne_eq, Option.some.injEq, Nat.digitChar_eq_zero]
      omega
    · have hhead := ih (n / 10) (by omega) (by omega)
      cases hds : Nat.toDigits 10 (n / 10) with
      | nil => exact absurd hds Nat.toDigits_ne_nil
      | cons d ds =>
        rw [hds] at hhead
        exact hhead

/-- An exponent has two digits at least. -/
theorem padded_toDigits (n : ℕ) : ∃ x, (if (Nat.toDigits 10 n).length < 2 then '0' :: Nat.toDigits 10 n
      else Nat.toDigits 10 n) = x ∧ x ≠ [] ∧ (∀ c ∈ x, isDigit c = true) ∧ digitsValue x = n := by
  refine ⟨_, rfl, ?_⟩
  split
  · refine ⟨List.cons_ne_nil _ _, fun c hc => ?_, (digitsValue_zeros_append 1 _).trans (digitsValue_toDigits n)⟩
    rcases List.mem_cons.1 hc with rfl | hc
    · rfl
    · exact all_isDigit_toDigits n c hc
  · exact ⟨Nat.toDigits_ne_nil, all_isDigit_toDigits n, digitsValue_toDigits n⟩

/-! ## The parts of a number -/

/-- A text that does not go on with digits. -/
def NoDigit (rest : List Char) : Prop := ∀ c, rest.head? = some c → isDigit c = false

/-- A text that does not go on with a number. -/
def Stops (rest : List Char) : Prop :=
  ∀ c, rest.head? = some c → isDigit c = false ∧ c ≠ '.' ∧ c ≠ 'e' ∧ c ≠ 'E'

theorem Stops.noDigit {rest : List Char} (h : Stops rest) : NoDigit rest := fun c hc => (h c hc).1

theorem noDigit_cons {c : Char} (h : isDigit c = false) (rest : List Char) : NoDigit (c :: rest) := by
  intro d hd
  cases hd
  exact h

variable {ds rest : List Char}

theorem takeWhile_isDigit (hds : ∀ c ∈ ds, isDigit c = true) (hrest : NoDigit rest) :
    (ds ++ rest).takeWhile isDigit = ds := by
  rw [List.takeWhile_append_of_pos hds]
  cases rest with
  | nil => simp
  | cons c cs => rw [List.takeWhile_cons_of_neg (by simp [hrest c rfl]), List.append_nil]

theorem dropWhile_isDigit (hds : ∀ c ∈ ds, isDigit c = true) (hrest : NoDigit rest) :
    (ds ++ rest).dropWhile isDigit = rest := by
  rw [List.dropWhile_append_of_pos hds]
  cases rest with
  | nil => rfl
  | cons c cs => rw [List.dropWhile_cons_of_neg (by simp [hrest c rfl])]

theorem whole_append (hne : ds ≠ []) (hds : ∀ c ∈ ds, isDigit c = true) (hlead : ds.head? ≠ some '0')
    (hrest : NoDigit rest) : whole (ds ++ rest) = some (ds, rest) := by
  have htake := takeWhile_isDigit hds hrest
  have hdrop := dropWhile_isDigit hds hrest
  cases ds with
  | nil => exact absurd rfl hne
  | cons d ds =>
    have hd : d ≠ '0' := fun h => hlead (by rw [h]; rfl)
    rw [List.cons_append] at htake hdrop ⊢
    unfold whole
    split
    · rename_i heq
      cases heq
      exact absurd rfl hd
    · rename_i heq
      cases heq
      rw [if_pos (hds d List.mem_cons_self), htake, hdrop]
    · rename_i heq
      cases heq

theorem fraction_dot (hne : ds ≠ []) (hds : ∀ c ∈ ds, isDigit c = true) (hrest : NoDigit rest) :
    fraction ('.' :: (ds ++ rest)) = (some ds, rest) := by
  have hempty : ds.isEmpty = false := by simpa using hne
  simp only [fraction, takeWhile_isDigit hds hrest, dropWhile_isDigit hds hrest, hempty, Bool.false_eq_true, if_false]

theorem fraction_of_ne (h : rest.head? ≠ some '.') : fraction rest = (none, rest) := by
  unfold fraction
  split
  · exact absurd rfl h
  · rfl

theorem exponent_mark (negative : Bool) (hne : ds ≠ []) (hds : ∀ c ∈ ds, isDigit c = true) (hrest : NoDigit rest) :
    exponent ('e' :: (if negative then '-' else '+') :: (ds ++ rest)) =
      (some (withSign negative (digitsValue ds)), rest) := by
  have hempty : ds.isEmpty = false := by simpa using hne
  have hsign : Number.splitSign ((if negative then '-' else '+') :: (ds ++ rest)) = (negative, ds ++ rest) := by
    cases negative <;> rfl
  simp only [exponent, hsign, takeWhile_isDigit hds hrest, dropWhile_isDigit hds hrest, hempty, beq_self_eq_true,
    Bool.true_or, if_true, Bool.false_eq_true, if_false]

theorem exponent_of_ne (hlower : rest.head? ≠ some 'e') (hupper : rest.head? ≠ some 'E') :
    exponent rest = (none, rest) := by
  cases rest with
  | nil => rfl
  | cons c cs =>
    have h1 : c ≠ 'e' := fun h => hlower (by rw [h]; rfl)
    have h2 : c ≠ 'E' := fun h => hupper (by rw [h]; rfl)
    simp only [exponent, beq_eq_false_iff_ne.2 h1, beq_eq_false_iff_ne.2 h2, Bool.or_self, Bool.false_eq_true, if_false]

theorem Stops.fraction_eq (h : Stops rest) : fraction rest = (none, rest) :=
  fraction_of_ne fun hdot => (h '.' hdot).2.1 rfl

theorem Stops.exponent_eq (h : Stops rest) : exponent rest = (none, rest) :=
  exponent_of_ne (fun he => (h 'e' he).2.2.1 rfl) fun he => (h 'E' he).2.2.2 rfl

/-! ## Integers -/

theorem length_toDigits_le {i : ℤ} (hi : Number.isWritable i = true) :
    (Nat.toDigits 10 i.natAbs).length ≤ Number.maxDigits := by
  have hle : ∀ {n k : ℕ}, 0 < k → n < Nat.pow 10 k → (Nat.toDigits 10 n).length ≤ k :=
    fun hk h => (Nat.length_toDigits_le_iff (by norm_num) hk).2 h
  rw [Number.isWritable, decide_eq_true_eq] at hi
  exact hle (by decide) hi

theorem number_toDigits (negative : Bool) {n : ℕ} (hlength : (Nat.toDigits 10 n).length ≤ Number.maxDigits)
    (hrest : Stops rest) :
    number negative (Nat.toDigits 10 n ++ rest) = .ok (int (withSign negative n), rest) := by
  have hwhole : whole (Nat.toDigits 10 n ++ rest) = some (Nat.toDigits 10 n, rest) := by
    rcases Nat.eq_zero_or_pos n with rfl | hpos
    · rfl
    · exact whole_append Nat.toDigits_ne_nil (all_isDigit_toDigits n) (head?_toDigits_ne hpos) hrest.noDigit
  simp only [number, hwhole, hrest.fraction_eq, hrest.exponent_eq, Option.isNone_none, Bool.and_self, if_true,
    if_neg (Nat.not_lt.2 hlength), digitsValue_toDigits]

/-! ## Decimals -/

theorem number_decimal (negative : Bool) {cs r1 r2 : List Char} {frac : Option (List Char)} {expo : Option ℤ}
    (hwhole : whole cs = some (ds, r1)) (hfrac : fraction r1 = (frac, r2)) (hexpo : exponent r2 = (expo, rest))
    (hsome : frac.isSome ∨ expo.isSome) :
    number negative cs = .ok (float (Binary64.ofDecimal negative (digitsValue (ds ++ frac.getD []))
      (expo.getD 0 - (frac.getD []).length)), rest) := by
  have hparts : (frac.isNone && expo.isNone) = false := by
    cases frac <;> cases expo <;> simp_all
  simp only [number, hwhole, hfrac, hexpo, hparts, Bool.false_eq_true, if_false]

section

variable (negative : Bool) (hne : ds ≠ []) (hds : ∀ c ∈ ds, isDigit c = true)

include hne hds

theorem number_zero_point (k : ℕ) (hrest : Stops rest) :
    number negative ('0' :: '.' :: List.replicate k '0' ++ ds ++ rest) =
      .ok (float (Binary64.ofDecimal negative (digitsValue ds) (-(k + ds.length))), rest) := by
  have hzeros : ∀ c ∈ List.replicate k '0' ++ ds, isDigit c = true := by
    intro c hc
    rcases List.mem_append.1 hc with hc | hc
    · rw [List.eq_of_mem_replicate hc]
      rfl
    · exact hds c hc
  have hwhole : whole ('0' :: '.' :: (List.replicate k '0' ++ ds ++ rest)) =
      some (['0'], '.' :: (List.replicate k '0' ++ ds ++ rest)) := rfl
  have hfrac := fraction_dot (List.append_ne_nil_of_right_ne_nil _ hne) hzeros hrest.noDigit
  have hvalue : digitsValue (['0'] ++ (List.replicate k '0' ++ ds)) = digitsValue ds :=
    digitsValue_zeros_append (k + 1) ds
  have hnumber := number_decimal negative hwhole hfrac hrest.exponent_eq (.inl rfl)
  simp only [Option.getD_some, Option.getD_none, hvalue, List.length_append, List.length_replicate] at hnumber
  rw [show '0' :: '.' :: List.replicate k '0' ++ ds ++ rest = '0' :: '.' :: (List.replicate k '0' ++ ds ++ rest) from rfl,
    hnumber]
  push_cast
  rw [zero_sub]

theorem number_point_zero (k : ℕ) (hlead : ds.head? ≠ some '0') (hrest : Stops rest) :
    number negative (ds ++ List.replicate k '0' ++ ['.', '0'] ++ rest) =
      .ok (float (Binary64.ofDecimal negative (10 ^ (k + 1) * digitsValue ds) (-1)), rest) := by
  have hzeros : ∀ c ∈ ds ++ List.replicate k '0', isDigit c = true := by
    intro c hc
    rcases List.mem_append.1 hc with hc | hc
    · exact hds c hc
    · rw [List.eq_of_mem_replicate hc]
      rfl
  have hlead' : (ds ++ List.replicate k '0').head? ≠ some '0' := by
    cases ds with
    | nil => exact absurd rfl hne
    | cons d ds => exact hlead
  have hwhole : whole (ds ++ List.replicate k '0' ++ '.' :: (['0'] ++ rest)) =
      some (ds ++ List.replicate k '0', '.' :: (['0'] ++ rest)) :=
    whole_append (List.append_ne_nil_of_left_ne_nil hne _) hzeros hlead' (noDigit_cons (by decide) _)
  have hfrac : fraction ('.' :: (['0'] ++ rest)) = (some ['0'], rest) :=
    fraction_dot (by simp) (List.forall_mem_singleton.2 rfl) hrest.noDigit
  have hvalue : digitsValue (ds ++ List.replicate k '0' ++ ['0']) = 10 ^ (k + 1) * digitsValue ds := by
    rw [List.append_assoc, ← List.replicate_succ', digitsValue_append_zeros]
  have hnumber := number_decimal negative hwhole hfrac hrest.exponent_eq (.inl rfl)
  simp only [Option.getD_some, Option.getD_none, hvalue] at hnumber
  rw [List.append_assoc _ _ rest]
  exact hnumber

theorem number_point {w : ℕ} (hw : 0 < w) (hlong : w < ds.length) (hlead : ds.head? ≠ some '0') (hrest : Stops rest) :
    number negative (ds.take w ++ '.' :: ds.drop w ++ rest) =
      .ok (float (Binary64.ofDecimal negative (digitsValue ds) (-(ds.length - w))), rest) := by
  have htake : ds.take w ≠ [] := by simpa [hne] using hw.ne'
  have hdrop : ds.drop w ≠ [] := by simpa using hlong
  have hlead' : (ds.take w).head? ≠ some '0' := by rwa [List.head?_take, if_neg hw.ne']
  have hwhole : whole (ds.take w ++ '.' :: (ds.drop w ++ rest)) = some (ds.take w, '.' :: (ds.drop w ++ rest)) :=
    whole_append htake (fun c hc => hds c (List.mem_of_mem_take hc)) hlead' (noDigit_cons (by decide) _)
  have hfrac := fraction_dot hdrop (fun c hc => hds c (List.mem_of_mem_drop hc)) hrest.noDigit
  have hnumber := number_decimal negative hwhole hfrac hrest.exponent_eq (.inl rfl)
  simp only [Option.getD_some, Option.getD_none, List.take_append_drop, List.length_drop, zero_sub,
    Nat.cast_sub hlong.le] at hnumber
  rw [List.append_assoc]
  exact hnumber

theorem number_scientific {x : List Char} (sign : Bool) (hx : x ≠ []) (hxs : ∀ c ∈ x, isDigit c = true)
    (hlead : ds.head? ≠ some '0') (hrest : Stops rest) :
    number negative (ds.take 1 ++ (if ds.length ≤ 1 then [] else '.' :: ds.drop 1) ++
        'e' :: (if sign then '-' else '+') :: x ++ rest) =
      .ok (float (Binary64.ofDecimal negative (digitsValue ds)
        (withSign sign (digitsValue x) - (ds.length - 1))), rest) := by
  obtain ⟨d, tail, rfl⟩ := List.exists_cons_of_ne_nil hne
  have hd : ∀ c ∈ [d], isDigit c = true := fun c hc => hds c (List.mem_cons.2 (.inl (List.mem_singleton.1 hc)))
  have hexpo := exponent_mark sign hx hxs hrest.noDigit
  have hmark : NoDigit ('e' :: (if sign then '-' else '+') :: (x ++ rest)) := noDigit_cons (by decide) _
  cases tail with
  | nil =>
    have hwhole := whole_append hne hds hlead hmark
    have hnumber := number_decimal negative hwhole (fraction_of_ne (by simp)) hexpo (.inr rfl)
    simpa using hnumber
  | cons d' tail =>
    have hfrac := fraction_dot (List.cons_ne_nil d' tail) (fun c hc => hds c (List.mem_cons_of_mem d hc)) hmark
    have hwhole := whole_append (List.cons_ne_nil d []) hd hlead
      (noDigit_cons (c := '.') rfl (d' :: tail ++ 'e' :: (if sign then '-' else '+') :: (x ++ rest)))
    have hnumber := number_decimal negative hwhole hfrac hexpo (.inl rfl)
    simpa using hnumber

/-- Digits laid out around a point are read as a decimal of the same value. -/
theorem number_layout (hlead : ds.head? ≠ some '0') (s : ℤ) (hrest : Stops rest) :
    ∃ n k, number negative (Binary64.layout ds (ds.length + s) ++ rest) =
        .ok (float (Binary64.ofDecimal negative n k), rest) ∧
      (n : ℚ) * 10 ^ k = digitsValue ds * 10 ^ s := by
  simp only [Binary64.layout]
  split
  · split
    · refine ⟨_, _, number_zero_point negative hne hds _ hrest, ?_⟩
      rw [show (-(((-(ds.length + s)).toNat : ℤ) + ds.length) : ℤ) = s by omega]
    · split
      · refine ⟨_, _, number_point_zero negative hne hds _ hlead hrest, ?_⟩
        obtain ⟨k, rfl⟩ : ∃ k : ℕ, s = k := ⟨s.toNat, by omega⟩
        rw [show ((ds.length : ℤ) + k).toNat - ds.length = k by omega, zpow_natCast, zpow_neg_one]
        push_cast
        field_simp
        ring
      · refine ⟨_, _, number_point negative hne hds (by omega) (by omega) hlead hrest, ?_⟩
        rw [show (-((ds.length : ℤ) - ((ds.length : ℤ) + s).toNat)) = s by omega]
  · obtain ⟨x, hpadded, hx, hxs, hvalue⟩ := padded_toDigits ((ds.length : ℤ) + s - 1).natAbs
    have hnumber := number_scientific negative hne hds (decide ((ds.length : ℤ) + s - 1 < 0)) hx hxs hlead hrest
    simp only [decide_eq_true_eq] at hnumber
    rw [hpadded]
    refine ⟨_, _, hnumber, ?_⟩
    rw [hvalue, withSign_natAbs, show (ds.length : ℤ) + s - 1 - (ds.length - 1) = s by ring]

end

/-- The written digits of a positive finite number are read as it. -/
theorem number_shortest {m : ℕ} {e : ℤ} (hm : 0 < m) {negative : Bool} (hc : (Binary64.finite negative m e).Canonical)
    (hrest : Stops rest) :
    number negative (Binary64.layout (Nat.toDigits 10 (Binary64.shortest m e).1)
        ((Nat.toDigits 10 (Binary64.shortest m e).1).length + (Binary64.shortest m e).2) ++ rest) =
      .ok (float (.finite negative m e), rest) := by
  have hcovers := Binary64.covers_shortest hm hc
  generalize Binary64.shortest m e = digits at *
  obtain ⟨c, s⟩ := digits
  have hpos : 0 < c := by
    rcases Nat.eq_zero_or_pos c with rfl | hpos
    · have hlow := hcovers.pos hm
      have htwo := Binary64.two_zpow_pos e
      simp only [Nat.cast_zero, zero_mul] at hlow
      linarith
    · exact hpos
  obtain ⟨n, k, hnumber, hvalue⟩ :=
    number_layout negative Nat.toDigits_ne_nil (all_isDigit_toDigits c) (head?_toDigits_ne hpos) s hrest
  rw [digitsValue_toDigits] at hvalue
  rw [hnumber, Binary64.ofDecimal_of_covers hm hc (hvalue ▸ hcovers)]

/-! ## Scalars -/

theorem isDigit_head_of_number {negative : Bool} {cs : List Char} {r : Json × List Char}
    (h : number negative cs = .ok r) : ∃ c tail, cs = c :: tail ∧ isDigit c = true := by
  cases cs with
  | nil => cases h
  | cons c tail =>
    refine ⟨c, tail, rfl, ?_⟩
    by_contra hdigit
    have hzero : c ≠ '0' := by
      rintro rfl
      exact hdigit rfl
    have hwhole : whole (c :: tail) = none := by
      unfold whole
      split
      · rename_i heq
        cases heq
        exact absurd rfl hzero
      · rename_i heq
        cases heq
        exact if_neg hdigit
      · rfl
    rw [number, hwhole] at h
    cases h

theorem scalar_number {cs : List Char} {r : Json × List Char} (h : number false cs = .ok r) : scalar cs = .ok r := by
  obtain ⟨c, tail, rfl, hc⟩ := isDigit_head_of_number h
  unfold scalar
  split <;> first | exact h | (rename_i heq; cases heq; exact absurd hc (by decide))

theorem scalar_minus_number {cs : List Char} {r : Json × List Char} (h : number true cs = .ok r) :
    scalar ('-' :: cs) = .ok r := by
  obtain ⟨c, tail, rfl, hc⟩ := isDigit_head_of_number h
  rw [scalar]
  · exact h
  · rintro tail' heq
    cases heq
    exact absurd hc (by decide)

/-- The values without parts that can be written and read again. -/
def Plain : Json → Prop
  | int i => Number.isWritable i = true
  | float x => x.Canonical
  | arr _ => False
  | obj _ => False
  | _ => True

mutual

/-- A value as it reads back: in its strings and names all partners are joined, and of a name that is then repeated
the last value counts. -/
def readBack : Json → Json
  | str s => str s.joined
  | arr xs => arr (readBackItems xs)
  | obj fs => obj (readBackFields [] fs)
  | v => v

/-- Items as they read back. -/
def readBackItems : List Json → List Json
  | [] => []
  | x :: xs => readBack x :: readBackItems xs

/-- Fields as they read back behind others. -/
def readBackFields (acc : Fields) : List (Str × Json) → Fields
  | [] => acc
  | (key, v) :: fs => readBackFields (Named.put key.joined (readBack v) acc) fs

end

theorem scalar_int {i : ℤ} (hi : Number.isWritable i = true) (hrest : Stops rest) :
    scalar ((toString i).toList ++ rest) = .ok (int i, rest) := by
  have hlength := length_toDigits_le hi
  cases i with
  | ofNat n =>
    change scalar ((String.ofList (Nat.toDigits 10 n)).toList ++ rest) = _
    rw [String.toList_ofList]
    exact scalar_number (number_toDigits false hlength hrest)
  | negSucc n =>
    change scalar (("-" ++ String.ofList (Nat.toDigits 10 (n + 1))).toList ++ rest) = _
    rw [String.toList_append, show "-".toList = ['-'] from rfl, String.toList_ofList]
    exact scalar_minus_number (number_toDigits true hlength hrest)

theorem scalar_float {x : Binary64} (hx : x.Canonical) (hrest : Stops rest) :
    scalar ((x.text spelling).toList ++ rest) = .ok (float x, rest) := by
  cases x with
  | nan => rfl
  | infinite negative => cases negative <;> rfl
  | finite negative m e =>
    have hnumber : number negative ((if m == 0 then "0.0" else String.ofList (Binary64.layout
        (Nat.toDigits 10 (Binary64.shortest m e).1)
        ((Nat.toDigits 10 (Binary64.shortest m e).1).length + (Binary64.shortest m e).2))).toList ++ rest) =
        .ok (float (.finite negative m e), rest) := by
      rcases Nat.eq_zero_or_pos m with rfl | hm
      · obtain rfl : e = Binary64.minExponent := hx.2.2.2.resolve_left (by norm_num)
        exact number_zero_point negative (List.cons_ne_nil '0' []) (List.forall_mem_singleton.2 rfl) 0 hrest
      · rw [if_neg (by simpa using hm.ne'), String.toList_ofList]
        exact number_shortest hm hx hrest
    simp only [Binary64.text, String.toList_append]
    cases negative with
    | false => exact scalar_number hnumber
    | true => exact scalar_minus_number hnumber

theorem scalar_scalarText {v : Json} (hv : Plain v) (hrest : Stops rest) :
    scalar (scalarText v ++ rest) = .ok (v.readBack, rest) := by
  cases v with
  | null => rfl
  | bool b => cases b <;> rfl
  | int i => exact scalar_int hv hrest
  | float x => exact scalar_float hv hrest
  | str s =>
    have hstring := string_quoted s rest
    rw [scalarText, quoted, List.cons_append, List.cons_append] at *
    simp only [scalar, hstring, readBack]
  | arr xs => exact absurd hv id
  | obj fs => exact absurd hv id

end Landmarks.Json
