import Landmarks.Json.Printer
import Landmarks.Json.Reader
import Landmarks.Proofs.Utf8
import Mathlib.Data.List.Chain

/-!
# Strings in JSON read back

The halves of a pair are written one by one, but two partners that follow each other are read as the character of
the pair.

* `Str.joined` : a string with all partners joined; `Json.string_quoted` : a string in quotes is read as this,
  whatever follows.
* `Str.Sound` : no partners follow each other, so that there is nothing to join (`Str.joined_of_sound`).
* `Str.sound_ofString`, `Json.sound_of_string` : strings of characters are such, and all that are read.
-/

namespace Landmarks

open Text (Point isHighUnit isLowUnit)

/-! ## Halves and their codes -/

namespace Text

theorem isHighUnit_iff {n : Nat} : isHighUnit n = true ↔ 0xD800 ≤ n ∧ n ≤ 0xDBFF := by simp [isHighUnit]

theorem isLowUnit_iff {n : Nat} : isLowUnit n = true ↔ 0xDC00 ≤ n ∧ n ≤ 0xDFFF := by simp [isLowUnit]

theorem toNat_range (c : Char) : c.toNat < 0xD800 ∨ (0xDFFF < c.toNat ∧ c.toNat < 0x110000) := c.valid

theorem not_isHighUnit_char (c : Char) : isHighUnit c.toNat = false := by
  rw [← Bool.not_eq_true, isHighUnit_iff]
  have := toNat_range c
  omega

theorem not_isLowUnit_char (c : Char) : isLowUnit c.toNat = false := by
  rw [← Bool.not_eq_true, isLowUnit_iff]
  have := toNat_range c
  omega

theorem ofCode_char (c : Char) : Point.ofCode c.toNat = .char c := by
  have := toNat_range c
  rw [Point.ofCode, dif_neg (by omega), Char.ofNat_toNat]

theorem ofCode_half (n : Fin 0x800) : Point.ofCode (0xD800 + n) = .half n := by
  have := n.isLt
  rw [Point.ofCode, dif_pos (by omega)]
  simp

theorem code_ofCode {n : Nat} (hn : n < 0x10000) : (Point.ofCode n).code = n := by
  rw [Point.ofCode]
  split_ifs with h
  · simp only [Point.code]
    omega
  · rw [Point.code, Utf8.toNat_ofNat (by omega)]

/-- Whether two points are the halves of a pair. -/
def Partners (p q : Point) : Bool := isHighUnit p.code && isLowUnit q.code

@[simp] theorem partners_char_left (c : Char) (q : Point) : Partners (.char c) q = false := by
  rw [Partners, Point.code, not_isHighUnit_char, Bool.false_and]

@[simp] theorem partners_char_right (p : Point) (c : Char) : Partners p (.char c) = false := by
  rw [Partners, Point.code, not_isLowUnit_char, Bool.and_false]

/-- Points with all partners joined. -/
def joinPoints : List Point → List Point
  | p :: q :: ps =>
    if Partners p q then .char (ofPair p.code q.code) :: joinPoints ps else p :: joinPoints (q :: ps)
  | ps => ps

end Text

open Text (Partners joinPoints)

namespace Str

/-- A string with all partners joined. -/
def joined (s : Str) : Str := ⟨joinPoints s.points⟩

/-- No partners follow each other. -/
def Sound (s : Str) : Prop := s.points.IsChain fun p q => Partners p q = false

instance (s : Str) : Decidable s.Sound := inferInstanceAs (Decidable (List.IsChain _ _))

theorem joined_of_sound {s : Str} (h : s.Sound) : s.joined = s := by
  obtain ⟨ps⟩ := s
  refine congrArg Str.mk ?_
  change ps.IsChain fun p q => Partners p q = false at h
  induction ps using Text.joinPoints.induct with
  | case1 p q ps hpartners ih =>
    rw [List.isChain_cons_cons, hpartners] at h
    cases h.1
  | case2 p q ps hpartners ih =>
    rw [joinPoints, if_neg hpartners, ih (List.isChain_cons_cons.1 h).2]
  | case3 ps hshort => rw [Text.joinPoints.eq_2 ps hshort]

@[simp] theorem sound_ofChars (cs : List Char) : (ofChars cs).Sound := by
  refine List.isChain_map_of_isChain (R := fun _ _ => True) _ (fun c d _ => Text.partners_char_left c _) ?_
  exact List.Pairwise.isChain (List.pairwise_of_forall fun _ _ => trivial)

@[simp] theorem sound_ofString (s : String) : (ofString s).Sound := sound_ofChars s.toList

end Str

namespace Json

/-! ## What is written is read -/

theorem hexValue?_hexDigit : ∀ k < 0x10, Text.hexValue? (Text.hexDigit k) = some k := by decide +kernel

/-- Four hexadecimal digits are read as the number they are of. -/
theorem hexNumber?_hexDigits {n : Nat} (hn : n < 0x10000) :
    ∃ a b c d, Text.hexDigits 4 n = [a, b, c, d] ∧ Text.hexNumber? [a, b, c, d] = some n := by
  refine ⟨_, _, _, _, rfl, ?_⟩
  simp only [Text.hexNumber?, List.foldl_cons, List.foldl_nil, hexValue?_hexDigit _ (Nat.mod_lt _ (by decide : 0x10 > 0)),
    Option.pure_def, Option.bind_eq_bind, Option.bind_some, Option.some.injEq]
  omega

theorem escapedUnit?_unitEscape {unit : Nat} (hunit : unit < 0x10000) (rest : List Char) :
    Text.escapedUnit? (unitEscape unit ++ rest) = some (unit, rest) := by
  obtain ⟨a, b, c, d, hdigits, hvalue⟩ := hexNumber?_hexDigits hunit
  simp only [unitEscape, hdigits, List.cons_append, List.nil_append, Text.escapedUnit?, hvalue, Option.map_some]

/-- The second half of a pair is escaped at the front of a text. -/
def LowAhead (cs : List Char) : Prop := ∃ unit rest, Text.escapedUnit? cs = some (unit, rest) ∧ isLowUnit unit = true

theorem ofEscapes_pair {high low : Nat} (hhigh : isHighUnit high = true) (hlow : isLowUnit low = true) (rest : List Char) :
    Text.ofEscapes high (unitEscape low ++ rest) = (.char (Text.ofPair high low), rest) := by
  have hunit : low < 0x10000 := by
    rw [Text.isLowUnit_iff] at hlow
    omega
  simp only [Text.ofEscapes, escapedUnit?_unitEscape hunit, hhigh, hlow, Bool.and_self, if_true]

/-- Without its partner an escaped unit stands for itself. -/
theorem ofEscapes_alone {unit : Nat} {rest : List Char} (h : isHighUnit unit = true → ¬ LowAhead rest) :
    Text.ofEscapes unit rest = (.ofCode unit, rest) := by
  unfold Text.ofEscapes
  split
  · rename_i second after hsecond
    refine if_neg fun hpair => ?_
    rw [Bool.and_eq_true] at hpair
    exact h hpair.1 ⟨second, after, hsecond, hpair.2⟩
  · rfl

/-- An escaped code unit inside a string. -/
theorem stringBody_unitEscape {unit : Nat} (hunit : unit < 0x10000) (fuel : Nat) (acc : List Point) (tail : List Char) :
    stringBody (fuel + 1) acc (unitEscape unit ++ tail) =
      stringBody fuel ((Text.ofEscapes unit tail).1 :: acc) (Text.ofEscapes unit tail).2 := by
  obtain ⟨a, b, c, d, hdigits, hvalue⟩ := hexNumber?_hexDigits hunit
  simp only [unitEscape, hdigits, List.cons_append, List.nil_append, stringBody, hvalue]
  rfl

/-- The units of a character beyond the basic plane. -/
theorem units_of_char {c : Char} (h : 0x10000 ≤ c.toNat) :
    isHighUnit (0xD800 + (c.toNat - 0x10000) / 0x400) = true ∧ isLowUnit (0xDC00 + (c.toNat - 0x10000) % 0x400) = true ∧
      Text.ofPair (0xD800 + (c.toNat - 0x10000) / 0x400) (0xDC00 + (c.toNat - 0x10000) % 0x400) = c := by
  have hrange := Text.toNat_range c
  refine ⟨?_, ?_, ?_⟩
  · rw [Text.isHighUnit_iff]
    omega
  · rw [Text.isLowUnit_iff]
    omega
  · have hvalue : 0x10000 + (0xD800 + (c.toNat - 0x10000) / 0x400 - 0xD800) * 0x400 +
        (0xDC00 + (c.toNat - 0x10000) % 0x400 - 0xDC00) = c.toNat := by omega
    rw [Text.ofPair, hvalue, Char.ofNat_toNat]

/-- A written character is read as the character. -/
theorem stringBody_escape (c : Char) (fuel : Nat) (acc : List Point) (tail : List Char) :
    stringBody (fuel + 1) acc (escape c ++ tail) = stringBody fuel (.char c :: acc) tail := by
  unfold escape
  split
  iterate 7 rfl
  rename_i hquote hslash _ _ _ _ _
  dsimp only
  split_ifs with hprint hbasic
  · simp only [Bool.and_eq_true, decide_eq_true_eq] at hprint
    simp only [List.cons_append, List.nil_append, stringBody, beq_eq_false_iff_ne.2 hquote,
      beq_eq_false_iff_ne.2 hslash, Bool.false_eq_true, if_false, if_neg (by omega : ¬ c.toNat < 0x20)]
  · have halone : isHighUnit c.toNat = true → ¬ LowAhead tail := by simp [Text.not_isHighUnit_char]
    rw [stringBody_unitEscape hbasic, ofEscapes_alone halone, Text.ofCode_char]
  · obtain ⟨hhigh, hlow, hpair⟩ := units_of_char (Nat.le_of_not_lt hbasic)
    have hunit : 0xD800 + (c.toNat - 0x10000) / 0x400 < 0x10000 := by
      rw [Text.isHighUnit_iff] at hhigh
      omega
    rw [List.append_assoc, stringBody_unitEscape hunit, ofEscapes_pair hhigh hlow, hpair]

/-- What is written of a point that is no second half does not start with one. -/
theorem not_lowAhead_escapePoint {q : Point} (h : isLowUnit q.code = false) (tail : List Char) :
    ¬ LowAhead (escapePoint q ++ tail) := by
  rintro ⟨unit, rest, hunit, hlow⟩
  have hno : unit ≠ q.code := by
    rintro rfl
    rw [h] at hlow
    cases hlow
  cases q with
  | half n =>
    have hn := n.isLt
    rw [escapePoint, escapedUnit?_unitEscape (by omega)] at hunit
    cases hunit
    exact hno rfl
  | char c =>
    rw [escapePoint] at hunit
    unfold escape at hunit
    split at hunit
    iterate 7 cases hunit
    rename_i hslash _ _ _ _ _
    dsimp only at hunit
    split_ifs at hunit with hprint hbasic
    · rw [List.singleton_append, Text.escapedUnit?] at hunit
      · cases hunit
      · rintro a b d e rest heq
        exact hslash (List.cons.inj heq).1
    · rw [escapedUnit?_unitEscape hbasic] at hunit
      cases hunit
      exact hno rfl
    · -- beyond the basic plane a first half comes first
      obtain ⟨hhigh, -, -⟩ := units_of_char (Nat.le_of_not_lt hbasic)
      rw [Text.isHighUnit_iff] at hhigh
      rw [List.append_assoc, escapedUnit?_unitEscape (by omega)] at hunit
      cases hunit
      rw [Text.isLowUnit_iff] at hlow
      omega

theorem not_lowAhead_quote (tail : List Char) : ¬ LowAhead ('"' :: tail) := by
  rintro ⟨unit, rest, hunit, -⟩
  cases hunit

/-- A written point is read as the point, unless its partner follows. -/
theorem stringBody_escapePoint {p : Point} {tail : List Char} (h : isHighUnit p.code = true → ¬ LowAhead tail) (fuel : Nat)
    (acc : List Point) : stringBody (fuel + 1) acc (escapePoint p ++ tail) = stringBody fuel (p :: acc) tail := by
  cases p with
  | char c => exact stringBody_escape c fuel acc tail
  | half n =>
    have hn := n.isLt
    rw [Point.code] at h
    rw [escapePoint, stringBody_unitEscape (by omega), ofEscapes_alone h, Text.ofCode_half]

/-- Written partners are read as their character. -/
theorem stringBody_partners {p q : Point} (h : Partners p q = true) (fuel : Nat) (acc : List Point) (tail : List Char) :
    stringBody (fuel + 1) acc (escapePoint p ++ (escapePoint q ++ tail)) =
      stringBody fuel (.char (Text.ofPair p.code q.code) :: acc) tail := by
  cases p with
  | char c => simp at h
  | half m =>
    cases q with
    | char c => simp at h
    | half n =>
      have hm := m.isLt
      rw [Partners, Bool.and_eq_true, Point.code, Point.code] at h
      rw [escapePoint, escapePoint, stringBody_unitEscape (by omega), ofEscapes_pair h.1 h.2]
      rfl

theorem length_escapePoint_pos (p : Point) : 0 < (escapePoint p).length := by
  cases p with
  | half n => exact Nat.succ_pos _
  | char c =>
    rw [escapePoint]
    unfold escape
    split <;> try exact Nat.succ_pos _
    dsimp only
    split_ifs <;> exact Nat.succ_pos _

theorem stringBody_points (ps acc : List Point) (tail : List Char) {fuel : Nat}
    (hfuel : (ps.flatMap escapePoint).length < fuel) :
    stringBody fuel acc (ps.flatMap escapePoint ++ '"' :: tail) = some (⟨acc.reverse ++ joinPoints ps⟩, tail) := by
  obtain ⟨fuel, rfl⟩ : ∃ k, fuel = k + 1 := ⟨fuel - 1, by omega⟩
  induction ps using Text.joinPoints.induct generalizing acc fuel with
  | case1 p q ps hpartners ih =>
    have hp := length_escapePoint_pos p
    have hq := length_escapePoint_pos q
    simp only [List.flatMap_cons, List.length_append] at hfuel
    obtain ⟨fuel, rfl⟩ : ∃ k, fuel = k + 1 := ⟨fuel - 1, by omega⟩
    simp only [List.flatMap_cons, List.append_assoc]
    rw [stringBody_partners hpartners, ih _ _ (by omega), joinPoints, if_pos hpartners, List.reverse_cons,
      List.append_assoc, List.singleton_append]
  | case2 p q ps hpartners ih =>
    have hp := length_escapePoint_pos p
    have hq := length_escapePoint_pos q
    have halone : isHighUnit p.code = true → ¬ LowAhead ((q :: ps).flatMap escapePoint ++ '"' :: tail) := by
      intro hhigh
      rw [List.flatMap_cons, List.append_assoc]
      refine not_lowAhead_escapePoint ?_ _
      rwa [Partners, hhigh, Bool.true_and, Bool.not_eq_true] at hpartners
    rw [List.flatMap_cons, List.length_append] at hfuel
    have hrest := hfuel
    rw [List.flatMap_cons, List.length_append] at hrest
    obtain ⟨fuel, rfl⟩ : ∃ k, fuel = k + 1 := ⟨fuel - 1, by omega⟩
    rw [List.flatMap_cons, List.append_assoc, stringBody_escapePoint halone, ih _ _ (by omega), joinPoints,
      if_neg hpartners, List.reverse_cons, List.append_assoc, List.singleton_append]
  | case3 ps hshort =>
    rw [Text.joinPoints.eq_2 ps hshort]
    cases ps with
    | nil => simp [stringBody]
    | cons p ps =>
      cases ps with
      | cons q ps => exact absurd rfl (hshort p q ps)
      | nil =>
        have hp := length_escapePoint_pos p
        simp only [List.flatMap_cons, List.flatMap_nil, List.append_nil] at hfuel ⊢
        obtain ⟨fuel, rfl⟩ : ∃ k, fuel = k + 1 := ⟨fuel - 1, by omega⟩
        rw [stringBody_escapePoint fun _ => not_lowAhead_quote tail]
        simp [stringBody]

/-- A string in quotes is read as the string with all partners joined. -/
theorem string_quoted (s : Str) (rest : List Char) : string (quoted s ++ rest) = some (s.joined, rest) := by
  have hsplit : quoted s ++ rest = '"' :: (s.points.flatMap escapePoint ++ '"' :: rest) := by simp [quoted]
  rw [hsplit]
  change stringBody ((s.points.flatMap escapePoint ++ '"' :: rest).length + 1) [] _ = _
  have hfuel : (s.points.flatMap escapePoint).length < (s.points.flatMap escapePoint ++ '"' :: rest).length + 1 := by
    rw [List.length_append]
    omega
  rw [stringBody_points _ _ _ hfuel]
  rfl

/-! ## What is read is sound -/

/-- The points read so far are sound, and if the last of them is a first half, its partner does not follow. -/
structure SoundSoFar (acc : List Point) (cs : List Char) : Prop where
  chain : acc.IsChain fun q p => Partners p q = false
  ahead : ∀ p ∈ acc.head?, isHighUnit p.code = true → ¬ LowAhead cs

theorem SoundSoFar.char {acc : List Point} {cs : List Char} (h : SoundSoFar acc cs) (c : Char) (rest : List Char) :
    SoundSoFar (.char c :: acc) rest where
  chain := List.IsChain.cons h.chain fun p _ => Text.partners_char_right p c
  ahead p hp hhigh := by
    cases hp
    rw [Point.code, Text.not_isHighUnit_char] at hhigh
    cases hhigh

theorem SoundSoFar.escaped {acc : List Point} {a b c d : Char} {rest : List Char}
    (h : SoundSoFar acc ('\\' :: 'u' :: a :: b :: c :: d :: rest)) {unit : Nat}
    (hunit : Text.hexNumber? [a, b, c, d] = some unit) (hsmall : unit < 0x10000) :
    SoundSoFar ((Text.ofEscapes unit rest).1 :: acc) (Text.ofEscapes unit rest).2 := by
  by_cases hpair : isHighUnit unit = true ∧ LowAhead rest
  · obtain ⟨hhigh, second, after, hsecond, hlow⟩ := hpair
    have hjoined : Text.ofEscapes unit rest = (.char (Text.ofPair unit second), after) := by
      simp only [Text.ofEscapes, hsecond, hhigh, hlow, Bool.and_self, if_true]
    rw [hjoined]
    exact h.char _ _
  · rw [not_and] at hpair
    rw [ofEscapes_alone hpair]
    constructor
    · refine List.IsChain.cons h.chain fun p hp => ?_
      -- if this is a second half, the point before it is no first half
      by_contra hpartners
      rw [Bool.not_eq_false, Partners, Bool.and_eq_true, Text.code_ofCode hsmall] at hpartners
      refine h.ahead p hp hpartners.1 ⟨unit, rest, ?_, hpartners.2⟩
      rw [Text.escapedUnit?, hunit, Option.map_some]
    · intro p hp
      cases hp
      rw [Text.code_ofCode hsmall]
      exact hpair

theorem hexNumber?_lt {a b c d : Char} {n : Nat} (h : Text.hexNumber? [a, b, c, d] = some n) : n < 0x10000 := by
  have hdigit : ∀ {c : Char} {k : Nat}, Text.hexValue? c = some k → k < 0x10 := by
    intro c k hk
    simp only [Text.hexValue?, Bool.and_eq_true, decide_eq_true_eq] at hk
    split_ifs at hk <;> cases hk <;> omega
  simp only [Text.hexNumber?, List.foldl_cons, List.foldl_nil, Option.pure_def, Option.bind_eq_bind, Option.bind_some,
    Option.bind_eq_some_iff, Option.some.injEq] at h
  obtain ⟨_, ⟨_, ⟨_, ⟨ka, ha, rfl⟩, kb, hb, rfl⟩, kc, hc, rfl⟩, kd, hd, rfl⟩ := h
  have := hdigit ha
  have := hdigit hb
  have := hdigit hc
  have := hdigit hd
  omega

theorem sound_of_stringBody {fuel : Nat} {acc : List Point} {cs rest : List Char} {s : Str} (hacc : SoundSoFar acc cs)
    (h : stringBody fuel acc cs = some (s, rest)) : s.Sound := by
  induction fuel generalizing acc cs with
  | zero =>
    rw [stringBody] at h
    cases h
  | succ fuel ih =>
    cases cs with
    | nil =>
      rw [stringBody] at h
      cases h
    | cons c cs =>
      unfold stringBody at h
      split_ifs at h with hquote hslash hcontrol
      · cases h
        exact List.isChain_reverse.2 hacc.chain
      · obtain rfl := eq_of_beq hslash
        split at h
        · split at h
          · rename_i hunit
            exact ih (hacc.escaped hunit (hexNumber?_lt hunit)) h
          · cases h
        · split at h
          · exact ih (hacc.char _ _) h
          · cases h
        · cases h
      · exact ih (hacc.char _ _) h

/-- A string that is read is sound. -/
theorem sound_of_string {cs rest : List Char} {s : Str} (h : string cs = some (s, rest)) : s.Sound := by
  unfold string at h
  split at h
  · exact sound_of_stringBody ⟨List.IsChain.nil, fun p hp => by cases hp⟩ h
  · cases h

end Json

end Landmarks
