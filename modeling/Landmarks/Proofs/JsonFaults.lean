import Landmarks.Proofs.JsonReadable

/-!
# Why a JSON text is given up

The readers take a text from its front and look at nothing else. So an integer that is refused for its
length stands in the text as a run of that many digits.

* `Json.LongRun` : a run of more digits than an integer may have.
* `Json.StaysIn` : what a reader gives is about its text: it leaves an end of the text, or refuses a run of
  digits in it.
* `Json.staysWith` : this holds of all readers, by induction on the fuel.
* `Json.longRun_of_parse` : what is refused for its length is a run of digits of the whole text.
-/

namespace Landmarks.Json

/-- A text has a run of so many digits, and an integer may not have that many. -/
def LongRun (cs : List Char) (digits : ℕ) : Prop :=
  ∃ run, run <:+: cs ∧ (∀ c ∈ run, Number.isDigit c = true) ∧ run.length = digits ∧ Number.maxDigits < digits

/-- What a reader gives is about its text. -/
def StaysIn (cs : List Char) : Except Fault (Json × List Char) → Prop
  | .ok (_, rest) => rest <:+ cs
  | .error (.longInteger digits) => LongRun cs digits
  | .error .malformed => True

variable {cs rest tail : List Char}

theorem LongRun.of_suffix {digits : ℕ} (h : LongRun rest digits) (hrest : rest <:+ cs) : LongRun cs digits := by
  obtain ⟨run, hrun, hdigits, hlength, hlong⟩ := h
  exact ⟨run, hrun.trans hrest.isInfix, hdigits, hlength, hlong⟩

theorem StaysIn.of_suffix {r : Except Fault (Json × List Char)} (h : StaysIn rest r) (hrest : rest <:+ cs) :
    StaysIn cs r := by
  rcases r with (_ | digits) | ⟨v, after⟩
  · trivial
  · exact LongRun.of_suffix h hrest
  · exact List.IsSuffix.trans h hrest

theorem suffix_skipGap (cs : List Char) : skipGap cs <:+ cs := List.dropWhile_suffix _

/-- What stands behind a mark, itself behind white space, is an end of the text. -/
theorem suffix_of_skipGap {c : Char} (h : skipGap rest = c :: tail) (hrest : rest <:+ cs) : tail <:+ cs :=
  (List.suffix_cons c tail).trans ((h ▸ suffix_skipGap rest).trans hrest)

/-! ## Strings -/

theorem suffix_of_escapedUnit? {unit : ℕ} (h : Text.escapedUnit? cs = some (unit, rest)) : rest <:+ cs := by
  unfold Text.escapedUnit? at h
  split at h
  · rename_i a b c d after
    obtain ⟨n, -, hn⟩ := Option.map_eq_some_iff.1 h
    cases hn
    exact ⟨['\\', 'u', a, b, c, d], rfl⟩
  · cases h

theorem suffix_ofEscapes (unit : ℕ) (cs : List Char) : (Text.ofEscapes unit cs).2 <:+ cs := by
  unfold Text.ofEscapes
  split
  · rename_i hsecond
    split
    · exact suffix_of_escapedUnit? hsecond
    · exact List.suffix_rfl
  · exact List.suffix_rfl

theorem suffix_stringBody {fuel : ℕ} {acc : List Text.Point} {s : Str} (h : stringBody fuel acc cs = some (s, rest)) :
    rest <:+ cs := by
  induction fuel generalizing acc cs with
  | zero =>
    rw [stringBody] at h
    cases h
  | succ fuel ih =>
    cases cs with
    | nil =>
      rw [stringBody] at h
      cases h
    | cons c cs =>
      unfold stringBody at h
      split_ifs at h
      · cases h
        exact List.suffix_cons c rest
      · split at h
        · rename_i a b d e after
          split at h
          · rename_i unit _
            exact (ih h).trans ((suffix_ofEscapes unit after).trans ⟨[c, 'u', a, b, d, e], rfl⟩)
          · cases h
        · rename_i e after _
          split at h
          · exact (ih h).trans ⟨[c, e], rfl⟩
          · cases h
        · cases h
      · exact (ih h).trans (List.suffix_cons c cs)

theorem suffix_string {s : Str} (h : string cs = some (s, rest)) : rest <:+ cs := by
  unfold string at h
  split at h
  · rename_i body
    exact (suffix_stringBody h).trans (List.suffix_cons '"' body)
  · cases h

/-! ## Numbers and words -/

theorem append_of_whole {ds : List Char} (h : whole cs = some (ds, rest)) : ds ++ rest = cs := by
  unfold whole at h
  split at h
  · cases h
    rfl
  · split_ifs at h
    cases h
    exact List.takeWhile_append_dropWhile
  · cases h

theorem suffix_fraction (cs : List Char) : (fraction cs).2 <:+ cs := by
  unfold fraction
  split
  · rename_i after
    simp only []
    split_ifs
    · exact List.suffix_rfl
    · exact (List.dropWhile_suffix _).trans (List.suffix_cons '.' after)
  · exact List.suffix_rfl

theorem suffix_splitSign (cs : List Char) : (Number.splitSign cs).2 <:+ cs := by
  unfold Number.splitSign
  split
  · exact List.suffix_cons _ _
  · exact List.suffix_cons _ _
  · exact List.suffix_rfl

theorem suffix_exponent (cs : List Char) : (exponent cs).2 <:+ cs := by
  unfold exponent
  split
  · rename_i e after
    simp only []
    split_ifs
    · exact List.suffix_rfl
    · exact (List.dropWhile_suffix _).trans ((suffix_splitSign after).trans (List.suffix_cons e after))
    · exact List.suffix_rfl
  · exact List.suffix_rfl

theorem staysIn_number (negative : Bool) (cs : List Char) : StaysIn cs (number negative cs) := by
  unfold number
  split
  · trivial
  · rename_i ds after hwhole
    have happend := append_of_whole hwhole
    have hafter : (exponent (fraction after).2).2 <:+ cs :=
      (suffix_exponent _).trans ((suffix_fraction after).trans ⟨ds, happend⟩)
    simp only []
    split_ifs with hinteger hlong
    · exact ⟨ds, ⟨[], after, happend⟩, isDigit_of_whole hwhole, rfl, hlong⟩
    · exact hafter
    · exact hafter

theorem staysIn_keyword (w : List Char) (v : Json) (cs : List Char) : StaysIn cs (keyword w v cs) := by
  unfold keyword
  split_ifs
  · exact List.drop_suffix _ _
  · trivial

theorem staysIn_scalar (cs : List Char) : StaysIn cs (scalar cs) := by
  unfold scalar
  split
  · split
    · rename_i hstring
      exact suffix_string hstring
    · trivial
  iterate 6 exact staysIn_keyword _ _ _
  · exact (staysIn_number true _).of_suffix (List.suffix_cons _ _)
  · exact staysIn_number false _

/-! ## Arrays and objects -/

/-- With some fuel, what the readers give is about their text. -/
structure StaysWith (fuel : ℕ) : Prop where
  value : ∀ cs, StaysIn cs (value fuel cs)
  items : ∀ acc cs, StaysIn cs (items fuel acc cs)
  members : ∀ acc cs, StaysIn cs (members fuel acc cs)

namespace StaysWith

variable {fuel : ℕ}

theorem value_succ (ih : StaysWith fuel) (cs : List Char) : StaysIn cs (Json.value (fuel + 1) cs) := by
  unfold Json.value
  split
  · rename_i after
    split
    · rename_i hclose
      exact suffix_of_skipGap hclose (List.suffix_cons _ _)
    · exact (ih.items [] _).of_suffix ((suffix_skipGap after).trans (List.suffix_cons _ _))
  · rename_i after
    split
    · rename_i hclose
      exact suffix_of_skipGap hclose (List.suffix_cons _ _)
    · exact (ih.members [] _).of_suffix ((suffix_skipGap after).trans (List.suffix_cons _ _))
  · exact staysIn_scalar cs

theorem items_succ (ih : StaysWith fuel) (acc : List Json) (cs : List Char) :
    StaysIn cs (Json.items (fuel + 1) acc cs) := by
  have hvalue := ih.value cs
  rw [Json.items]
  split
  · rename_i e he
    rw [he] at hvalue
    exact hvalue
  · rename_i v after hafter
    rw [hafter] at hvalue
    split
    · rename_i hclose
      exact suffix_of_skipGap hclose hvalue
    · rename_i next hcomma
      exact (ih.items _ _).of_suffix ((suffix_skipGap next).trans (suffix_of_skipGap hcomma hvalue))
    · trivial

theorem members_succ (ih : StaysWith fuel) (acc : Fields) (cs : List Char) :
    StaysIn cs (Json.members (fuel + 1) acc cs) := by
  rw [Json.members]
  split
  · trivial
  · rename_i key after hkey
    split
    · rename_i text hcolon
      have htext : skipGap text <:+ cs := (suffix_skipGap text).trans (suffix_of_skipGap hcolon (suffix_string hkey))
      have hvalue := (ih.value (skipGap text)).of_suffix htext
      split
      · rename_i e he
        rw [he] at hvalue
        exact hvalue
      · rename_i v behind hbehind
        rw [hbehind] at hvalue
        split
        · rename_i hclose
          exact suffix_of_skipGap hclose hvalue
        · rename_i next hcomma
          exact (ih.members _ _).of_suffix ((suffix_skipGap next).trans (suffix_of_skipGap hcomma hvalue))
        · trivial
    · trivial

end StaysWith

theorem staysWith (fuel : ℕ) : StaysWith fuel := by
  induction fuel with
  | zero =>
    refine ⟨fun cs => ?_, fun acc cs => ?_, fun acc cs => ?_⟩
    · rw [value]
      trivial
    · rw [items]
      trivial
    · rw [members]
      trivial
  | succ fuel ih => exact ⟨ih.value_succ, ih.items_succ, ih.members_succ⟩

/-- What is refused for its length is a run of digits of the text. -/
theorem longRun_of_parse {digits : ℕ} (h : parse cs = .error (.longInteger digits)) : LongRun cs digits := by
  have hvalue := (staysWith (2 * cs.length + 2)).value (skipGap cs)
  unfold parse at h
  split at h
  · split_ifs at h
    cases h
  · rename_i e he
    cases h
    rw [he] at hvalue
    exact LongRun.of_suffix hvalue (suffix_skipGap cs)

end Landmarks.Json
