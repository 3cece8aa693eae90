import Landmarks.Encoding.Utf8
import Landmarks.Text.Units

/-!
# Strings with halves of pairs

Escapes can put half a pair of code units into a string, and it stays there.

* `Str` : a string of points. A `String` is one without halves.
* `Str.text?` : the `String` that a string is, if it is one.
* `Str.shown` : a string where only characters can be.
-/

namespace Landmarks

open Text (Point)

/-- A string in which halves of pairs may stand. -/
structure Str where
  points : List Point
  deriving DecidableEq, Repr

namespace Str

/-- The string of some characters. -/
def ofChars (cs : List Char) : Str := ⟨cs.map .char⟩

/-- A string of characters as a string. -/
def ofString (s : String) : Str := ofChars s.toList

instance : Coe String Str := ⟨ofString⟩

/-- The characters of a string, if it has no halves. -/
def chars? (s : Str) : Option (List Char) := s.points.mapM Point.char?

/-- The string of characters that a string is, if it has no halves. -/
def text? (s : Str) : Option String := s.chars?.map String.ofList

/-- The characters of a string, with the replacement character for every half. -/
def toChars (s : Str) : List Char := s.points.map fun p => p.char?.getD Utf8.replacement

/-- Whether a string has no points. -/
def isEmpty (s : Str) : Bool := s.points.isEmpty

/-- Strings are ordered by the codes of their points. -/
instance : LE Str := ⟨fun s t => List.le (s.points.map Point.code) (t.points.map Point.code)⟩

instance (s t : Str) : Decidable (s ≤ t) := List.decidableLE (s.points.map Point.code) (t.points.map Point.code)

/-- A point where only characters can be: a half is shown by its escape. -/
def shownPoint : Point → List Char
  | .char c => [c]
  | .half n => '\\' :: 'u' :: Text.hexDigits 4 (0xD800 + n)

/-- A string where only characters can be. -/
def shown (s : Str) : String := String.ofList (s.points.flatMap shownPoint)

@[simp] theorem chars?_ofChars (cs : List Char) : (ofChars cs).chars? = some cs := by
  induction cs with
  | nil => rfl
  | cons c cs ih =>
    change (Point.char c :: cs.map .char).mapM Point.char? = _
    rw [List.mapM_cons]
    exact congrArg (Option.bind · fun rest => some (c :: rest)) ih

@[simp] theorem text?_ofString (s : String) : (ofString s).text? = some s := by
  rw [ofString, text?, chars?_ofChars, Option.map_some, String.ofList_toList]

@[simp] theorem ofString_inj {s t : String} : ofString s = ofString t ↔ s = t := by
  refine ⟨fun h => ?_, congrArg ofString⟩
  simpa using congrArg text? h

theorem eq_ofChars_of_chars? {ps : List Point} {cs : List Char} (h : chars? ⟨ps⟩ = some cs) : ps = cs.map .char := by
  change ps.mapM Point.char? = some cs at h
  induction ps generalizing cs with
  | nil =>
    cases h
    rfl
  | cons p ps ih =>
    rw [List.mapM_cons, Option.bind_eq_bind, Option.bind_eq_some_iff] at h
    obtain ⟨c, hc, h⟩ := h
    rw [Option.bind_eq_bind, Option.bind_eq_some_iff] at h
    obtain ⟨rest, hrest, h⟩ := h
    cases h
    cases p with
    | char d =>
      cases hc
      rw [List.map_cons, ih hrest]
    | half n => cases hc

theorem chars?_eq_some_iff {s : Str} {cs : List Char} : s.chars? = some cs ↔ s = ofChars cs := by
  constructor
  · exact fun h => congrArg Str.mk (eq_ofChars_of_chars? h)
  · rintro rfl
    exact chars?_ofChars cs

theorem text?_eq_some_iff {s : Str} {t : String} : s.text? = some t ↔ s = ofString t := by
  constructor
  · intro h
    obtain ⟨cs, hcs, rfl⟩ := Option.map_eq_some_iff.1 h
    rw [chars?_eq_some_iff.1 hcs, ofString, String.toList_ofList]
  · rintro rfl
    exact text?_ofString t

end Str

end Landmarks
