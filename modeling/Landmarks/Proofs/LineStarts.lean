import Landmarks.Document
import Mathlib.Data.List.TakeWhile

/-!
# Line starts

Where the lines of a text begin can be said of the text alone, without cutting it from the front.

* `IsLineStart`, `lineStarts` : the offsets at which a line begins, and the list of them.
* `lineAt` : the longest run without a break from an offset on.
* `Break.Separates` : a break between two texts that neither text takes a part of.
* `lineStarts_seam` : the line starts of two texts with such a break between them are those of the
  first and, behind the break, those of the second.
* `linesFrom_eq_linesAt` : cutting a text gives the runs at its line starts, numbered in order.

The one seam lemma carries the induction over the cut text, where the first text is a single line,
and holds as well where both texts have many lines.
-/

namespace Landmarks

/-- What ends a line. -/
inductive Break
  | lf
  | crlf
  | cr
  deriving DecidableEq, Repr

namespace Break

/-- The characters of a break. -/
def chars : Break → List Char
  | lf => ['\n']
  | crlf => ['\r', '\n']
  | cr => ['\r']

/-- A break between two texts that stays a break of its own: a line feed would join a carriage return
before it, and a carriage return a line feed behind it. -/
def Separates (brk : Break) (a b : List Char) : Prop :=
  ¬(brk = lf ∧ a.getLast? = some '\r') ∧ ¬(brk = cr ∧ b.head? = some '\n')

instance (brk : Break) (a b : List Char) : Decidable (brk.Separates a b) :=
  inferInstanceAs (Decidable (_ ∧ _))

theorem length_chars_pos (brk : Break) : 0 < brk.chars.length := by cases brk <;> simp [chars]

end Break

namespace Document

/-- The characters that breaks are made of. -/
def isBreakChar (c : Char) : Bool := c == '\r' || c == '\n'

/-- Whether a line begins at an offset: at the front, behind a line feed, and behind a carriage return
that no line feed follows. -/
def IsLineStart (text : List Char) (p : Nat) : Prop :=
  p ≤ text.length ∧
    (p = 0 ∨ text[p - 1]? = some '\n' ∨
      (text[p - 1]? = some '\r' ∧ (p = text.length ∨ text[p]? ≠ some '\n')))

instance (text : List Char) : DecidablePred (IsLineStart text) := fun _ =>
  inferInstanceAs (Decidable (_ ∧ _))

/-- The offsets at which the lines of a text begin, in rising order. -/
def lineStarts (text : List Char) : List Nat :=
  (List.range (text.length + 1)).filter fun p => decide (IsLineStart text p)

/-- The longest run without a break from an offset on. -/
def lineAt (text : List Char) (p : Nat) : List Char := (text.drop p).takeWhile (!isBreakChar ·)

/-- The number of lines that begin before an offset. -/
def linesBefore (text : List Char) (p : Nat) : Nat := (lineStarts text).countP (· < p)

/-- The lines of a text by its line starts, where the first line has the given number and start. -/
def linesAt (number start : Int) (text : List Char) : List Line :=
  (lineStarts text).map fun p => ⟨number + linesBefore text p, start + p, lineAt text p⟩

theorem mem_lineStarts {text : List Char} {p : Nat} : p ∈ lineStarts text ↔ IsLineStart text p := by
  rw [lineStarts, List.mem_filter, List.mem_range, decide_eq_true_iff]
  exact ⟨fun h => h.2, fun h => ⟨Nat.lt_succ_of_le h.1, h⟩⟩

theorem lineStarts_pairwise (text : List Char) : (lineStarts text).Pairwise (· < ·) :=
  List.Pairwise.filter _ List.pairwise_lt_range

/-! ## Two texts and a break between them -/

section Seam

variable {a b : List Char} {brk : Break}

theorem isLineStart_left (hsep : brk.Separates a b) {p : Nat} (hp : p ≤ a.length) :
    IsLineStart (a ++ brk.chars ++ b) p ↔ IsLineStart a p := by
  rcases Nat.eq_zero_or_pos p with rfl | hpos
  · simp [IsLineStart]
  have hlen : p ≤ (a ++ brk.chars ++ b).length := by simp only [List.length_append]; omega
  have hbefore : (a ++ brk.chars ++ b)[p - 1]? = a[p - 1]? := by
    rw [List.append_assoc, List.getElem?_append_left (by omega)]
  unfold IsLineStart
  rw [hbefore]
  rcases Nat.lt_or_eq_of_le hp with hlt | rfl
  · have hat : (a ++ brk.chars ++ b)[p]? = a[p]? := by
      rw [List.append_assoc, List.getElem?_append_left hlt]
    have hne : p ≠ (a ++ brk.chars ++ b).length := by
      simp only [List.length_append]
      omega
    simp only [hat, hlen, hp, hne, Nat.ne_of_lt hlt]
  · -- the end of `a`: a carriage return there is a break unless the break is a line feed
    have hlast : brk = .lf → a[a.length - 1]? ≠ some '\r' := by
      intro hlf hcr
      rw [← List.getLast?_eq_getElem?] at hcr
      exact hsep.1 ⟨hlf, hcr⟩
    have hat : (a ++ brk.chars ++ b)[a.length]? = brk.chars.head? := by
      rw [List.append_assoc, List.getElem?_append_right (Nat.le_refl _), Nat.sub_self]
      cases brk <;> rfl
    rw [hat]
    cases brk with
    | lf => simp [hlast rfl, Break.chars]
    | crlf => simp [Break.chars]
    | cr => simp [Break.chars]

theorem not_isLineStart_inside {p : Nat} (hlow : a.length < p)
    (hhigh : p < a.length + brk.chars.length) : ¬IsLineStart (a ++ brk.chars ++ b) p := by
  cases brk with
  | lf => simp [Break.chars] at hhigh; omega
  | cr => simp [Break.chars] at hhigh; omega
  | crlf =>
    obtain rfl : p = a.length + 1 := by simp [Break.chars] at hhigh; omega
    simp [IsLineStart, Break.chars, List.append_assoc]

theorem isLineStart_right (hsep : brk.Separates a b) (q : Nat) :
    IsLineStart (a ++ brk.chars ++ b) (a.length + brk.chars.length + q) ↔ IsLineStart b q := by
  have hlen : (a ++ brk.chars ++ b).length = a.length + brk.chars.length + b.length := by
    simp only [List.length_append]
  have hget : ∀ i, (a ++ brk.chars ++ b)[a.length + brk.chars.length + i]? = b[i]? := by
    intro i
    rw [List.getElem?_append_right (by rw [List.length_append]; omega), List.length_append]
    congr 1
    omega
  unfold IsLineStart
  rw [hlen, hget q]
  rcases q with _ | q
  · -- right behind the break: its last character decides
    have hbefore : (a ++ brk.chars ++ b)[a.length + brk.chars.length + 0 - 1]? = brk.chars.getLast? := by
      have hpos := brk.length_chars_pos
      rw [List.getElem?_append_left (by rw [List.length_append]; omega),
        List.getElem?_append_right (by omega), List.getLast?_eq_getElem?]
      congr 1
      omega
    have hhead : brk = .cr → b[0]? ≠ some '\n' := by
      intro hcr hlf
      rw [← List.head?_eq_getElem?] at hlf
      exact hsep.2 ⟨hcr, hlf⟩
    rw [hbefore]
    cases brk with
    | lf => simp [Break.chars]
    | crlf => simp [Break.chars]
    | cr => simp [Break.chars, hhead rfl]
  · rw [show a.length + brk.chars.length + (q + 1) - 1 = a.length + brk.chars.length + q by omega, hget q]
    simp

theorem lineStarts_seam (hsep : brk.Separates a b) :
    lineStarts (a ++ brk.chars ++ b) =
      lineStarts a ++ (lineStarts b).map (a.length + brk.chars.length + ·) := by
  obtain ⟨w, hw⟩ : ∃ w, brk.chars.length = 1 + w := Nat.exists_eq_add_of_le brk.length_chars_pos
  have hsize : (a ++ brk.chars ++ b).length + 1 = a.length + 1 + w + (b.length + 1) := by
    simp only [List.length_append, hw]
    omega
  have hleft : (List.range (a.length + 1)).filter
      (fun p => decide (IsLineStart (a ++ brk.chars ++ b) p)) = lineStarts a := by
    refine List.filter_congr fun p hp => ?_
    rw [List.mem_range] at hp
    rw [decide_eq_decide]
    exact isLineStart_left hsep (by omega)
  have hinside : ((List.range w).map (a.length + 1 + ·)).filter
      (fun p => decide (IsLineStart (a ++ brk.chars ++ b) p)) = [] := by
    rw [List.filter_eq_nil_iff]
    intro p hp
    obtain ⟨i, hi, rfl⟩ := List.mem_map.1 hp
    rw [List.mem_range] at hi
    rw [decide_eq_true_iff]
    exact not_isLineStart_inside (by omega) (by omega)
  have hright : ((List.range (b.length + 1)).map (a.length + 1 + w + ·)).filter
      (fun p => decide (IsLineStart (a ++ brk.chars ++ b) p)) =
        (lineStarts b).map (a.length + brk.chars.length + ·) := by
    rw [List.filter_map, lineStarts, hw, ← Nat.add_assoc]
    congr 1
    refine List.filter_congr fun q _ => ?_
    rw [Function.comp_apply, decide_eq_decide, Nat.add_assoc a.length 1 w, ← hw]
    exact isLineStart_right hsep q
  rw [lineStarts, hsize, List.range_add, List.range_add, List.filter_append, List.filter_append, hleft,
    hinside, hright, List.append_nil]

theorem linesBefore_left (hsep : brk.Separates a b) {p : Nat} (hp : p ≤ a.length) :
    linesBefore (a ++ brk.chars ++ b) p = linesBefore a p := by
  have hbehind : ((lineStarts b).map (a.length + brk.chars.length + ·)).countP (· < p) = 0 := by
    rw [List.countP_eq_zero]
    intro r hr
    obtain ⟨q, -, rfl⟩ := List.mem_map.1 hr
    simp only [decide_eq_true_eq]
    omega
  rw [linesBefore, lineStarts_seam hsep, List.countP_append, hbehind, Nat.add_zero, linesBefore]

theorem linesBefore_right (hsep : brk.Separates a b) (q : Nat) :
    linesBefore (a ++ brk.chars ++ b) (a.length + brk.chars.length + q) =
      (lineStarts a).length + linesBefore b q := by
  have hbefore : (lineStarts a).countP (· < a.length + brk.chars.length + q) = (lineStarts a).length := by
    rw [List.countP_eq_length]
    intro p hp
    have hle := (mem_lineStarts.1 hp).1
    have hpos := brk.length_chars_pos
    simp only [decide_eq_true_eq]
    omega
  rw [linesBefore, lineStarts_seam hsep, List.countP_append, hbefore, List.countP_map, linesBefore]
  congr 1
  refine List.countP_congr fun r _ => ?_
  simp only [Function.comp_apply, decide_eq_true_eq]
  omega

theorem lineAt_left {p : Nat} (hp : p ≤ a.length) : lineAt (a ++ brk.chars ++ b) p = lineAt a p := by
  obtain ⟨c, rest, hchars, hc⟩ : ∃ c rest, brk.chars = c :: rest ∧ isBreakChar c = true := by
    cases brk <;> exact ⟨_, _, rfl, rfl⟩
  rw [lineAt, lineAt, List.append_assoc, List.drop_append_of_le_length hp, List.takeWhile_append]
  split
  · -- the rest of `a` has no break, and the one behind `a` ends the run
    rename_i hall
    have hrun := (List.takeWhile_prefix (!isBreakChar ·) (l := a.drop p)).eq_of_length hall
    simp [hrun, hchars, hc]
  · rfl

theorem lineAt_right (q : Nat) :
    lineAt (a ++ brk.chars ++ b) (a.length + brk.chars.length + q) = lineAt b q := by
  rw [lineAt, lineAt, ← List.length_append, ← List.drop_drop, List.drop_left]

/-- The lines of two texts with a break between them are the lines of both; those of the second are
numbered on and lie behind the first text and the break. -/
theorem linesAt_seam (hsep : brk.Separates a b) (number start : Int) :
    linesAt number start (a ++ brk.chars ++ b) = linesAt number start a ++
      linesAt (number + (lineStarts a).length) (start + (a.length + brk.chars.length : Nat)) b := by
  unfold linesAt
  rw [lineStarts_seam hsep, List.map_append, List.map_map]
  congr 1
  · refine List.map_congr_left fun p hp => ?_
    have hle := (mem_lineStarts.1 hp).1
    rw [linesBefore_left hsep hle, lineAt_left hle]
  · refine List.map_congr_left fun q _ => ?_
    rw [Function.comp_apply, linesBefore_right hsep, lineAt_right, Line.mk.injEq]
    refine ⟨?_, ?_, rfl⟩ <;> push_cast <;> omega

end Seam

/-! ## Cutting a text -/

theorem lineStarts_of_no_break {text : List Char} (h : ∀ c ∈ text, isBreakChar c = false) :
    lineStarts text = [0] := by
  have hstart : ∀ p, IsLineStart text (p + 1) → False := by
    rintro p ⟨-, h0 | hlf | ⟨hcr, -⟩⟩
    · omega
    · exact absurd (h _ (List.mem_of_getElem? hlf)) (by decide)
    · exact absurd (h _ (List.mem_of_getElem? hcr)) (by decide)
  rw [lineStarts, List.range_succ_eq_map, List.filter_cons_of_pos (by simp [IsLineStart])]
  congr 1
  rw [List.filter_eq_nil_iff]
  intro p hp
  obtain ⟨q, -, rfl⟩ := List.mem_map.1 hp
  rw [decide_eq_true_iff]
  exact hstart q

theorem linesAt_of_no_break {text : List Char} (h : ∀ c ∈ text, isBreakChar c = false)
    (number start : Int) : linesAt number start text = [⟨number, start, text⟩] := by
  have hrun : lineAt text 0 = text := by
    rw [lineAt, List.drop_zero, List.takeWhile_eq_self_iff]
    intro c hc
    rw [h c hc]
    rfl
  rw [linesAt, lineStarts_of_no_break h, List.map_singleton, hrun, linesBefore, lineStarts_of_no_break h]
  simp

theorem isBreakChar_eq_false {c : Char} (hcr : c ≠ '\r') (hlf : c ≠ '\n') : isBreakChar c = false := by
  rw [isBreakChar, beq_eq_false_iff_ne.2 hcr, beq_eq_false_iff_ne.2 hlf, Bool.or_false]

theorem eq_of_cut_none {cs line : List Char} (h : cut cs = (line, none)) :
    line = cs ∧ ∀ c ∈ cs, isBreakChar c = false := by
  fun_induction cut cs generalizing line with
  | case1 => simp_all
  | case2 => simp at h
  | case3 => simp at h
  | case4 => simp at h
  | case5 c cs _ hcr hlf line' rest' hc ih =>
    simp only [Prod.mk.injEq] at h
    obtain ⟨rfl, rfl⟩ := h
    obtain ⟨rfl, hall⟩ := ih hc
    exact ⟨rfl, List.forall_mem_cons.2 ⟨isBreakChar_eq_false hcr hlf, hall⟩⟩

/-- A cut text is its first line, a break, and the rest. Of a carriage return and a line feed behind
it, both belong to the break. -/
theorem exists_break_of_cut {cs line rest : List Char} {width : Nat}
    (h : cut cs = (line, some (width, rest))) :
    ∃ brk : Break, cs = line ++ brk.chars ++ rest ∧ width = brk.chars.length ∧
      (∀ c ∈ line, isBreakChar c = false) ∧ ¬(brk = .cr ∧ rest.head? = some '\n') := by
  fun_induction cut cs generalizing line with
  | case1 => simp at h
  | case2 cs =>
    simp only [Prod.mk.injEq, Option.some.injEq] at h
    obtain ⟨rfl, rfl, rfl⟩ := h
    exact ⟨.crlf, rfl, rfl, by simp, by simp⟩
  | case3 cs hlf =>
    simp only [Prod.mk.injEq, Option.some.injEq] at h
    obtain ⟨rfl, rfl, rfl⟩ := h
    refine ⟨.cr, rfl, rfl, by simp, fun hhead => ?_⟩
    obtain ⟨tail, htail⟩ := List.head?_eq_some_iff.1 hhead.2
    exact hlf tail htail
  | case4 cs =>
    simp only [Prod.mk.injEq, Option.some.injEq] at h
    obtain ⟨rfl, rfl, rfl⟩ := h
    exact ⟨.lf, rfl, rfl, by simp, by simp⟩
  | case5 c cs _ hcr hlf line' rest' hc ih =>
    simp only [Prod.mk.injEq] at h
    obtain ⟨rfl, rfl⟩ := h
    obtain ⟨brk, rfl, rfl, hall, hhead⟩ := ih hc
    exact ⟨brk, by simp, rfl, List.forall_mem_cons.2 ⟨isBreakChar_eq_false hcr hlf, hall⟩, hhead⟩

/-- **Cutting a text from the front gives the runs at its line starts.** -/
theorem linesFrom_eq_linesAt (number start : Int) (cs : List Char) :
    linesFrom number start cs = linesAt number start cs := by
  fun_induction linesFrom number start cs with
  | case1 number start cs line hcut =>
    obtain ⟨rfl, hall⟩ := eq_of_cut_none hcut
    rw [linesAt_of_no_break hall]
  | case2 number start cs line width rest hcut ih =>
    obtain ⟨brk, rfl, rfl, hall, hhead⟩ := exists_break_of_cut hcut
    have hsep : brk.Separates line rest := by
      refine ⟨fun hlast => ?_, hhead⟩
      exact absurd (hall _ (List.mem_of_getLast? hlast.2)) (by decide)
    rw [linesAt_seam hsep, linesAt_of_no_break hall, lineStarts_of_no_break hall, ih, List.singleton_append]
    congr 2
    push_cast
    omega

example : linesAt 1 0 "a\r\r\nb\n".toList = [⟨1, 0, ['a']⟩, ⟨2, 2, []⟩, ⟨3, 4, ['b']⟩, ⟨4, 6, []⟩] := by
  decide

end Document

end Landmarks
