import Landmarks.Proofs.LineStarts
import Mathlib

/-!
# Cutting and joining lines

* `linesFrom_of_unbroken`, `linesFrom_break` : how a text is cut that has no break, or a first one.
* `linesFrom_intercalate` : lines with breaks between them are cut where they were joined.
* `CutFrom` : numbered lines that stand in a text one after another, with exactly one break between any two
  of them. `cutFrom_iff` : there is one way to have such lines, and cutting the text finds it.
* `CutFrom.exists_breaks` : the lines and the breaks between them are all of the text.
* `cut_join_inverse` : both directions together.
-/

namespace Landmarks

/-- The offset behind a line. -/
def Line.stop (l : Line) : Int := l.start + l.text.length

namespace Document

/-- A text without a break. -/
def Unbroken (line : List Char) : Prop := '\r' ∉ line ∧ '\n' ∉ line

theorem Unbroken.isBreakChar {line : List Char} (h : Unbroken line) : ∀ c ∈ line, isBreakChar c = false := by
  intro c hc
  refine isBreakChar_eq_false ?_ ?_
  · rintro rfl
    exact h.1 hc
  · rintro rfl
    exact h.2 hc

theorem unbroken_of_isBreakChar {line : List Char} (h : ∀ c ∈ line, isBreakChar c = false) : Unbroken line :=
  ⟨fun hc => absurd (h _ hc) (by decide), fun hc => absurd (h _ hc) (by decide)⟩

theorem linesFrom_of_unbroken {line : List Char} (h : Unbroken line) (number start : Int) :
    linesFrom number start line = [⟨number, start, line⟩] := by
  rw [linesFrom_eq_linesAt, linesAt_of_no_break h.isBreakChar]

/-- Behind its first break a text is cut like a text of its own. -/
theorem linesFrom_break {line rest : List Char} {brk : Break} (h : Unbroken line)
    (hbreak : ¬(brk = .cr ∧ rest.head? = some '\n')) (number start : Int) :
    linesFrom number start (line ++ brk.chars ++ rest) =
      ⟨number, start, line⟩ :: linesFrom (number + 1) (start + (line.length + brk.chars.length : Nat)) rest := by
  have hsep : brk.Separates line rest :=
    ⟨fun hlast => h.1 (List.mem_of_getLast? hlast.2), hbreak⟩
  rw [linesFrom_eq_linesAt, linesAt_seam hsep, linesAt_of_no_break h.isBreakChar,
    lineStarts_of_no_break h.isBreakChar, linesFrom_eq_linesAt]
  rfl

/-! ## Lines that are joined -/

/-- The offset of a line among lines that are joined: the lines before it, each with a break. -/
def joinedStart (lines : List (List Char)) (brk : Break) (i : Nat) : Nat :=
  ((lines.take i).map fun line => line.length + brk.chars.length).sum

theorem joinedStart_succ (line : List Char) (lines : List (List Char)) (brk : Break) (i : Nat) :
    joinedStart (line :: lines) brk (i + 1) = line.length + brk.chars.length + joinedStart lines brk i := by
  rw [joinedStart, List.take_succ_cons, List.map_cons, List.sum_cons, joinedStart]

theorem lf_notMem_intercalate_cr {lines : List (List Char)} (h : ∀ line ∈ lines, Unbroken line) :
    '\n' ∉ List.intercalate Break.cr.chars lines := by
  induction lines with
  | nil => simp
  | cons line lines ih =>
    obtain ⟨hline, hlines⟩ := List.forall_mem_cons.1 h
    cases lines with
    | nil => rw [List.intercalate_singleton]; exact hline.2
    | cons line' lines =>
      rw [List.intercalate_cons_cons, List.mem_append, List.mem_append, not_or, not_or]
      exact ⟨⟨hline.2, by decide⟩, ih hlines⟩

theorem linesFrom_intercalate {lines : List (List Char)} {brk : Break} (hne : lines ≠ [])
    (h : ∀ line ∈ lines, Unbroken line) (number start : Int) :
    linesFrom number start (List.intercalate brk.chars lines) =
      lines.mapIdx fun i line => ⟨number + i, start + joinedStart lines brk i, line⟩ := by
  induction lines generalizing number start with
  | nil => exact absurd rfl hne
  | cons line lines ih =>
    obtain ⟨hline, hlines⟩ := List.forall_mem_cons.1 h
    cases lines with
    | nil =>
      rw [List.intercalate_singleton, linesFrom_of_unbroken hline]
      simp [joinedStart]
    | cons line' lines =>
      have hbreak : ¬(brk = .cr ∧ (List.intercalate brk.chars (line' :: lines)).head? = some '\n') := by
        rintro ⟨rfl, hhead⟩
        exact lf_notMem_intercalate_cr hlines (List.mem_of_head? hhead)
      have hshift : ∀ i : Nat, (⟨number + 1 + i, start + (line.length + brk.chars.length : Nat) +
          joinedStart (line' :: lines) brk i, ·⟩ : List Char → Line) =
          (⟨number + (i + 1 : Nat), start + joinedStart (line :: line' :: lines) brk (i + 1), ·⟩) := by
        intro i
        funext next
        rw [joinedStart_succ, Line.mk.injEq]
        refine ⟨?_, ?_, rfl⟩ <;> push_cast <;> omega
      rw [List.intercalate_cons_cons, linesFrom_break hline hbreak, ih (List.cons_ne_nil _ _) hlines,
        List.mapIdx_cons (a := line)]
      simp only [hshift]
      simp [joinedStart]

theorem length_intercalate (lines : List (List Char)) (sep : List Char) :
    (List.intercalate sep lines).length = (lines.map List.length).sum + (lines.length - 1) * sep.length := by
  induction lines with
  | nil => simp
  | cons line lines ih =>
    cases lines with
    | nil => simp [List.intercalate_singleton]
    | cons line' lines =>
      rw [List.intercalate_cons_cons, List.length_append, List.length_append, ih]
      simp only [List.map_cons, List.sum_cons, List.length_cons, Nat.add_sub_cancel, Nat.succ_mul]
      omega

/-! ## Lines that stand in a text -/

/-- The part of a text from an offset on, of a given length. -/
def slice (text : List Char) (start : Int) (length : Nat) : List Char := (text.drop start.toNat).take length

/-- Two lines with exactly one break between them. A carriage return that a line feed follows is not a break. -/
def Parted (text : List Char) (l l' : Line) : Prop :=
  ∃ brk : Break, l'.start = l.stop + brk.chars.length ∧ slice text l.stop brk.chars.length = brk.chars ∧
    ¬(brk = .cr ∧ text[l'.start.toNat]? = some '\n')

/-- Lines, numbered in order, that stand in a text one after another from an offset on to its end. -/
structure CutFrom (text : List Char) (number start : Int) (lines : List Line) : Prop where
  numbered : ∀ (i : Nat) (l : Line), lines[i]? = some l → l.number = number + i
  unbroken : ∀ l ∈ lines, Unbroken l.text
  first : lines.head?.map Line.start = some start
  stands : ∀ l ∈ lines, slice text l.start l.text.length = l.text
  parted : lines.IsChain (Parted text)
  last : lines.getLast?.map Line.stop = some (text.length : Int)

section CutFrom

variable {text : List Char} {number start : Int} {l l' : Line} {rest lines : List Line}

theorem cutFrom_singleton :
    CutFrom text number start [l] ↔ l.number = number ∧ l.start = start ∧ Unbroken l.text ∧
      slice text l.start l.text.length = l.text ∧ l.stop = text.length := by
  constructor
  · intro h
    refine ⟨?_, by simpa using h.first, h.unbroken l (by simp), h.stands l (by simp), by simpa using h.last⟩
    simpa using h.numbered 0 l rfl
  · rintro ⟨hnumber, hstart, hunbroken, hstands, hstop⟩
    refine ⟨fun i m hm => ?_, by simpa using hunbroken, by simpa using hstart, by simpa using hstands,
      List.IsChain.singleton l, by simpa using hstop⟩
    cases i with
    | zero => simp_all
    | succ i => simp at hm

/-- Behind its first line and break, a text that is cut is cut like a text of its own. -/
theorem cutFrom_cons_cons :
    CutFrom text number start (l :: l' :: rest) ↔ l.number = number ∧ l.start = start ∧ Unbroken l.text ∧
      slice text l.start l.text.length = l.text ∧ Parted text l l' ∧
        CutFrom text (number + 1) l'.start (l' :: rest) := by
  constructor
  · intro h
    obtain ⟨hunbroken, hunbrokens⟩ := List.forall_mem_cons.1 h.unbroken
    obtain ⟨hstands, hstand⟩ := List.forall_mem_cons.1 h.stands
    obtain ⟨hparted, hparteds⟩ := List.isChain_cons_cons.1 h.parted
    refine ⟨by simpa using h.numbered 0 l rfl, by simpa using h.first, hunbroken, hstands, hparted,
      fun i m hm => ?_, hunbrokens, by simp, hstand, hparteds, by simpa using h.last⟩
    have hnumber := h.numbered (i + 1) m (by simpa using hm)
    push_cast at hnumber
    omega
  · rintro ⟨hnumber, hstart, hunbroken, hstands, hparted, h⟩
    refine ⟨fun i m hm => ?_, List.forall_mem_cons.2 ⟨hunbroken, h.unbroken⟩, by simpa using hstart,
      List.forall_mem_cons.2 ⟨hstands, h.stands⟩, List.isChain_cons_cons.2 ⟨hparted, h.parted⟩,
      by simpa using h.last⟩
    cases i with
    | zero => simp_all
    | succ i =>
      have hrest := h.numbered i m (by simpa using hm)
      push_cast
      omega

theorem drop_eq_of_slice {w : List Char} {s : Nat} (h : slice text s w.length = w) :
    text.drop s = w ++ text.drop (s + w.length) := by
  rw [slice, Int.toNat_natCast] at h
  conv_lhs => rw [← List.take_append_drop w.length (text.drop s), h, List.drop_drop]

/-- Of two lines with a break between them, the text holds the first, the break, and what the second begins. -/
theorem Parted.exists_drop_eq {s : Nat} (h : Parted text l l') (hstart : l.start = s)
    (hstands : slice text l.start l.text.length = l.text) :
    ∃ (brk : Break) (s' : Nat), s' = s + (l.text.length + brk.chars.length) ∧ l'.start = s' ∧
      text.drop s = l.text ++ brk.chars ++ text.drop s' ∧ ¬(brk = .cr ∧ (text.drop s').head? = some '\n') := by
  obtain ⟨brk, hnext, hbreak, hlf⟩ := h
  have hstop : l.stop = (s + l.text.length : Nat) := by
    rw [Line.stop, hstart]
    push_cast
    rfl
  have hnext' : l'.start = (s + (l.text.length + brk.chars.length) : Nat) := by
    rw [hnext, hstop]
    push_cast
    omega
  rw [hstart] at hstands
  rw [hstop] at hbreak
  rw [hnext', Int.toNat_natCast] at hlf
  refine ⟨brk, _, rfl, hnext', ?_, by rwa [List.head?_drop]⟩
  rw [drop_eq_of_slice hstands, drop_eq_of_slice hbreak, List.append_assoc, Nat.add_assoc]

/-- The last line is the rest of the text. -/
theorem drop_eq_of_stop {s : Nat} (hstart : l.start = s) (hstands : slice text l.start l.text.length = l.text)
    (hstop : l.stop = text.length) : text.drop s = l.text := by
  rw [Line.stop, hstart] at hstop
  rw [hstart] at hstands
  rw [drop_eq_of_slice hstands, List.drop_eq_nil_of_le (by omega), List.append_nil]

theorem CutFrom.eq_linesFrom {s : Nat} (h : CutFrom text number s lines) :
    lines = linesFrom number s (text.drop s) := by
  induction lines generalizing number s with
  | nil => exact absurd h.first (by simp)
  | cons l rest ih =>
    cases rest with
    | nil =>
      obtain ⟨hnumber, hstart, hunbroken, hstands, hstop⟩ := cutFrom_singleton.1 h
      rw [drop_eq_of_stop hstart hstands hstop, linesFrom_of_unbroken hunbroken, ← hnumber, ← hstart]
    | cons l' rest =>
      obtain ⟨hnumber, hstart, hunbroken, hstands, hparted, hrest⟩ := cutFrom_cons_cons.1 h
      obtain ⟨brk, s', hs', hnext, hdrop, hlf⟩ := hparted.exists_drop_eq hstart hstands
      rw [hnext] at hrest
      have hl : l = ⟨number, s, l.text⟩ := by rw [← hnumber, ← hstart]
      rw [hdrop, linesFrom_break hunbroken hlf, ← hl, ih hrest, hs', Int.natCast_add]

/-- What stands behind a part of a text. -/
theorem slice_append (front w back : List Char) : slice (front ++ w ++ back) front.length w.length = w := by
  rw [slice, Int.toNat_natCast, List.append_assoc, List.drop_left, List.take_left]

theorem parted_of_eq {front line back : List Char} {brk : Break} (hlf : ¬(brk = .cr ∧ back.head? = some '\n'))
    (hstart : l'.start = (front ++ line ++ brk.chars).length) :
    Parted (front ++ (line ++ brk.chars ++ back)) ⟨number, front.length, line⟩ l' := by
  have htext : front ++ (line ++ brk.chars ++ back) = front ++ line ++ brk.chars ++ back := by simp
  have hstop : (⟨number, front.length, line⟩ : Line).stop = (front ++ line).length := by simp [Line.stop]
  rw [htext]
  refine ⟨brk, ?_, ?_, ?_⟩
  · rw [hstart, hstop, ← Int.natCast_add, ← List.length_append]
  · rw [hstop]
    exact slice_append (front ++ line) brk.chars back
  · rw [hstart, Int.toNat_natCast, List.getElem?_append_right (Nat.le_refl _), Nat.sub_self,
      ← List.head?_eq_getElem?]
    exact hlf

theorem cutFrom_linesFrom (front cs : List Char) (number : Int) :
    CutFrom (front ++ cs) number front.length (linesFrom number front.length cs) := by
  -- on the length of the text: behind a break it is shorter
  induction hn : cs.length using Nat.strongRecOn generalizing front cs number with
  | ind n ih =>
    subst hn
    cases hcut : cut cs with
    | mk line rest =>
      cases rest with
      | none =>
        obtain ⟨rfl, hall⟩ := eq_of_cut_none hcut
        have hunbroken := unbroken_of_isBreakChar hall
        rw [linesFrom_of_unbroken hunbroken, cutFrom_singleton]
        refine ⟨rfl, rfl, hunbroken, ?_, ?_⟩
        · simpa using slice_append front line []
        · simp [Line.stop]
      | some more =>
        obtain ⟨width, back⟩ := more
        have hlt := length_of_cut hcut
        obtain ⟨brk, rfl, -, hall, hlf⟩ := exists_break_of_cut hcut
        have hunbroken := unbroken_of_isBreakChar hall
        have hback := ih back.length hlt (front ++ line ++ brk.chars) back (number + 1) rfl
        have hnext : (front.length : Int) + (line.length + brk.chars.length : Nat) =
            (front ++ line ++ brk.chars).length := by
          rw [← Int.natCast_add, List.append_assoc, List.length_append, List.length_append]
        rw [linesFrom_break hunbroken hlf, hnext]
        cases hlines : linesFrom (number + 1) (front ++ line ++ brk.chars).length back with
        | nil => exact absurd (hlines ▸ hback).first (by simp)
        | cons l' rest =>
          rw [hlines] at hback
          have hstart : l'.start = (front ++ line ++ brk.chars).length := by simpa using hback.first
          refine cutFrom_cons_cons.2 ⟨rfl, rfl, hunbroken, ?_, parted_of_eq hlf hstart, ?_⟩
          · simpa using slice_append front line (brk.chars ++ back)
          · rw [hstart]
            simpa using hback

/-- There is one way to cut a text into lines. -/
theorem cutFrom_iff : CutFrom text 1 0 lines ↔ lines = (ofText text).lines := by
  constructor
  · intro h
    exact CutFrom.eq_linesFrom (s := 0) h
  · rintro rfl
    exact cutFrom_linesFrom [] text 1

end CutFrom

/-! ## The text of some lines -/

/-- Lines with breaks between them, as one text. -/
def weave (lines : List Line) (breaks : List Break) : List Char :=
  (List.zipWith (fun l between => l.text ++ between) lines (breaks.map Break.chars ++ [[]])).flatten

theorem CutFrom.exists_breaks {text : List Char} {number : Int} {s : Nat} {lines : List Line}
    (h : CutFrom text number s lines) :
    ∃ breaks : List Break, breaks.length + 1 = lines.length ∧ text.drop s = weave lines breaks := by
  induction lines generalizing number s with
  | nil => exact absurd h.first (by simp)
  | cons l rest ih =>
    cases rest with
    | nil =>
      obtain ⟨-, hstart, -, hstands, hstop⟩ := cutFrom_singleton.1 h
      refine ⟨[], rfl, ?_⟩
      rw [drop_eq_of_stop hstart hstands hstop]
      simp [weave]
    | cons l' rest =>
      obtain ⟨-, hstart, -, hstands, hparted, hrest⟩ := cutFrom_cons_cons.1 h
      obtain ⟨brk, s', -, hnext, hdrop, -⟩ := hparted.exists_drop_eq hstart hstands
      rw [hnext] at hrest
      obtain ⟨breaks, hlength, hweave⟩ := ih hrest
      refine ⟨brk :: breaks, by simpa using hlength, ?_⟩
      rw [hdrop, hweave]
      rfl

/-- **Cutting a text and joining lines are inverse to each other.** Lines that are joined by breaks are found
again, each numbered and at its place. A text is cut in the one way in which unbroken lines, numbered from one,
fill it with exactly one break between any two of them, so that the lines and the breaks are the text. -/
theorem cut_join_inverse :
    (∀ (lines : List (List Char)) (brk : Break), lines ≠ [] → (∀ line ∈ lines, Unbroken line) →
      ofLines lines brk.chars =
        { lines := lines.mapIdx fun i line => ⟨1 + i, joinedStart lines brk i, line⟩
          length := (lines.map List.length).sum + (lines.length - 1) * brk.chars.length }) ∧
      ∀ text : List Char, (∀ lines : List Line, CutFrom text 1 0 lines ↔ lines = (ofText text).lines) ∧
        ∃ breaks : List Break, breaks.length + 1 = (ofText text).lines.length ∧
          text = weave (ofText text).lines breaks := by
  refine ⟨fun lines brk hne hunbroken => ?_, fun text => ⟨fun _ => cutFrom_iff, ?_⟩⟩
  · rw [ofLines, ofText, linesFrom_intercalate hne hunbroken, length_intercalate]
    simp only [Int.zero_add]
  · have hcut : CutFrom text 1 (0 : Nat) (ofText text).lines := cutFrom_iff.2 rfl
    simpa using hcut.exists_breaks

/-- Empty lines at both ends, and a carriage return before a line break of two characters. -/
theorem cut_join_inverse_mixed :
    let lines := [[], ['a'], []]
    let found : List Line := [⟨1, 0, ['a']⟩, ⟨2, 2, []⟩, ⟨3, 4, ['b']⟩]
    (lines ≠ [] ∧ ∀ line ∈ lines, Unbroken line) ∧
      ofLines lines Break.cr.chars = ⟨[⟨1, 0, []⟩, ⟨2, 1, ['a']⟩, ⟨3, 3, []⟩], 3⟩ ∧
      CutFrom "a\r\r\nb".toList 1 0 found := by
  intro lines found
  have hunbroken : ∀ line ∈ lines, Unbroken line := by simp [lines, Unbroken]
  have hfound : found = (ofText "a\r\r\nb".toList).lines := by
    rw [ofText, linesFrom_eq_linesAt]
    decide
  refine ⟨⟨List.cons_ne_nil _ _, hunbroken⟩, ?_, ((cut_join_inverse.2 _).1 found).2 hfound⟩
  rw [cut_join_inverse.1 lines .cr (List.cons_ne_nil _ _) hunbroken]
  decide

end Document

end Landmarks
