import Landmarks.Proofs.FaultyScans
import Landmarks.Proofs.LineStarts

/-!
# Scanning line by line

A scan marks every line by itself, so the markers of a text follow from where its lines start.

* `marked?` : the marker of a text, if its classification gives one. `Line.mark` : that of a line, at its place.
* `scan_eq_filterMap` : a scan is the marks of the lines, in order.
* `scan_eq_lineStarts` : the markers of a text, said of its line starts alone.
* `scan_append_break` : the markers of two texts with a break between them are those of both.
-/

namespace Landmarks

open Document

/-- The marker that a classification gives, if it does not fail. -/
def answer? : Except Fault (Option Marker) → Option Marker
  | .ok answer => answer
  | .error _ => none

/-- The marker of a text, if its classification gives one. -/
def marked? (mode : Mode) (flags : Flags) (cs : List Char) : Option Marker := answer? (classify mode flags cs)

theorem classify_of_marked? {mode : Mode} {flags : Flags} {cs : List Char} {m : Marker}
    (h : marked? mode flags cs = some m) : classify mode flags cs = .ok (some m) := by
  rw [marked?] at h
  cases hclass : classify mode flags cs with
  | error fault => simp [hclass, answer?] at h
  | ok answer => rw [hclass] at h; exact congrArg Except.ok h

/-- The marker of a line, at the place of the line. -/
def Line.mark (mode : Mode) (flags : Flags) (l : Line) : Option Marker :=
  (marked? mode flags l.text).map fun m => { m with offset := l.start, line := l.number }

/-- A line further down. -/
def Line.shift (offset lines : Int) (l : Line) : Line :=
  { l with start := l.start + offset, number := l.number + lines }

/-- A marker further down. -/
def Marker.shift (offset lines : Int) (m : Marker) : Marker :=
  { m with offset := m.offset + offset, line := m.line + lines }

variable (mode : Mode) (flags : Flags)

theorem placed?_rules (l : Line) : l.placed? mode.rules flags = l.mark mode flags := by
  rw [Line.placed?, Line.mark, marked?, classify]
  cases classifyWith mode.rules flags l.text with
  | error fault => rfl
  | ok answer => cases answer <;> rfl

theorem scan_eq_filterMap (text : List Char) :
    scan mode flags text = (linesAt 1 0 text).filterMap (Line.mark mode flags) := by
  rw [← linesFrom_eq_linesAt, scan, Document.scan, scanWith_eq]
  exact congrArg (List.filterMap · _) (funext (placed?_rules mode flags))

/-! ## Places -/

theorem scan_eq_starts (text : List Char) :
    scan mode flags text = (lineStarts text).filterMap fun p =>
      (marked? mode flags (lineAt text p)).map fun m =>
        { m with offset := p, line := 1 + linesBefore text p } := by
  rw [scan_eq_filterMap, linesAt, List.filterMap_map]
  congr 1
  funext p
  simp only [Function.comp_apply, Line.mark, Int.zero_add]

/-- **The markers of a text stand at its line starts**: each line start gives the marker of the run
that begins there, if that run has one, with the number of line starts up to it. -/
theorem scan_eq_lineStarts (text : List Char) :
    scan mode flags text =
        (lineStarts text).filterMap (fun p =>
          (marked? mode flags (lineAt text p)).map fun m =>
            { m with offset := p, line := 1 + linesBefore text p }) ∧
      (scan mode flags text).Pairwise (fun m n => m.offset < n.offset) := by
  refine ⟨scan_eq_starts mode flags text, ?_⟩
  rw [scan_eq_starts, List.pairwise_filterMap]
  refine (lineStarts_pairwise text).imp fun hlt m hm n hn => ?_
  obtain ⟨m', -, rfl⟩ := Option.map_eq_some_iff.1 hm
  obtain ⟨n', -, rfl⟩ := Option.map_eq_some_iff.1 hn
  exact Int.ofNat_lt.2 hlt

/-! ## Texts with a break between them -/

theorem linesAt_shift (number start offset lines : Int) (text : List Char) :
    linesAt (number + lines) (start + offset) text =
      (linesAt number start text).map (Line.shift offset lines) := by
  rw [linesAt, linesAt, List.map_map]
  refine List.map_congr_left fun p _ => ?_
  rw [Function.comp_apply, Line.shift, Line.mk.injEq]
  dsimp only
  refine ⟨?_, ?_, rfl⟩ <;> omega

theorem mark_shift (offset lines : Int) (l : Line) :
    (l.shift offset lines).mark mode flags = (l.mark mode flags).map (Marker.shift offset lines) := by
  rw [Line.mark, Line.mark, Option.map_map]
  rfl

theorem length_linesAt (number start : Int) (text : List Char) :
    (linesAt number start text).length = (lineStarts text).length := List.length_map _

/-- **Scanning is local to lines**: behind a break that both sides leave alone, a text is marked as it is
by itself, further down by what stands before it. -/
theorem scan_append_break (a b : List Char) (brk : Break)
    (ha : ¬(brk = .lf ∧ ['\r'] <:+ a)) (hb : ¬(brk = .cr ∧ ['\n'] <+: b)) :
    scan mode flags (a ++ brk.chars ++ b) =
      scan mode flags a ++ (scan mode flags b).map
        (Marker.shift (a.length + brk.chars.length) (ofText a).lines.length) := by
  have hsep : brk.Separates a b := by
    refine ⟨fun h => ha ⟨h.1, ?_⟩, fun h => hb ⟨h.1, ?_⟩⟩
    · obtain ⟨front, rfl⟩ := List.getLast?_eq_some_iff.1 h.2
      exact List.suffix_append _ _
    · obtain ⟨tail, rfl⟩ := List.head?_eq_some_iff.1 h.2
      exact List.prefix_append _ _
  have hlines : (ofText a).lines.length = (lineStarts a).length := by
    rw [ofText, linesFrom_eq_linesAt, length_linesAt]
  rw [scan_eq_filterMap, scan_eq_filterMap, scan_eq_filterMap, linesAt_seam hsep, List.filterMap_append,
    linesAt_shift, List.filterMap_map, List.map_filterMap, hlines]
  congr 2
  funext l
  rw [Function.comp_apply, mark_shift]
  push_cast
  rfl

/-- A carriage return before the break and a line feed behind it are breaks of their own. -/
theorem scan_append_break_crlf :
    ¬(Break.crlf = .lf ∧ ['\r'] <:+ "class A\r".toList) ∧
      ¬(Break.crlf = .cr ∧ ['\n'] <+: "\nclass B".toList) ∧
      scan .clike {} ("class A\r".toList ++ Break.crlf.chars ++ "\nclass B".toList) =
        [⟨.type, "A".toList, 0, 1⟩, ⟨.type, "B".toList, 11, 4⟩] := by
  refine ⟨by decide, by decide, ?_⟩
  rw [scan_append_break .clike {} _ _ .crlf (by decide) (by decide), scan_eq_filterMap, scan_eq_filterMap,
    ofText, linesFrom_eq_linesAt]
  decide

end Landmarks
