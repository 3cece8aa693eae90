/-!
# Documents

* `Line` : a line of a document without its break, with its number and the offset of its start.
* `Document.ofText` : a text cut at CR LF, CR and LF; a text without a break is one line.
* `Document.ofLines` : a text given as lines and what stands between them.
* `Document.get?` : a line by its index; a negative index counts from the end.
-/

namespace Landmarks

/-- A line without its break. Numbers start at one, offsets at zero. -/
structure Line where
  number : Int
  start : Int
  text : List Char
  deriving DecidableEq, Repr

/-- A text cut into lines, with the length of the whole. -/
structure Document where
  lines : List Line
  length : Nat
  deriving DecidableEq, Repr

namespace Document

/-- The first line of a text and, if a break ends it, the length of the break and what follows. -/
def cut : List Char → List Char × Option (Nat × List Char)
  | [] => ([], none)
  | '\r' :: '\n' :: cs => ([], some (2, cs))
  | '\r' :: cs => ([], some (1, cs))
  | '\n' :: cs => ([], some (1, cs))
  | c :: cs =>
    match cut cs with
    | (line, rest) => (c :: line, rest)

theorem length_of_cut {cs line rest : List Char} {width : Nat}
    (h : cut cs = (line, some (width, rest))) : rest.length < cs.length := by
  fun_induction cut cs generalizing line with
  | case1 => simp at h
  | case2 => simp at h; rw [← h.2.2, List.length_cons, List.length_cons]; omega
  | case3 => simp at h; simp [← h.2.2]
  | case4 => simp at h; simp [← h.2.2]
  | case5 c cs _ _ _ line' rest' hc ih =>
    simp only [Prod.mk.injEq] at h
    rw [h.2] at hc
    have := ih hc
    simp only [List.length_cons]
    omega

/-- The lines of a text whose first line has the given number and start. -/
def linesFrom (number start : Int) (cs : List Char) : List Line :=
  match _h : cut cs with
  | (line, none) => [⟨number, start, line⟩]
  | (line, some (width, rest)) =>
    ⟨number, start, line⟩ :: linesFrom (number + 1) (start + line.length + width) rest
termination_by cs.length
decreasing_by exact length_of_cut _h

/-- A text as a document. -/
def ofText (cs : List Char) : Document := ⟨linesFrom 1 0 cs, cs.length⟩

/-- Lines with a separator between them, as a document. -/
def ofLines (lines : List (List Char)) (newline : List Char) : Document :=
  ofText (List.intercalate newline lines)

/-- The line with an index; `-1` is the last one. -/
def get? (d : Document) (index : Int) : Option Line :=
  let i := if index < 0 then index + d.lines.length else index
  if i < 0 then none else d.lines[i.toNat]?

end Document

end Landmarks
