import Landmarks.Str
import Landmarks.Yaml.Cursor
import Landmarks.Yaml.Error

/-!
# The text of scalars

* `quotedScalar` : between single or double quotes.
* `plainScalar` : without quotes, on one line or several.
* `blockScalar` : behind `|` or `>`, line by line.

Each gives the text of the scalar and the place behind it; only between double quotes there are
escapes, and with them halves of pairs. In all of them a single line break inside counts as a space
where lines are folded.
-/

namespace Landmarks.Yaml

open Text (Point)

/-! ## Quoted scalars -/

/-- The characters of one-letter escapes. -/
def escapes : List (Char × Nat) :=
  [('0', 0x00), ('a', 0x07), ('b', 0x08), ('t', 0x09), ('\t', 0x09), ('n', 0x0A), ('v', 0x0B),
    ('f', 0x0C), ('r', 0x0D), ('e', 0x1B), (' ', 0x20), ('"', 0x22), ('\\', 0x5C), ('/', 0x2F),
    ('N', 0x85), ('_', 0xA0), ('L', 0x2028), ('P', 0x2029)]

/-- How many hexadecimal digits follow a numeric escape. -/
def escapeWidth? : Char → Option Nat
  | 'x' => some 2
  | 'u' => some 4
  | 'U' => some 8
  | _ => none

/-- The point with a code. Each escape gives a point of its own, so the halves of a pair that are both
escaped stay halves. -/
def pointOfCode (n : Nat) : Except Error Point :=
  if n ≥ 0x80000000 then .error .overflow
  else if n ≥ 0x110000 then .error .badCodePoint
  else .ok (.ofCode n)

/-- The line breaks behind a line break, with the blanks around them; a document mark may not stand
there. -/
def quotedBreaks : (fuel : Nat) → Cursor → Except Error (List Char × Cursor)
  | 0, c => .ok ([], c)
  | fuel + 1, c =>
    if c.atSeparator then .error .malformed
    else
      let c := c.skip fun ch => ch == ' ' || ch == '\t'
      if isBreak c.peek then do
        let (br, c) := c.lineBreak
        let (more, c) ← quotedBreaks fuel c
        return (br ++ more, c)
      else .ok ([], c)

/-- Points of a quoted scalar up to a blank or the closing quote. -/
def quotedRun (double : Bool) : (fuel : Nat) → Cursor → Except Error (List Point × Cursor)
  | 0, c => .ok ([], c)
  | fuel + 1, c =>
    let (run, c) := c.span fun ch => !(among "'\"\\" ch || endsWord ch)
    let ch := c.peek
    let run := run.map Point.char
    let continueWith (piece : List Point) (c : Cursor) : Except Error (List Point × Cursor) := do
      let (more, c) ← quotedRun double fuel c
      return (run ++ piece ++ more, c)
    if !double && ch == '\x27' && c.peekAt 1 == '\x27' then continueWith [.char '\x27'] (c.advance 2)
    else if (double && ch == '\x27') || (!double && (ch == '"' || ch == '\\')) then
      continueWith [.char ch] c.next
    else if double && ch == '\\' then
      let c := c.next
      let ch := c.peek
      match escapes.find? fun e => e.1 == ch with
      | some (_, code) => continueWith [.ofCode code] c.next
      | none =>
        match escapeWidth? ch with
        | some width =>
          let c := c.next
          let digits := c.rest.take width
          if digits.length < width then .error .malformed
          else
            match Text.hexNumber? digits with
            | some code => do continueWith [← pointOfCode code] (c.advance width)
            | none => .error .malformed
        | none =>
          if isBreak ch then do
            let (breaks, c) ← quotedBreaks (c.rest.length + 1) c.lineBreak.2
            continueWith (breaks.map .char) c
          else .error .malformed
    else .ok (run, c)

/-- Folded lines: a lone line feed counts as a space, further breaks stand for themselves. -/
def fold (br breaks : List Char) : List Char :=
  (if br != ['\n'] then br else if breaks.isEmpty then [' '] else []) ++ breaks

/-- The blanks and breaks inside a quoted scalar. -/
def quotedSpaces (c : Cursor) : Except Error (List Char × Cursor) :=
  let (blanks, c) := c.span fun ch => ch == ' ' || ch == '\t'
  if c.rest.isEmpty then .error .malformed
  else if isBreak c.peek then do
    let (br, c) := c.lineBreak
    let (breaks, c) ← quotedBreaks (c.rest.length + 1) c
    return (fold br breaks, c)
  else .ok (blanks, c)

/-- The rest of a quoted scalar, up to and past its closing quote. -/
def quotedRest (quote : Char) : (fuel : Nat) → Cursor → Except Error (List Point × Cursor)
  | 0, _ => .error .malformed
  | fuel + 1, c => do
    let (run, c) ← quotedRun (quote == '"') (c.rest.length + 1) c
    if c.peek == quote then return (run, c.next)
    else
      let (blanks, c) ← quotedSpaces c
      let (more, c) ← quotedRest quote fuel c
      return (run ++ blanks.map .char ++ more, c)

/-- A scalar between quotes, from its opening quote. -/
def quotedScalar (c : Cursor) : Except Error (Str × Cursor) := do
  let (points, c) ← quotedRest c.peek (c.rest.length + 1) c.next
  return (⟨points⟩, c)

/-! ## Plain scalars -/

/-- How many characters of a plain scalar stand here before a blank or an indicator. -/
def plainLength (inFlow : Bool) : List Char → Nat
  | [] => 0
  | ch :: rest =>
    let following := rest.headD endMark
    if endsWord ch then 0
    else if ch == ':' && (endsWord following || (inFlow && among ",[]\x7b\x7d" following)) then 0
    else if inFlow && among ",?[]\x7b\x7d" ch then 0
    else plainLength inFlow rest + 1

/-- The line breaks behind a line break of a plain scalar; none before a document mark. -/
def plainBreaks : (fuel : Nat) → Cursor → Option (List Char × Cursor)
  | 0, c => some ([], c)
  | fuel + 1, c =>
    if c.peek == ' ' then plainBreaks fuel c.next
    else if isBreak c.peek then
      let (br, c) := c.lineBreak
      if c.atSeparator then none
      else (plainBreaks fuel c).map fun (more, c) => (br ++ more, c)
    else some ([], c)

/-- What stands between two pieces of a plain scalar. -/
structure PlainGap where
  text : List Char
  cursor : Cursor
  brokeLine : Bool

/-- The blanks and breaks behind a piece of a plain scalar. Where the scalar cannot go on they have no
text. -/
def plainGap (c : Cursor) : PlainGap :=
  let (blanks, c) := c.span (· == ' ')
  if isBreak c.peek then
    let (br, c) := c.lineBreak
    if c.atSeparator then ⟨[], c, true⟩
    else
      match plainBreaks (c.rest.length + 1) c with
      | some (breaks, c) => ⟨fold br breaks, c, true⟩
      | none => ⟨[], c, true⟩
  else ⟨blanks, c, false⟩

/-- A plain scalar: its text, the place behind it, and whether it ended behind a line break. -/
structure Plain where
  text : List Char
  cursor : Cursor
  brokeLine : Bool

/-- The pieces of a plain scalar from here on; `gap` stands before the next one. -/
def plainPieces (inFlow : Bool) (indent : Int) :
    (fuel : Nat) → (gap : List Char) → (brokeLine : Bool) → Cursor → Plain
  | 0, _, brokeLine, c => ⟨[], c, brokeLine⟩
  | fuel + 1, gap, brokeLine, c =>
    let length := if c.peek == '#' then 0 else plainLength inFlow c.rest
    if length == 0 then ⟨[], c, brokeLine⟩
    else
      let piece := gap ++ c.rest.take length
      let g := plainGap (c.advance length)
      if g.text.isEmpty || g.cursor.peek == '#' || (!inFlow && (g.cursor.column : Int) < indent) then
        ⟨piece, g.cursor, g.brokeLine⟩
      else
        let more := plainPieces inFlow indent fuel g.text g.brokeLine g.cursor
        { more with text := piece ++ more.text }

/-- A plain scalar of a collection with the given indent. -/
def plainScalar (inFlow : Bool) (indent : Int) (c : Cursor) : Plain :=
  plainPieces inFlow (indent + 1) (c.rest.length + 1) [] false c

/-! ## Block scalars -/

/-- What becomes of the line breaks at the end of a block scalar. -/
inductive Chomping
  | clip
  | strip
  | keep
  deriving DecidableEq, Repr

/-- A sign of chomping. -/
def chomping? : Char → Option Chomping
  | '+' => some .keep
  | '-' => some .strip
  | _ => none

/-- An indentation digit. -/
def increment? (ch : Char) : Option Nat :=
  if '0' ≤ ch && ch ≤ '9' then some (ch.toNat - 0x30) else none

/-- The indicators of a block scalar, in either order. -/
def blockIndicators (c : Cursor) : Except Error (Chomping × Option Nat × Cursor) := do
  let (chomp, incr, c) :=
    match chomping? c.peek with
    | some ch =>
      let c := c.next
      match increment? c.peek with
      | some n => (ch, some n, c.next)
      | none => (ch, none, c)
    | none =>
      match increment? c.peek with
      | some n =>
        let c := c.next
        match chomping? c.peek with
        | some ch => (ch, some n, c.next)
        | none => (.clip, some n, c)
      | none => (.clip, none, c)
  if incr == some 0 || !endsToken c.peek then .error .malformed else .ok (chomp, incr, c)

/-- Past the rest of a line that may hold only a comment. -/
def ignoredLine (c : Cursor) : Except Error Cursor :=
  let c := (c.skip (· == ' ')).skipComment
  if endsLine c.peek then .ok c.lineBreak.2 else .error .malformed

/-- The blank lines at the start of a block scalar and the greatest column reached in them. -/
def blockLead : (fuel : Nat) → (deepest : Nat) → Cursor → List Char × Nat × Cursor
  | 0, deepest, c => ([], deepest, c)
  | fuel + 1, deepest, c =>
    if c.peek == ' ' then
      let c := c.next
      blockLead fuel (max deepest c.column) c
    else if isBreak c.peek then
      let (br, c) := c.lineBreak
      let (more, deepest, c) := blockLead fuel deepest c
      (br ++ more, deepest, c)
    else ([], deepest, c)

/-- The blank lines between two lines of a block scalar, past the indent of the second. -/
def blockBreaks (indent : Nat) : (fuel : Nat) → Cursor → List Char × Cursor
  | 0, c => ([], c)
  | fuel + 1, c =>
    let c := c.skipSpaces (indent - c.column)
    if isBreak c.peek then
      let (br, c) := c.lineBreak
      let (more, c) := blockBreaks indent fuel c
      (br ++ more, c)
    else ([], c)

/-- The lines of a block scalar; `breaks` are the blank lines before the next one. Gives the text up
to the last line, the break that ends it, and the blank lines behind it. -/
def blockLines (folded : Bool) (indent : Nat) :
    (fuel : Nat) → (breaks : List Char) → Cursor → List Char × List Char × List Char × Cursor
  | 0, breaks, c => ([], [], breaks, c)
  | fuel + 1, breaks, c =>
    if c.column == indent && !c.rest.isEmpty then
      let indented := c.peek == ' ' || c.peek == '\t'
      let (line, c) := c.span (!isBreak ·)
      let (br, c) := c.lineBreak
      let (after, c) := blockBreaks indent (c.rest.length + 1) c
      if c.column == indent && !c.rest.isEmpty then
        let deeper := c.peek == ' ' || c.peek == '\t'
        let joint :=
          if folded && br == ['\n'] && !indented && !deeper then
            if after.isEmpty then [' '] else []
          else br
        let (more, last, trailing, c) := blockLines folded indent fuel after c
        (breaks ++ line ++ joint ++ more, last, trailing, c)
      else (breaks ++ line, br, after, c)
    else ([], [], breaks, c)

/-- A block scalar of a collection with the given indent, from its `|` or `>`. -/
def blockScalar (indent : Int) (c : Cursor) : Except Error (List Char × Cursor) := do
  let folded := c.peek == '>'
  let (chomp, incr, c) ← blockIndicators c.next
  let c ← ignoredLine c
  let least := (max (indent + 1) 1).toNat
  let (width, breaks, c) :=
    match incr with
    | some n =>
      let width := least + n - 1
      (width, blockBreaks width (c.rest.length + 1) c)
    | none =>
      let (breaks, deepest, c) := blockLead (c.rest.length + 1) 0 c
      (max least deepest, breaks, c)
  let (text, last, trailing, c) := blockLines folded width (c.rest.length + 1) breaks c
  return (text ++ (if chomp == .strip then [] else last) ++ (if chomp == .keep then trailing else []), c)

end Landmarks.Yaml
