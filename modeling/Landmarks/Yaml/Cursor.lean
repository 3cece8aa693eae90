/-!
# Places in a YAML text

* `Cursor` : what is left of a text, with the line and the column of its first character.
* `Cursor.peek`, `Cursor.peekAt` : the next characters; past the end there are end marks.
* `Cursor.lineBreak` : one line break, as it counts in a scalar.
* the classes of characters that the grammar speaks of.
-/

namespace Landmarks.Yaml

/-- The character that stands for the end of a text; a text never holds it. -/
def endMark : Char := '\x00'

/-- The byte order mark. -/
def byteOrderMark : Char := Char.ofNat 0xFEFF

/-- Characters that a text may hold. -/
def isAllowed (c : Char) : Bool :=
  let n := c.toNat
  n == 0x09 || n == 0x0A || n == 0x0D || (0x20 ≤ n && n ≤ 0x7E) || n == 0x85 ||
    (0xA0 ≤ n && n ≤ 0xD7FF) || (0xE000 ≤ n && n ≤ 0xFFFD) || 0x10000 ≤ n

/-- Line breaks. -/
def isBreak (c : Char) : Bool :=
  c == '\n' || c == '\r' || c.toNat == 0x85 || c.toNat == 0x2028 || c.toNat == 0x2029

/-- A line break or the end. -/
def endsLine (c : Char) : Bool := c == endMark || isBreak c

/-- A space, a line break or the end. -/
def endsToken (c : Char) : Bool := c == ' ' || endsLine c

/-- A space, a tab, a line break or the end. -/
def endsWord (c : Char) : Bool := c == '\t' || endsToken c

/-- ASCII letters, digits, the hyphen and the underscore. -/
def isNameChar (c : Char) : Bool :=
  ('0' ≤ c && c ≤ '9') || ('A' ≤ c && c ≤ 'Z') || ('a' ≤ c && c ≤ 'z') || c == '-' || c == '_'

/-- Whether a character is one of those of a string. -/
def among (s : String) (c : Char) : Bool := s.toList.contains c

/-- A place in a text. -/
structure Cursor where
  rest : List Char
  index : Nat := 0
  line : Nat := 0
  column : Nat := 0

namespace Cursor

/-- The next character. -/
def peek (c : Cursor) : Char := c.rest.headD endMark

/-- The character `k` places further on. -/
def peekAt (c : Cursor) (k : Nat) : Char := c.rest.getD k endMark

/-- Past one character. -/
def next (c : Cursor) : Cursor :=
  match c.rest with
  | [] => c
  | ch :: rest =>
    if isBreak ch && !(ch == '\r' && rest.head? == some '\n') then
      ⟨rest, c.index + 1, c.line + 1, 0⟩
    else ⟨rest, c.index + 1, c.line, if ch == byteOrderMark then c.column else c.column + 1⟩

/-- Past `n` characters. -/
def advance : (n : Nat) → Cursor → Cursor
  | 0, c => c
  | n + 1, c => advance n c.next

/-- The longest run of a class of characters, and the place behind it. -/
def span (p : Char → Bool) (c : Cursor) : List Char × Cursor :=
  let run := c.rest.takeWhile p
  (run, c.advance run.length)

/-- Past the longest run of a class of characters. -/
def skip (p : Char → Bool) (c : Cursor) : Cursor := (c.span p).2

/-- Past at most `n` spaces. -/
def skipSpaces : (n : Nat) → Cursor → Cursor
  | 0, c => c
  | n + 1, c => if c.peek == ' ' then skipSpaces n c.next else c

/-- Past one line break, if there is one, and what it counts as in a scalar. -/
def lineBreak (c : Cursor) : List Char × Cursor :=
  let ch := c.peek
  if ch == '\r' && c.peekAt 1 == '\n' then (['\n'], c.advance 2)
  else if ch == '\n' || ch == '\r' || ch.toNat == 0x85 then (['\n'], c.next)
  else if isBreak ch then ([ch], c.next)
  else ([], c)

/-- Past a comment. -/
def skipComment (c : Cursor) : Cursor := if c.peek == '#' then c.skip (!isBreak ·) else c

/-- Whether one of the document marks `---` and `...` stands here. -/
def atMark (c : Cursor) (mark : String) : Bool :=
  mark.toList.isPrefixOf c.rest && endsWord (c.peekAt 3)

/-- Whether a document mark stands here. -/
def atSeparator (c : Cursor) : Bool := c.atMark "---" || c.atMark "..."

end Cursor

end Landmarks.Yaml
