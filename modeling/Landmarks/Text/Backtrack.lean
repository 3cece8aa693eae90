/-!
# Matching with backtracking

A matcher is given what is asked of the text behind it, a `Next`, and answers for the text from
here on. When the text behind refuses, the matcher makes its next choice, so the first answer in
order of preference is the one given.

* `many`, `many1` : a run of characters of a class, the longest first.
* `grab`, `grabLeast` : a non-empty run that is handed on, the longest or the shortest first.
* `optionally`, `anyOf`, `manyOf` : a part that may be missing, one of several words, and a
  row of such words.
-/

namespace Landmarks.Text

/-- What is asked of the text behind a match: an answer, or a refusal. -/
abbrev Next (α : Type) := List Char → Option α

variable {α : Type}

/-- The first answer, or else the second. -/
@[macro_inline] def orElse (first second : Option α) : Option α :=
  match first with
  | some a => some a
  | none => second

/-- A run of `p` characters, possibly empty. -/
def many (p : Char → Bool) (k : Next α) : Next α
  | [] => k []
  | c :: cs => if p c then orElse (many p k cs) (k (c :: cs)) else k (c :: cs)

/-- One character of the class. -/
def one (p : Char → Bool) (k : Next α) : Next α
  | [] => none
  | c :: cs => if p c then k cs else none

/-- A non-empty run of `p` characters. -/
def many1 (p : Char → Bool) (k : Next α) : Next α := one p (many p k)

/-- A non-empty run of `p` characters, the longest first, handed on to what follows. -/
def grab (p : Char → Bool) (k : List Char → Next α) : Next α
  | [] => none
  | c :: cs => if p c then orElse (grab p (fun w => k (c :: w)) cs) (k [c] cs) else none

/-- A non-empty run of `p` characters, the shortest first, handed on to what follows. -/
def grabLeast (p : Char → Bool) (k : List Char → Next α) : Next α
  | [] => none
  | c :: cs => if p c then orElse (k [c] cs) (grabLeast p (fun w => k (c :: w)) cs) else none

/-- The text `w` itself. -/
def word (w : List Char) (k : Next α) : Next α :=
  fun cs => if w.isPrefixOf cs then k (cs.drop w.length) else none

/-- A part that may be missing; present is preferred. -/
def optionally (m : Next α → Next α) (k : Next α) : Next α := fun cs => orElse (m k cs) (k cs)

/-- One of the words, the first preferred. -/
def anyOf (ws : List (List Char)) (k : Next α) : Next α := fun cs => ws.findSome? fun w => word w k cs

/-- A row of words, each followed by what `gap` asks, as many as possible preferred. A word counts
only if it takes something off the text. -/
def manyOf (ws : List (List Char)) (gap : Next α → Next α) (k : Next α) (cs : List Char) : Option α :=
  orElse
    (ws.findSome? fun w =>
      word w (gap fun rest => if _ : rest.length < cs.length then manyOf ws gap k rest else none) cs)
    (k cs)
termination_by cs.length

/-- The end of the text, or a line feed that ends it. -/
def atEnd (k : Next α) : Next α
  | [] => k []
  | ['\n'] => k ['\n']
  | _ => none

end Landmarks.Text
