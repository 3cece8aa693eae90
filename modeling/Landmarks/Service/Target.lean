import Landmarks.Encoding.Utf8

/-!
# Targets of requests

* `Target` : the parts of a target that matter: its scheme, its authority and its path.
* `Target.route` : the path that a target asks for, in its plain form.
-/

namespace Landmarks.Service

/-- The parts of a target before a query and a fragment. -/
structure Target where
  scheme : List Char
  authority : List Char
  path : List Char
  deriving DecidableEq, Repr

namespace Target

/-- The characters of a scheme behind its first one. -/
def isSchemeChar (c : Char) : Bool := c.isAlphanum || c == '+' || c == '.' || c == '-'

/-- The scheme at the front of a target, up to a colon, and the rest. -/
def splitScheme (cs : List Char) : List Char × List Char :=
  let word := cs.takeWhile isSchemeChar
  let starts := match word with
    | c :: _ => c.isAlpha
    | [] => true
  match cs.drop word.length with
  | ':' :: rest => if starts then (word, rest) else ([], cs)
  | _ => ([], cs)

/-- The authority behind two slashes, and the rest. -/
def splitAuthority : List Char → List Char × List Char
  | '/' :: '/' :: cs =>
    let inside (c : Char) : Bool := c != '/' && c != '?' && c != '#'
    (cs.takeWhile inside, cs.dropWhile inside)
  | cs => ([], cs)

/-- The parts of a target. -/
def ofString (s : String) : Target :=
  let (scheme, rest) := splitScheme s.toList
  let (authority, rest) := splitAuthority rest
  ⟨scheme, authority, rest.takeWhile fun c => c != '?' && c != '#'⟩

/-- The path from the root: only a target with a scheme and an authority has one of its own. -/
def absolutePath (t : Target) : List Char :=
  if t.scheme.isEmpty || t.authority.isEmpty then '/' :: t.path.dropWhile (· == '/') else t.path

/-- The segments of a path without dots: one dot is left out, and two dots take the segment before
them away, but not the empty one that stands for the root. -/
def dropDots (segments : List (List Char)) : List (List Char) :=
  (segments.foldl (fun acc segment =>
    if segment == ['.'] then acc
    else if segment == ['.', '.'] then if acc == [[]] then acc else acc.tail
    else segment :: acc) []).reverse

/-- The bytes of a text with escapes of a percent sign and two digits replaced. -/
def unescape : List Char → List Utf8.Byte
  | '%' :: a :: b :: rest =>
    match Text.hexNumber? [a, b] with
    | some n => n.toUInt8 :: unescape rest
    | none => Utf8.encodeChar '%' ++ unescape (a :: b :: rest)
  | c :: rest => Utf8.encodeChar c ++ unescape rest
  | [] => []

/-- A text with its escapes replaced. -/
def decode (cs : List Char) : List Char := Utf8.decodeLossy (unescape cs)

/-- The path that a target asks for. Escapes are replaced twice, and slashes at the end do not
count. -/
def route (t : Target) : List Char :=
  let plain := List.intercalate ['/'] (dropDots (t.absolutePath.splitOn '/'))
  ((decode (decode plain)).reverse.dropWhile (· == '/')).reverse

end Target

end Landmarks.Service
