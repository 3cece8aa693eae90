/-!
# Paths

* `Path` : a root and a list of parts; empty parts and `.` are gone, `..` stays.
* `Path.suffix` : the last dotted part of a name.
* `Path.resolve` : absolute, without `..`.
* `Path.expandHome` : with a leading `~` replaced.
-/

namespace Landmarks

/-- A path. The root is empty, one slash, or the two slashes that a path may start with. -/
structure Path where
  root : String
  parts : List String
  deriving DecidableEq, Repr

/-- Why there is no home directory: the user has none, or no user can be called so. -/
inductive HomeError
  | unknown
  | nullByte
  deriving DecidableEq, Repr

/-- What is said of a home directory that cannot be found. -/
def HomeError.message : HomeError → String
  | unknown => "Could not determine home directory."
  | nullByte => "embedded null byte"

namespace Path

/-- The root of a path that starts with so many slashes. -/
def rootOf (slashes : Nat) : String :=
  if slashes == 0 then "" else if slashes == 2 then "//" else "/"

/-- The path that a text denotes. -/
def ofString (s : String) : Path :=
  let cs := s.toList
  { root := rootOf (cs.takeWhile (· == '/')).length
    parts := ((cs.splitOn '/').filter fun p => !p.isEmpty && p != ['.']).map String.ofList }

/-- The text of a path; a path without parts is `.` or its root. -/
def text (p : Path) : String :=
  if p.root.isEmpty && p.parts.isEmpty then "." else p.root ++ String.intercalate "/" p.parts

/-- Whether a path starts from the root. -/
def isAbsolute (p : Path) : Bool := !p.root.isEmpty

/-- Whether a path holds a null character. -/
def hasNull (p : Path) : Bool := p.parts.any fun part => part.toList.contains '\x00'

/-- The last part of a path, if it has one. -/
def name (p : Path) : String := p.parts.getLastD ""

/-- The last dotted part of a name: from its last dot, unless that is its first or last character. -/
def suffixOf (name : List Char) : List Char :=
  let tail := (name.reverse.takeWhile (· != '.')).reverse
  if tail.isEmpty || name.length ≤ tail.length + 1 then [] else '.' :: tail

/-- The last dotted part of the last part. -/
def suffix (p : Path) : List Char := suffixOf p.name.toList

/-- Without the last part. -/
def parent (p : Path) : Path := { p with parts := p.parts.dropLast }

/-- One path behind another; an absolute one stands for itself. -/
def join (p q : Path) : Path := if q.isAbsolute then q else { p with parts := p.parts ++ q.parts }

/-- Without `..`: each takes the part before it away, and at the root nothing. -/
def dropUps (parts : List String) : List String :=
  (parts.foldl (fun acc part => if part == ".." then acc.tail else part :: acc) []).reverse

/-- A path as seen from a working directory, absolute and without `..`. -/
def resolve (cwd p : Path) : Path := ⟨"/", dropUps (cwd.join p).parts⟩

/-- A path with its leading `~` part replaced by a home directory. `homes` gives the home directory
of a user; the empty name is the current user. -/
def expandHome (homes : String → Option String) (p : Path) : Except HomeError Path :=
  match p.parts with
  | part :: rest =>
    match part.toList with
    | '~' :: user =>
      if p.isAbsolute then .ok p
      else if user.contains '\x00' then .error .nullByte
      else
        match homes (String.ofList user) with
        | some home => .ok ((ofString home).join ⟨"", rest⟩)
        | none => .error .unknown
    | _ => .ok p
  | [] => .ok p

end Path

end Landmarks
