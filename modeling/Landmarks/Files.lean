import Landmarks.Encoding.Utf8
import Landmarks.Named
import Landmarks.Path

/-!
# Files

* `Entry` : a file or a directory with named entries.
* `Files` : a tree of entries and a working directory.
* `Files.read`, `Files.write`, `Files.makeDirs` : what a program does with a path, or the `FileError`
  that keeps it from doing so. Names and paths have a greatest length, and hold no null byte.
* `Files.isDirectory`, `Files.holds` : what there is at a path. A path that leads nowhere is no error,
  but one that is too long is.
* `Files.readText` : the text of a UTF-8 file, all line breaks as line feeds.
-/

namespace Landmarks

open Utf8 (Byte)

/-- Something in a directory. -/
inductive Entry
  | file (content : List Byte)
  | directory (entries : List (String × Entry))
  deriving Repr

namespace Entry

/-- An empty directory. -/
def empty : Entry := .directory []

/-- The entries of a directory; a file has none. -/
def entries : Entry → List (String × Entry)
  | directory es => es
  | file _ => []

/-- Whether an entry is a directory. -/
def isDirectory : Entry → Bool
  | directory _ => true
  | file _ => false

/-- The entry at a place below. -/
def find? : Entry → List String → Option Entry
  | e, [] => some e
  | directory es, part :: rest =>
    match Named.find? es part with
    | some e => e.find? rest
    | none => none
  | file _, _ :: _ => none
termination_by _ parts => parts.length

/-- With an entry at a place below; missing directories on the way are added. -/
def put (e : Entry) (place : List String) (new : Entry) : Entry :=
  match place with
  | [] => new
  | part :: rest =>
    let below := (Named.find? e.entries part).getD empty
    .directory (Named.put part (put below rest new) e.entries)

/-- Without the entry at a place below. -/
def remove (e : Entry) (place : List String) : Entry :=
  match place with
  | [] => e
  | [part] => .directory (e.entries.filter fun x => x.1 != part)
  | part :: next :: rest =>
    match Named.find? e.entries part with
    | some below => .directory (Named.put part (remove below (next :: rest)) e.entries)
    | none => e

end Entry

/-- Why a path cannot be used. -/
inductive FileError
  | notFound
  | exists
  | notDirectory
  | isDirectory
  | nameTooLong
  | nullByte
  deriving DecidableEq, Repr

namespace FileError

/-- The number of an error; a path with a null byte is refused before the system sees it. -/
def code? : FileError → Option Nat
  | notFound => some 2
  | .exists => some 17
  | notDirectory => some 20
  | isDirectory => some 21
  | nameTooLong => some 36
  | nullByte => none

/-- An error in words. -/
def reason : FileError → String
  | notFound => "No such file or directory"
  | .exists => "File exists"
  | notDirectory => "Not a directory"
  | isDirectory => "Is a directory"
  | nameTooLong => "File name too long"
  | nullByte => "embedded null byte"

end FileError

/-- A file that holds no text that can be read. -/
inductive ReadError
  | file (error : FileError)
  | encoding (error : Utf8.Error)
  deriving DecidableEq, Repr

/-- What is said of a file that cannot be read as text. -/
def ReadError.message : ReadError → String
  | file e => e.reason
  | encoding e => e.message

/-- A tree of files seen from a working directory. -/
structure Files where
  tree : Entry
  cwd : Path

namespace Files

/-- The greatest length of a name, in bytes. -/
def maxName : Nat := 255

/-- The greatest length of a path, in bytes. -/
def maxPath : Nat := 4095

/-- One step of a path from a place that must be a directory. -/
def descend (tree : Entry) (here : List String) (part : String) : Except FileError (List String) :=
  match tree.find? here with
  | none => .error .notFound
  | some (.file _) => .error .notDirectory
  | some (.directory _) =>
    if maxName < part.utf8ByteSize then .error .nameTooLong
    else .ok (if part == ".." then here.dropLast else here ++ [part])

/-- The place that a path denotes. All on the way to it must be directories; there may be nothing at
the place itself. -/
def locate (fs : Files) (p : Path) : Except FileError (List String) :=
  if p.hasNull then .error .nullByte
  else if maxPath < p.text.utf8ByteSize then .error .nameTooLong
  else (fs.cwd.join p).parts.foldlM (descend fs.tree) []

/-- What is at a path. -/
def lookup (fs : Files) (p : Path) : Except FileError Entry := do
  match fs.tree.find? (← fs.locate p) with
  | some e => .ok e
  | none => .error .notFound

/-- Whether something can be said of what is at a path; if nothing can be there, it is false. -/
def test (fs : Files) (p : Path) (is : Entry → Bool) : Except FileError Bool :=
  match fs.lookup p with
  | .ok e => .ok (is e)
  | .error .nameTooLong => .error .nameTooLong
  | .error _ => .ok false

/-- Whether a path denotes a directory. -/
def isDirectory (fs : Files) (p : Path) : Except FileError Bool := fs.test p Entry.isDirectory

/-- Whether a path denotes anything. -/
def holds (fs : Files) (p : Path) : Except FileError Bool := fs.test p fun _ => true

/-- The content of a file. -/
def read (fs : Files) (p : Path) : Except FileError (List Byte) := do
  match ← fs.lookup p with
  | .file content => .ok content
  | .directory _ => .error .isDirectory

/-- Something done with files. What was done before a failure stays done. -/
abbrev Op := ExceptT FileError (StateM Files)

/-- The place that a path denotes, and what is there. -/
def locateNow (p : Path) : Op (List String × Option Entry) := do
  let fs ← get
  match fs.locate p with
  | .ok place => return (place, fs.tree.find? place)
  | .error e => throw e

/-- Put an entry at a place. -/
def putAt (place : List String) (e : Entry) : Op Unit :=
  modify fun fs => { fs with tree := fs.tree.put place e }

/-- Write a file, new or not. -/
def write (p : Path) (content : List Byte) : Op Unit := do
  match ← locateNow p with
  | (_, some (.directory _)) => throw .isDirectory
  | (place, _) => putAt place (.file content)

/-- Make one directory, which must not be there. -/
def makeDir (p : Path) : Op Unit := do
  match ← locateNow p with
  | (_, some _) => throw .exists
  | (place, none) => putAt place .empty

/-- A failure to make a directory does not count if it is there. -/
def unlessThere (p : Path) (e : FileError) : Op Unit := do
  match (← get).isDirectory p with
  | .ok true => return
  | .ok false => throw e
  | .error e => throw e

/-- Make a directory unless it is there. -/
def ensureDir (p : Path) : Op Unit := tryCatch (makeDir p) (unlessThere p)

/-- Make a directory unless it is there, and before it those above it that are missing; `up` bounds
the number of parts of the path. -/
def makeDirsUp : (up : Nat) → Path → Op Unit
  | 0, p => ensureDir p
  | up + 1, p =>
    tryCatch (makeDir p) fun
      | .notFound => do
        makeDirsUp up p.parent
        ensureDir p
      | e => unlessThere p e

/-- Make a directory unless it is there, and before it those above it that are missing. -/
def makeDirs (p : Path) : Op Unit := makeDirsUp p.parts.length p

/-- All line breaks as line feeds. -/
def unifyBreaks : List Char → List Char
  | [] => []
  | '\r' :: '\n' :: cs => '\n' :: unifyBreaks cs
  | '\r' :: cs => '\n' :: unifyBreaks cs
  | c :: cs => c :: unifyBreaks cs

/-- The text of a UTF-8 file. -/
def readText (fs : Files) (p : Path) : Except ReadError (List Char) :=
  match fs.read p with
  | .error e => .error (.file e)
  | .ok bytes =>
    match Utf8.decode bytes with
    | .error e => .error (.encoding e)
    | .ok cs => .ok (unifyBreaks cs)

end Files

end Landmarks
