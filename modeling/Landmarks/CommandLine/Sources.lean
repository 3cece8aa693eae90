import Landmarks.Files

/-!
# Which files are scanned

* `subdirectories` : the subdirectories of a directory that are entered. Some names are excluded, and a
  directory whose path is too long to be listed is passed over.
* `sourcesBelow` : the source files below a directory, its own before those of its subdirectories.
* `expandPath` : the files that a path argument stands for.
-/

namespace Landmarks.CommandLine

/-- Names of directories that are not entered. -/
def excludedDirectories : List String :=
  [".git", ".hg", ".svn", ".vs", ".idea", ".scrollmarks", "node_modules", "bin", "obj"]

/-- Named things in the order of their names. -/
def sortByName {α : Type} (xs : List (String × α)) : List (String × α) :=
  xs.mergeSort fun a b => decide (a.1 ≤ b.1)

/-- A path with one more part. -/
def child (dir : Path) (name : String) : Path := dir.join ⟨"", [name]⟩

/-- The greatest length of the path of a directory that can be listed below another, in bytes. Below the
working directory, paths are listed with `./` in front. -/
def listingRoom (top : Path) : Nat :=
  if top.root.isEmpty && top.parts.isEmpty then Files.maxPath - 2 else Files.maxPath

/-- Whether an entry of a directory is entered. -/
def isEntered (room : Nat) (dir : Path) (e : String × Entry) : Bool :=
  e.2.isDirectory && !excludedDirectories.contains e.1 &&
    decide ((child dir e.1).text.utf8ByteSize ≤ room)

/-- The source files among the entries of a directory, in order. -/
def ownSources (known : Path → Bool) (dir : Path) (entries : List (String × Entry)) : List Path :=
  let files := sortByName (entries.filter fun e => !e.2.isDirectory)
  (files.map fun e => child dir e.1).filter known

/-- The entries of a directory that are entered, in order. -/
def subdirectories (room : Nat) (dir : Path) (entries : List (String × Entry)) :
    List (String × Entry) :=
  sortByName (entries.filter (isEntered room dir))

theorem mem_of_mem_subdirectories {room : Nat} {dir : Path} {entries : List (String × Entry)}
    {e : String × Entry} (h : e ∈ subdirectories room dir entries) : e ∈ entries :=
  (List.mem_filter.1 (List.mem_mergeSort.1 h)).1

/-- The source files below a directory: its own in the order of their names, then those of its
subdirectories in the order of their names. -/
def sourcesBelow (known : Path → Bool) (room : Nat) (dir : Path) : Entry → List Path
  | .file _ => []
  | .directory entries =>
    ownSources known dir entries ++
      (subdirectories room dir entries).attach.flatMap fun ⟨(name, e), _⟩ =>
        sourcesBelow known room (child dir name) e
termination_by e => sizeOf e
decreasing_by
  have := List.sizeOf_lt_of_mem (mem_of_mem_subdirectories ‹(name, e) ∈ _›)
  simp only [Prod.mk.sizeOf_spec, Entry.directory.sizeOf_spec] at this ⊢
  omega

/-- The files that a path stands for: the source files below a directory, or else itself. -/
def expandPath (files : Files) (known : Path → Bool) (p : Path) : Except FileError (List Path) :=
  match files.lookup p with
  | .ok (.directory entries) => .ok (sourcesBelow known (listingRoom p) p (.directory entries))
  | .error .nameTooLong => .error .nameTooLong
  | _ => .ok [p]

end Landmarks.CommandLine
