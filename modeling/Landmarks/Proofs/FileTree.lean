import Landmarks.Files
import Landmarks.Proofs.Operation
import Mathlib.Tactic.SplitIfs

/-!
# What is written to a file is read from it

* `Entry.find?_put_self`, `Entry.exists_directory_put` : an entry is found where it was put, and
  directories stay directories if none is replaced.
* `Files.locate_of_directories` : paths denote the same places as long as directories stay directories.
* `Files.isDirectory_of_makeDirs` : a directory that was made is there.
* `Files.exec_write_of_free` : where a file can be written, writing succeeds with any content.
* `Files.read_put_self` : what was written is read.
-/

namespace Landmarks

open Utf8 (Byte)

namespace Entry

/-- There is no directory at a place. -/
def Free (tree : Entry) (place : List String) : Prop := ∀ es, tree.find? place ≠ some (.directory es)

theorem free_of_find? {tree : Entry} {place : List String} (h : tree.find? place = none) : tree.Free place :=
  fun es hes => by simp [h] at hes

theorem free_of_file {tree : Entry} {place : List String} {content : List Byte}
    (h : tree.find? place = some (.file content)) : tree.Free place :=
  fun es hes => by simp [h] at hes

theorem find?_nil (e : Entry) : e.find? [] = some e := by rw [find?]

theorem find?_put_self (e : Entry) (place : List String) (new : Entry) : (e.put place new).find? place = some new := by
  induction place generalizing e with
  | nil => exact find?_nil new
  | cons part rest ih =>
    rw [put, find?, Named.find?_put_self]
    exact ih _

/-- Directories stay directories when an entry is put where none is. -/
theorem exists_directory_put {tree : Entry} {place here : List String} {es : List (String × Entry)}
    (hfree : tree.Free place) (hhere : tree.find? here = some (.directory es)) (new : Entry) :
    ∃ es', (tree.put place new).find? here = some (.directory es') := by
  induction place generalizing tree here with
  | nil =>
    cases tree with
    | directory es₀ => exact absurd (find?_nil _) (hfree es₀)
    | file content => cases here <;> simp [find?] at hhere
  | cons part rest ih =>
    rw [put]
    cases here with
    | nil => exact ⟨_, find?_nil _⟩
    | cons first here =>
      cases tree with
      | file content => simp [find?] at hhere
      | directory es₀ =>
        rw [find?] at hhere ⊢
        by_cases hfirst : first = part
        · subst hfirst
          cases hbelow : Named.find? es₀ first with
          | none =>
            rw [hbelow] at hhere
            cases hhere
          | some below =>
            rw [hbelow] at hhere
            have hfree' : below.Free rest := by
              intro es' hes'
              refine hfree es' ?_
              rw [find?, hbelow]
              exact hes'
            simp only [entries, Named.find?_put_self, hbelow, Option.getD_some]
            exact ih hfree' hhere
        · simp only [entries, Named.find?_put_of_ne _ hfirst]
          exact ⟨es, hhere⟩

end Entry

namespace Files

variable {fs fs' : Files} {p : Path} {place : List String} {new : Entry}

/-- The files with an entry put at a place. -/
def withEntry (fs : Files) (place : List String) (new : Entry) : Files := { fs with tree := fs.tree.put place new }

/-- A step goes from a directory, by a name that is not too long. -/
theorem descend_eq_ok {tree : Entry} {here out : List String} {part : String} (h : descend tree here part = .ok out) :
    (∃ es, tree.find? here = some (.directory es)) ∧ part.utf8ByteSize ≤ maxName ∧
      out = if part == ".." then here.dropLast else here ++ [part] := by
  unfold descend at h
  split at h
  · cases h
  · cases h
  · rename_i es hes
    split_ifs at h with hlong hup
    all_goals cases h
    · exact ⟨⟨es, hes⟩, Nat.le_of_not_lt hlong, (if_pos hup).symm⟩
    · exact ⟨⟨es, hes⟩, Nat.le_of_not_lt hlong, (if_neg hup).symm⟩

theorem foldlM_descend_of_directories {tree tree' : Entry}
    (hdirs : ∀ here es, tree.find? here = some (.directory es) → ∃ es', tree'.find? here = some (.directory es'))
    {parts here out : List String} (h : parts.foldlM (descend tree) here = .ok out) :
    parts.foldlM (descend tree') here = .ok out := by
  induction parts generalizing here with
  | nil => exact h
  | cons part parts ih =>
    rw [List.foldlM_cons] at h ⊢
    obtain ⟨next, hnext, hrest⟩ := bind_eq_ok.1 h
    obtain ⟨⟨es, hes⟩, hsize, rfl⟩ := descend_eq_ok hnext
    obtain ⟨es', hes'⟩ := hdirs here es hes
    have hnext' : descend tree' here part = .ok (if part == ".." then here.dropLast else here ++ [part]) := by
      rw [descend, hes', if_neg (Nat.not_lt.2 hsize)]
    rw [hnext']
    exact ih hrest

/-- A path denotes the place that it denoted before, as long as directories stay directories. -/
theorem locate_of_directories (hcwd : fs'.cwd = fs.cwd)
    (hdirs : ∀ here es, fs.tree.find? here = some (.directory es) → ∃ es', fs'.tree.find? here = some (.directory es'))
    {out : List String} (h : fs.locate p = .ok out) : fs'.locate p = .ok out := by
  unfold locate at h ⊢
  split_ifs at h ⊢
  rw [hcwd]
  exact foldlM_descend_of_directories hdirs h

theorem locate_put {out : List String} (hfree : fs.tree.Free place) (h : fs.locate p = .ok out) :
    (fs.withEntry place new).locate p = .ok out := by
  have hcwd : (fs.withEntry place new).cwd = fs.cwd := rfl
  exact locate_of_directories hcwd (fun _ _ hes => Entry.exists_directory_put hfree hes new) h

theorem lookup_eq_ok_iff {e : Entry} :
    fs.lookup p = .ok e ↔ ∃ place, fs.locate p = .ok place ∧ fs.tree.find? place = some e := by
  unfold lookup
  cases hplace : fs.locate p with
  | error err =>
    constructor
    · intro h
      cases h
    · rintro ⟨place, h, -⟩
      cases h
  | ok place =>
    cases hentry : fs.tree.find? place with
    | none => simp [hentry, bind, Except.bind]
    | some e' => simp [hentry, bind, Except.bind]

theorem lookup_of_error {err : FileError} (h : fs.locate p = .error err) : fs.lookup p = .error err := by
  rw [lookup, h]
  rfl

theorem lookup_of_none (h : fs.locate p = .ok place) (hnone : fs.tree.find? place = none) :
    fs.lookup p = .error .notFound := by
  rw [lookup, h]
  simp [bind, Except.bind, hnone]

theorem read_eq_ok_iff {content : List Byte} : fs.read p = .ok content ↔ fs.lookup p = .ok (.file content) := by
  constructor
  · intro h
    obtain ⟨e, he, hcontent⟩ := bind_eq_ok.1 h
    cases e with
    | file found =>
      cases hcontent
      exact he
    | directory es => cases hcontent
  · intro h
    rw [read, h]
    rfl

theorem isDirectory_eq_true_iff :
    fs.isDirectory p = .ok true ↔ ∃ place es, fs.locate p = .ok place ∧ fs.tree.find? place = some (.directory es) := by
  constructor
  · intro h
    unfold isDirectory test at h
    split at h
    · rename_i e he
      obtain ⟨place, hplace, hentry⟩ := lookup_eq_ok_iff.1 he
      cases e with
      | directory es => exact ⟨place, es, hplace, hentry⟩
      | file content => cases h
    · cases h
    · cases h
  · rintro ⟨place, es, hplace, hentry⟩
    rw [isDirectory, test, lookup_eq_ok_iff.2 ⟨place, hplace, hentry⟩]
    rfl

theorem isDirectory_put (hfree : fs.tree.Free place) (h : fs.isDirectory p = .ok true) (new : Entry) :
    (fs.withEntry place new).isDirectory p = .ok true := by
  obtain ⟨here, es, hhere, hentry⟩ := isDirectory_eq_true_iff.1 h
  obtain ⟨es', hentry'⟩ := Entry.exists_directory_put hfree hentry new
  exact isDirectory_eq_true_iff.2 ⟨here, es', locate_put hfree hhere, hentry'⟩

theorem isDirectory_put_self (hfree : fs.tree.Free place) (h : fs.locate p = .ok place) :
    (fs.withEntry place .empty).isDirectory p = .ok true :=
  isDirectory_eq_true_iff.2 ⟨place, [], locate_put hfree h, Entry.find?_put_self _ _ _⟩

theorem read_put_self (hfree : fs.tree.Free place) (h : fs.locate p = .ok place) (content : List Byte) :
    (fs.withEntry place (.file content)).read p = .ok content :=
  read_eq_ok_iff.2 (lookup_eq_ok_iff.2 ⟨place, locate_put hfree h, Entry.find?_put_self _ _ _⟩)

/-! ## Operations -/

theorem exec_locateNow_of_ok (h : fs.locate p = .ok place) :
    exec (locateNow p) fs = (.ok (place, fs.tree.find? place), fs) := by
  rw [locateNow, exec_get_bind, h, exec_pure]

theorem exec_locateNow_of_error {e : FileError} (h : fs.locate p = .error e) :
    exec (locateNow p) fs = (.error e, fs) := by
  rw [locateNow, exec_get_bind, h, exec_throw]

theorem exec_makeDir_of_directory (h : fs.isDirectory p = .ok true) :
    exec (makeDir p) fs = (.error .exists, fs) := by
  obtain ⟨place, es, hplace, hentry⟩ := isDirectory_eq_true_iff.1 h
  rw [makeDir, exec_bind_of_ok (exec_locateNow_of_ok hplace), hentry, exec_throw]

theorem isDirectory_of_makeDir (h : exec (makeDir p) fs = (.ok (), fs')) : fs'.isDirectory p = .ok true := by
  cases hplace : fs.locate p with
  | error e =>
    rw [makeDir, exec_bind_of_error (exec_locateNow_of_error hplace)] at h
    cases h
  | ok place =>
    rw [makeDir, exec_bind_of_ok (exec_locateNow_of_ok hplace)] at h
    cases hentry : fs.tree.find? place with
    | some e =>
      rw [hentry] at h
      cases h
    | none =>
      rw [hentry] at h
      cases h
      exact isDirectory_put_self (Entry.free_of_find? hentry) hplace

theorem exec_unlessThere (h : fs.isDirectory p = .ok true) (e : FileError) :
    exec (unlessThere p e) fs = (.ok (), fs) := by
  rw [unlessThere, exec_get_bind, h]
  rfl

theorem isDirectory_of_unlessThere {e : FileError} (h : exec (unlessThere p e) fs = (.ok (), fs')) :
    fs'.isDirectory p = .ok true := by
  rw [unlessThere, exec_get_bind] at h
  split at h
  · rename_i hdir
    cases h
    exact hdir
  · cases h
  · cases h

theorem isDirectory_of_ensureDir (h : exec (ensureDir p) fs = (.ok (), fs')) : fs'.isDirectory p = .ok true := by
  rw [ensureDir, exec_tryCatch] at h
  split at h
  · rename_i hmake
    cases h
    exact isDirectory_of_makeDir hmake
  · exact isDirectory_of_unlessThere h

/-- A directory that was made is there. -/
theorem isDirectory_of_makeDirs (h : exec (makeDirs p) fs = (.ok (), fs')) : fs'.isDirectory p = .ok true := by
  unfold makeDirs at h
  generalize p.parts.length = up at h
  cases up with
  | zero => exact isDirectory_of_ensureDir h
  | succ up =>
    rw [makeDirsUp, exec_tryCatch] at h
    split at h
    · rename_i hmake
      cases h
      exact isDirectory_of_makeDir hmake
    · split at h
      · obtain ⟨_, mid, -, hensure⟩ := exec_bind_eq_ok.1 h
        exact isDirectory_of_ensureDir hensure
      · exact isDirectory_of_unlessThere h

/-- Nothing is done for a directory that is there. -/
theorem exec_makeDirs_of_directory (h : fs.isDirectory p = .ok true) : exec (makeDirs p) fs = (.ok (), fs) := by
  unfold makeDirs
  cases p.parts.length with
  | zero =>
    rw [makeDirsUp, ensureDir, exec_tryCatch, exec_makeDir_of_directory h]
    exact exec_unlessThere h _
  | succ up =>
    rw [makeDirsUp, exec_tryCatch, exec_makeDir_of_directory h]
    exact exec_unlessThere h _

theorem exec_write_of_free (hplace : fs.locate p = .ok place) (hfree : fs.tree.Free place) (content : List Byte) :
    exec (write p content) fs = (.ok (), fs.withEntry place (.file content)) := by
  rw [write, exec_bind_of_ok (exec_locateNow_of_ok hplace)]
  split
  · rename_i es heq
    exact absurd (congrArg Prod.snd heq) (hfree es)
  · rename_i heq
    cases heq
    rfl

theorem free_of_write {content : List Byte} (h : exec (write p content) fs = (.ok (), fs')) :
    ∃ place, fs.locate p = .ok place ∧ fs.tree.Free place := by
  cases hplace : fs.locate p with
  | error e =>
    rw [write, exec_bind_of_error (exec_locateNow_of_error hplace)] at h
    cases h
  | ok place =>
    refine ⟨place, rfl, fun es hes => ?_⟩
    rw [write, exec_bind_of_ok (exec_locateNow_of_ok hplace), hes] at h
    cases h

end Files

end Landmarks
