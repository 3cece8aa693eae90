import Landmarks.Proofs.FileTree
import Mathlib.Data.List.Basic

/-!
# Directories above files, and the files that stay

* `Files.locate_parent` : what a path denotes lies in a directory, which its parent denotes.
* `Files.SameContents` : no file is added, changed or lost.
* `Files.makeDirsUp_rel`, `Files.sameContents_makeDirsUp` : what making one directory does to the files, making those
  above it does too; so no file is changed, also if that fails half way.
* `Files.exec_write_of_error` : a file that cannot be written is not begun.
-/

namespace Landmarks

open Utf8 (Byte)

/-! ## The path above -/

namespace Path

variable {p : Path}

theorem parts_join_concat (cwd : Path) (root : String) (parts : List String) (last : String) :
    (cwd.join ⟨root, parts ++ [last]⟩).parts = (cwd.join ⟨root, parts⟩).parts ++ [last] := by
  unfold join isAbsolute
  split_ifs <;> simp

theorem hasNull_parent (h : p.hasNull = false) : p.parent.hasNull = false := by
  rw [hasNull, List.any_eq_false] at h ⊢
  exact fun part hpart => h part (List.dropLast_subset _ hpart)

/-- The path above is no longer, unless it is the shortest of all. -/
theorem size_text_parent (h : p.text.utf8ByteSize ≤ Files.maxPath) : p.parent.text.utf8ByteSize ≤ Files.maxPath := by
  obtain ⟨root, parts⟩ := p
  rcases List.eq_nil_or_concat' parts with rfl | ⟨above, last, rfl⟩
  · exact h
  · have htext : text ⟨root, above ++ [last]⟩ = root ++ String.intercalate "/" (above ++ [last]) := by simp [text]
    rw [htext, String.utf8ByteSize_append] at h
    rw [parent, List.dropLast_concat]
    unfold text
    split_ifs with hshort
    · decide
    · rw [String.utf8ByteSize_append]
      cases above with
      | nil => exact Nat.le_trans (Nat.add_le_add_left (Nat.zero_le _) _) h
      | cons first rest =>
        rw [String.intercalate_append_of_ne_nil (List.cons_ne_nil _ _) (List.cons_ne_nil _ _),
          String.utf8ByteSize_append, String.utf8ByteSize_append] at h
        dsimp only
        omega

end Path

namespace Files

variable {fs : Files} {p : Path} {place : List String}

/-- The last step of a path starts from a directory. -/
theorem exists_directory_of_foldlM {tree : Entry} {parts here : List String} {last : String}
    (h : (parts ++ [last]).foldlM (descend tree) here = .ok place) :
    ∃ above es, parts.foldlM (descend tree) here = .ok above ∧ tree.find? above = some (.directory es) ∧
      (place = above.dropLast ∨ place = above ++ [last]) := by
  rw [List.foldlM_append] at h
  obtain ⟨above, habove, hlast⟩ := bind_eq_ok.1 h
  rw [List.foldlM_cons] at hlast
  obtain ⟨out, hout, hplace⟩ := bind_eq_ok.1 hlast
  cases hplace
  obtain ⟨⟨es, hes⟩, -, rfl⟩ := descend_eq_ok hout
  refine ⟨above, es, habove, hes, ?_⟩
  split_ifs
  · exact .inl rfl
  · exact .inr rfl

/-- What a path denotes lies in a directory, which its parent denotes. -/
theorem locate_parent (hparts : p.parts ≠ []) (h : fs.locate p = .ok place) :
    ∃ above es, fs.locate p.parent = .ok above ∧ fs.tree.find? above = some (.directory es) ∧
      (place = above.dropLast ∨ place = above ++ [p.name]) := by
  obtain ⟨root, parts⟩ := p
  rcases List.eq_nil_or_concat' parts with rfl | ⟨init, last, rfl⟩
  · exact absurd rfl hparts
  · unfold locate at h
    split_ifs at h with hnull hlong
    rw [Path.parts_join_concat] at h
    obtain ⟨above, es, habove, hes, hplace⟩ := exists_directory_of_foldlM h
    refine ⟨above, es, ?_, hes, ?_⟩
    · have hnull' := Path.hasNull_parent (Bool.not_eq_true _ ▸ hnull)
      have hlong' := Path.size_text_parent (Nat.le_of_not_lt hlong)
      rw [Path.parent, List.dropLast_concat] at hnull' hlong' ⊢
      rw [locate, hnull', if_neg Bool.false_ne_true, if_neg (Nat.not_lt.2 hlong')]
      exact habove
    · simpa [Path.name] using hplace

end Files

/-! ## Files that stay -/

namespace Entry

variable {tree : Entry} {place : List String} {es : List (String × Entry)}

/-- What is below something is below a directory. -/
theorem exists_directory_of_find? {e : Entry} {here rest : List String} {part : String}
    (h : tree.find? (here ++ part :: rest) = some e) : ∃ es, tree.find? here = some (.directory es) := by
  induction here generalizing tree with
  | nil =>
    cases tree with
    | file content => simp [find?] at h
    | directory es => exact ⟨es, find?_nil _⟩
  | cons first here ih =>
    cases tree with
    | file content => simp [find?] at h
    | directory es =>
      rw [List.cons_append, find?] at h
      rw [find?]
      cases hbelow : Named.find? es first with
      | none =>
        rw [hbelow] at h
        cases h
      | some below =>
        rw [hbelow] at h
        exact ih h

theorem exists_directory_dropLast (h : tree.find? place = some (.directory es)) :
    ∃ es', tree.find? place.dropLast = some (.directory es') := by
  rcases List.eq_nil_or_concat' place with rfl | ⟨above, last, rfl⟩
  · exact ⟨es, h⟩
  · rw [List.dropLast_concat]
    exact exists_directory_of_find? h

theorem find?_cons_of_entries {e : Entry} (h : e.entries = []) (part : String) (rest : List String) :
    e.find? (part :: rest) = none := by
  cases e with
  | file content => rw [find?]
  | directory es =>
    obtain rfl : es = [] := h
    rw [find?]
    rfl

/-- An entry without entries of its own, put into a directory where none is, changes nothing elsewhere but the
directories above it. -/
theorem find?_put_of_ne (hfree : tree.Free place)
    (habove : place ≠ [] → ∃ es, tree.find? place.dropLast = some (.directory es)) {new : Entry}
    (hnew : new.entries = []) {q : List String} (hq : q ≠ place) (hkept : tree.Free q) :
    (tree.put place new).find? q = tree.find? q := by
  induction place generalizing tree q with
  | nil =>
    obtain ⟨first, q, rfl⟩ := List.exists_cons_of_ne_nil hq
    cases tree with
    | file content => rw [put, find?_cons_of_entries hnew, find?_cons_of_entries rfl]
    | directory es₀ => exact absurd (find?_nil _) (hfree es₀)
  | cons part rest ih =>
    obtain ⟨es, habove⟩ := habove (List.cons_ne_nil part rest)
    cases tree with
    | file content => cases rest <;> simp [find?] at habove
    | directory es₀ =>
      rw [put]
      simp only [entries]
      cases q with
      | nil => exact absurd (find?_nil _) (hkept es₀)
      | cons first q =>
        by_cases hfirst : first = part
        · subst hfirst
          have hq : q ≠ rest := fun h => hq (h ▸ rfl)
          cases rest with
          | nil =>
            -- The place is here: nothing is below a file, before and after.
            obtain ⟨next, q, rfl⟩ := List.exists_cons_of_ne_nil hq
            rw [find?, find?, Named.find?_put_self]
            dsimp only [put]
            rw [find?_cons_of_entries hnew]
            cases hbelow : Named.find? es₀ first with
            | none => rfl
            | some below =>
              cases below with
              | file content => exact (find?_cons_of_entries rfl next q).symm
              | directory es₁ =>
                refine absurd ?_ (hfree es₁)
                rw [find?, hbelow]
                exact find?_nil _
          | cons next rest =>
            rw [List.dropLast_cons_cons, find?] at habove
            rw [find?, find?, Named.find?_put_self]
            cases hbelow : Named.find? es₀ first with
            | none =>
              rw [hbelow] at habove
              cases habove
            | some below =>
              rw [hbelow] at habove
              refine ih (fun es' hes' => hfree es' ?_) (fun _ => ⟨es, habove⟩) hq fun es' hes' => hkept es' ?_
              · rw [find?, hbelow]
                exact hes'
              · rw [find?, hbelow]
                exact hes'
        · rw [find?, find?, Named.find?_put_of_ne _ hfirst]

/-- An empty directory in a free place of a directory changes no file. -/
theorem find?_put_empty (hfree : tree.find? place = none)
    (habove : place ≠ [] → ∃ es, tree.find? place.dropLast = some (.directory es)) (q : List String)
    (content : List Byte) :
    (tree.put place .empty).find? q = some (.file content) ↔ tree.find? q = some (.file content) := by
  by_cases hq : q = place
  · subst hq
    simp [find?_put_self, hfree, empty]
  · by_cases hkept : tree.Free q
    · rw [find?_put_of_ne (free_of_find? hfree) habove rfl hq hkept]
    · obtain ⟨es', hes'⟩ := not_forall_not.1 hkept
      obtain ⟨es'', hes''⟩ := exists_directory_put (free_of_find? hfree) hes' empty
      simp [hes', hes'']

end Entry

namespace Files

variable {fs fs' fs'' : Files} {p : Path} {place : List String}

/-- The same files with the same contents, wherever they are; directories may have been added. -/
def SameContents (fs fs' : Files) : Prop :=
  ∀ place content, fs'.tree.find? place = some (.file content) ↔ fs.tree.find? place = some (.file content)

theorem SameContents.refl (fs : Files) : SameContents fs fs := fun _ _ => Iff.rfl

theorem SameContents.trans (h : SameContents fs fs') (h' : SameContents fs' fs'') : SameContents fs fs'' :=
  fun place content => (h' place content).trans (h place content)

/-- A path that denotes no directory denotes a place in one. -/
theorem exists_directory_of_locate (h : fs.locate p = .ok place) (hfree : fs.tree.Free place) (hne : place ≠ []) :
    ∃ es, fs.tree.find? place.dropLast = some (.directory es) := by
  unfold locate at h
  split_ifs at h
  rcases List.eq_nil_or_concat' (fs.cwd.join p).parts with hnil | ⟨init, last, hparts⟩
  · rw [hnil] at h
    cases h
    exact absurd rfl hne
  · rw [hparts] at h
    obtain ⟨above, es, -, hes, rfl | rfl⟩ := exists_directory_of_foldlM h
    · obtain ⟨es', hes'⟩ := Entry.exists_directory_dropLast hes
      exact absurd hes' (hfree es')
    · exact ⟨es, by rwa [List.dropLast_concat]⟩

/-- Making a directory puts it where nothing was, or changes nothing. -/
theorem makeDir_cases (fs : Files) (p : Path) :
    (exec (makeDir p) fs).2 = fs ∨
      ∃ place, fs.locate p = .ok place ∧ fs.tree.find? place = none ∧
        (exec (makeDir p) fs).2 = fs.withEntry place .empty := by
  cases hplace : fs.locate p with
  | error e =>
    rw [makeDir, exec_bind_of_error (exec_locateNow_of_error hplace)]
    exact .inl rfl
  | ok place =>
    rw [makeDir, exec_bind_of_ok (exec_locateNow_of_ok hplace)]
    cases hentry : fs.tree.find? place with
    | some e => exact .inl rfl
    | none => exact .inr ⟨place, rfl, hentry, rfl⟩

theorem sameContents_makeDir (fs : Files) (p : Path) : SameContents fs (exec (makeDir p) fs).2 := by
  rcases makeDir_cases fs p with hsame | ⟨place, hplace, hnone, hput⟩
  · rw [hsame]
    exact .refl fs
  · rw [hput]
    exact Entry.find?_put_empty hnone (exists_directory_of_locate hplace (Entry.free_of_find? hnone))

theorem unlessThere_state (fs : Files) (p : Path) (e : FileError) : (exec (unlessThere p e) fs).2 = fs := by
  rw [unlessThere, exec_get_bind]
  split <;> rfl

/-- What making one directory does to the files, making those above it does too, however far it gets. -/
theorem makeDirsUp_rel {R : Path → Files → Files → Prop} (hrefl : ∀ p fs, R p fs fs)
    (htrans : ∀ {p fs fs' fs''}, R p fs fs' → R p fs' fs'' → R p fs fs'')
    (hparent : ∀ {p fs fs'}, R p.parent fs fs' → R p fs fs') (hmake : ∀ p fs, R p fs (exec (makeDir p) fs).2)
    (up : Nat) (fs : Files) (p : Path) : R p fs (exec (makeDirsUp up p) fs).2 := by
  have hunless : ∀ p e fs, R p fs (exec (unlessThere p e) fs).2 := by
    intro p e fs
    rw [unlessThere_state]
    exact hrefl p fs
  have hensure : ∀ p fs, R p fs (exec (ensureDir p) fs).2 := fun p fs =>
    exec_tryCatch_rel (R := R p) htrans (hmake p fs) (hunless p)
  induction up generalizing fs p with
  | zero => exact hensure p fs
  | succ up ih =>
    refine exec_tryCatch_rel (R := R p) htrans (hmake p fs) fun e fs' => ?_
    split
    · exact exec_bind_rel (R := R p) htrans (hparent (ih fs' p.parent)) fun _ => hensure p
    · exact hunless p _ fs'

/-- Making directories changes no file, however far it gets. -/
theorem sameContents_makeDirsUp (up : Nat) (fs : Files) (p : Path) :
    SameContents fs (exec (makeDirsUp up p) fs).2 :=
  makeDirsUp_rel (R := fun _ => SameContents) (fun _ => .refl) .trans id (fun p fs => sameContents_makeDir fs p) up fs p

theorem exec_write_of_directory (h : fs.isDirectory p = .ok true) (content : List Byte) :
    exec (write p content) fs = (.error .isDirectory, fs) := by
  obtain ⟨place, es, hplace, hentry⟩ := isDirectory_eq_true_iff.1 h
  rw [write, exec_bind_of_ok (exec_locateNow_of_ok hplace), hentry, exec_throw]

/-- A file that cannot be written is not begun. -/
theorem exec_write_of_error {content : List Byte} {e : FileError} (h : exec (write p content) fs = (.error e, fs')) :
    fs' = fs := by
  cases hplace : fs.locate p with
  | error e =>
    rw [write, exec_bind_of_error (exec_locateNow_of_error hplace)] at h
    cases h
    rfl
  | ok place =>
    rw [write, exec_bind_of_ok (exec_locateNow_of_ok hplace)] at h
    split at h
    · cases h
      rfl
    · cases h

end Files

end Landmarks
