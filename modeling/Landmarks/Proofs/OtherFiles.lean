import Landmarks.Config
import Landmarks.Proofs.FileContents
import Landmarks.Proofs.StoredFlags
import Mathlib.Data.List.Induction

/-!
# What writing a file leaves alone

* `Files.eq_resolve_of_locate` : a path denotes the place that it resolves to, if it denotes one.
* `Files.Leaves` : what is left alone when a file is written at a path. Other files keep their content, directories
  stay directories, and something new is found on the way of the path only.
* `Store.leaves_writeFile` : so it is, whether or not the file could be written.
* `Store.legible_writeFile` : what a store writes can be read again, and where it cannot write there is no file.
* `Config.load_of_leaves` : the configuration stays what it was if it is looked for where something is, and the file
  that is written is not its own.
-/

namespace Landmarks

open Utf8 (Byte)

/-! ## The place of a path -/

namespace Path

theorem dropUps_concat (parts : List String) (last : String) :
    dropUps (parts ++ [last]) = if last == ".." then (dropUps parts).dropLast else dropUps parts ++ [last] := by
  unfold dropUps
  rw [List.foldl_append, List.foldl_cons, List.foldl_nil]
  split_ifs
  · rw [List.dropLast_reverse]
  · rw [List.reverse_cons]

theorem dropUps_of_notMem {parts : List String} (h : ".." ∉ parts) : dropUps parts = parts := by
  induction parts using List.reverseRecOn with
  | nil => rfl
  | append_singleton parts last ih =>
    rw [List.mem_append, not_or, List.mem_singleton] at h
    have hlast : (last == "..") = false := beq_eq_false_iff_ne.2 (Ne.symm h.2)
    rw [dropUps_concat, hlast, ih h.1, if_neg Bool.false_ne_true]

theorem notMem_dropUps (parts : List String) : ".." ∉ dropUps parts := by
  induction parts using List.reverseRecOn with
  | nil => exact List.not_mem_nil
  | append_singleton parts last ih =>
    rw [dropUps_concat]
    split_ifs with hlast
    · exact fun hmem => ih (List.dropLast_subset _ hmem)
    · rw [List.mem_append, List.mem_singleton, not_or]
      exact ⟨ih, fun h => hlast (beq_iff_eq.2 h.symm)⟩

/-- What a path resolves to resolves to itself. -/
theorem resolve_absolute (cwd : Path) {parts : List String} (h : ".." ∉ parts) :
    resolve cwd ⟨"/", parts⟩ = ⟨"/", parts⟩ := by
  have hjoin : cwd.join ⟨"/", parts⟩ = ⟨"/", parts⟩ := rfl
  rw [resolve, hjoin, dropUps_of_notMem h]

theorem resolve_join (cwd p : Path) {last : String} (h : last ≠ "..") :
    resolve cwd (p.join ⟨"", [last]⟩) = ⟨"/", (resolve cwd p).parts ++ [last]⟩ := by
  have hlast : (last == "..") = false := beq_eq_false_iff_ne.2 h
  have hjoin : p.join ⟨"", [last]⟩ = ⟨p.root, p.parts ++ [last]⟩ := rfl
  rw [resolve, hjoin, parts_join_concat, dropUps_concat, hlast, if_neg Bool.false_ne_true]
  rfl

theorem parent_join_name {p : Path} (h : p.parts ≠ []) : p.parent.join ⟨"", [p.name]⟩ = p := by
  obtain ⟨root, parts⟩ := p
  rcases List.eq_nil_or_concat' parts with rfl | ⟨init, last, rfl⟩
  · exact absurd rfl h
  · have hname : name ⟨root, init ++ [last]⟩ = last := by simp [name]
    rw [hname, parent, List.dropLast_concat]
    rfl

theorem parent_of_parts {p : Path} (h : p.parts = []) : p.parent = p := by
  obtain ⟨root, parts⟩ := p
  subst h
  rfl

/-- A path passes a place if a beginning of the path denotes it. -/
def Passes (p cwd : Path) (place : List String) : Prop :=
  ∃ parts, parts <+: p.parts ∧ place = (resolve cwd ⟨p.root, parts⟩).parts

theorem passes_self (cwd p : Path) : p.Passes cwd (resolve cwd p).parts := ⟨p.parts, List.prefix_refl _, rfl⟩

theorem Passes.of_parent {cwd p : Path} {place : List String} (h : p.parent.Passes cwd place) : p.Passes cwd place := by
  obtain ⟨parts, hparts, hplace⟩ := h
  exact ⟨parts, hparts.trans (List.dropLast_prefix _), hplace⟩

end Path

namespace Files

variable {fs fs' fs'' : Files} {p : Path} {place : List String}

/-- The steps of a path lead where it resolves to, over names that are not too long. -/
theorem foldlM_descend_eq_ok {tree : Entry} {parts out : List String} (h : parts.foldlM (descend tree) [] = .ok out) :
    out = Path.dropUps parts ∧ ∀ name ∈ out, name.utf8ByteSize ≤ maxName := by
  induction parts using List.reverseRecOn generalizing out with
  | nil =>
    cases h
    exact ⟨rfl, List.forall_mem_nil _⟩
  | append_singleton parts last ih =>
    rw [List.foldlM_append] at h
    obtain ⟨above, habove, hlast⟩ := bind_eq_ok.1 h
    obtain ⟨rfl, hshort⟩ := ih habove
    rw [List.foldlM_cons] at hlast
    obtain ⟨next, hnext, hout⟩ := bind_eq_ok.1 hlast
    cases hout
    obtain ⟨-, hsize, rfl⟩ := descend_eq_ok hnext
    refine ⟨(Path.dropUps_concat parts last).symm, ?_⟩
    split_ifs
    · exact fun name hname => hshort name (List.dropLast_subset _ hname)
    · exact List.forall_mem_append.2 ⟨hshort, List.forall_mem_singleton.2 hsize⟩

theorem foldlM_of_locate (h : fs.locate p = .ok place) :
    (fs.cwd.join p).parts.foldlM (descend fs.tree) [] = .ok place := by
  unfold locate at h
  split_ifs at h
  exact h

/-- A path denotes the place that it resolves to, if it denotes one. -/
theorem eq_resolve_of_locate (h : fs.locate p = .ok place) : place = (Path.resolve fs.cwd p).parts :=
  (foldlM_descend_eq_ok (foldlM_of_locate h)).1

/-! ## Directories that are added -/

/-- Directories stay directories, and something new is found on the way of a path only. -/
structure Grows (p : Path) (fs fs' : Files) : Prop where
  cwd : fs'.cwd = fs.cwd
  directory : ∀ place es, fs.tree.find? place = some (.directory es) →
    ∃ es', fs'.tree.find? place = some (.directory es')
  nothing : ∀ place, ¬ p.Passes fs.cwd place → fs.tree.find? place = none → fs'.tree.find? place = none

theorem Grows.refl (p : Path) (fs : Files) : Grows p fs fs := ⟨rfl, fun _ es h => ⟨es, h⟩, fun _ _ h => h⟩

theorem Grows.trans (h : Grows p fs fs') (h' : Grows p fs' fs'') : Grows p fs fs'' := by
  refine ⟨h'.cwd.trans h.cwd, fun place es hes => ?_, fun place hplace hnone => ?_⟩
  · obtain ⟨es', hes'⟩ := h.directory place es hes
    exact h'.directory place es' hes'
  · exact h'.nothing place (by rwa [h.cwd]) (h.nothing place hplace hnone)

theorem Grows.of_parent (h : Grows p.parent fs fs') : Grows p fs fs' :=
  ⟨h.cwd, h.directory, fun place hplace => h.nothing place fun hpasses => hplace hpasses.of_parent⟩

theorem grows_put (hplace : fs.locate p = .ok place) (hfree : fs.tree.Free place) {new : Entry}
    (hnew : new.entries = []) : Grows p fs (fs.withEntry place new) := by
  refine ⟨rfl, fun q es hes => Entry.exists_directory_put hfree hes new, fun q hq hnone => ?_⟩
  have hne : q ≠ place := by
    rintro rfl
    exact hq (eq_resolve_of_locate hplace ▸ Path.passes_self fs.cwd p)
  rw [withEntry, Entry.find?_put_of_ne hfree (exists_directory_of_locate hplace hfree) hnew hne
    (Entry.free_of_find? hnone)]
  exact hnone

theorem grows_makeDir (fs : Files) (p : Path) : Grows p fs (exec (makeDir p) fs).2 := by
  rcases makeDir_cases fs p with hsame | ⟨place, hplace, hnone, hput⟩
  · rw [hsame]
    exact .refl p fs
  · rw [hput]
    exact grows_put hplace (Entry.free_of_find? hnone) rfl

theorem grows_makeDirsUp (up : Nat) (fs : Files) (p : Path) : Grows p fs (exec (makeDirsUp up p) fs).2 :=
  makeDirsUp_rel .refl .trans .of_parent (fun p fs => grows_makeDir fs p) up fs p

/-- A path that denotes a place denotes it still when directories were added. -/
theorem Grows.locate_eq (h : Grows p fs fs') {q : Path} (hplace : fs.locate q = .ok place) : fs'.locate q = .ok place :=
  locate_of_directories h.cwd h.directory hplace

/-! ## Directories that cannot be made -/

theorem isDirectory_parent (h : fs.isDirectory p = .ok true) : fs.isDirectory p.parent = .ok true := by
  by_cases hparts : p.parts = []
  · rwa [Path.parent_of_parts hparts]
  · obtain ⟨place, es, hplace, hes⟩ := isDirectory_eq_true_iff.1 h
    obtain ⟨above, es', habove, hes', -⟩ := locate_parent hparts hplace
    exact isDirectory_eq_true_iff.2 ⟨above, es', habove, hes'⟩

theorem not_isDirectory_of_unlessThere {e e' : FileError} (h : exec (unlessThere p e) fs = (.error e', fs')) :
    fs'.isDirectory p ≠ .ok true := by
  have hstate := unlessThere_state fs p e
  rw [h] at hstate
  subst hstate
  intro hdirectory
  rw [exec_unlessThere hdirectory] at h
  cases h

theorem not_isDirectory_of_ensureDir {e : FileError} (h : exec (ensureDir p) fs = (.error e, fs')) :
    fs'.isDirectory p ≠ .ok true := by
  rw [ensureDir, exec_tryCatch] at h
  split at h
  · cases h
  · exact not_isDirectory_of_unlessThere h

theorem eq_of_ensureDir {e : FileError} (h : exec (ensureDir p) fs = (.error e, fs')) : fs' = fs := by
  rw [ensureDir, exec_tryCatch] at h
  split at h
  · cases h
  · rename_i e' mid hmake
    have hstate := unlessThere_state mid p e'
    rw [h] at hstate
    rcases makeDir_cases fs p with hsame | ⟨place, hplace, hnone, -⟩
    · rw [hmake] at hsame
      exact hstate.trans hsame
    · rw [makeDir, exec_bind_of_ok (exec_locateNow_of_ok hplace), hnone] at hmake
      cases hmake

/-- A directory that could not be made is not there. -/
theorem not_isDirectory_of_makeDirsUp {up : Nat} {e : FileError} (h : exec (makeDirsUp up p) fs = (.error e, fs')) :
    fs'.isDirectory p ≠ .ok true := by
  induction up generalizing fs p with
  | zero => exact not_isDirectory_of_ensureDir h
  | succ up ih =>
    rw [makeDirsUp, exec_tryCatch] at h
    split at h
    · cases h
    · rename_i fault mid hmake
      split at h
      · rcases hparent : exec (makeDirsUp up p.parent) mid with ⟨e' | ⟨⟩, next⟩
        · rw [exec_bind_of_error hparent] at h
          cases h
          exact fun hdirectory => ih hparent (isDirectory_parent hdirectory)
        · rw [exec_bind_of_ok hparent] at h
          exact not_isDirectory_of_ensureDir h
      · exact not_isDirectory_of_unlessThere h

/-! ## Files that are written -/

/-- What is left alone when a file is written at a path: other files keep their content, directories stay
directories, and something new is found on the way of the path only. -/
structure Leaves (p : Path) (fs fs' : Files) : Prop extends Grows p fs fs' where
  file : ∀ place content, fs.tree.find? place = some (.file content) →
    ∃ content', fs'.tree.find? place = some (.file content') ∧
      (place ≠ (Path.resolve fs.cwd p).parts → content' = content)

theorem leaves_of_sameContents (hgrows : Grows p fs fs') (hsame : SameContents fs fs') : Leaves p fs fs' :=
  ⟨hgrows, fun place content hfile => ⟨content, (hsame place content).2 hfile, fun _ => rfl⟩⟩

/-- A file that is not the one that is written is read as before. -/
theorem Leaves.read_eq (h : Leaves p fs fs') {q : Path} {content : List Byte} (hread : fs.read q = .ok content)
    (hne : (Path.resolve fs.cwd q).parts ≠ (Path.resolve fs.cwd p).parts) : fs'.read q = .ok content := by
  obtain ⟨place, hplace, hcontent⟩ := lookup_eq_ok_iff.1 (read_eq_ok_iff.1 hread)
  obtain ⟨content', hcontent', hsame⟩ := h.file place content hcontent
  rw [← eq_resolve_of_locate hplace] at hne
  rw [hsame hne] at hcontent'
  exact read_eq_ok_iff.2 (lookup_eq_ok_iff.2 ⟨place, h.locate_eq hplace, hcontent'⟩)

/-- What there was at a path there still is, be it a file or a directory. -/
theorem Leaves.find? (h : Leaves p fs fs') {e : Entry} (he : fs.tree.find? place = some e) :
    ∃ e', fs'.tree.find? place = some e' ∧ e'.isDirectory = e.isDirectory := by
  cases e with
  | directory es =>
    obtain ⟨es', hes'⟩ := h.directory place es he
    exact ⟨_, hes', rfl⟩
  | file content =>
    obtain ⟨content', hfile, -⟩ := h.file place content he
    exact ⟨_, hfile, rfl⟩

end Files

namespace Store

variable {files files' : Files} {path : Path} {content : List Byte} {e : FileError}

/-- Writing a file leaves the rest alone, whether or not it succeeds. -/
theorem leaves_writeFile (files : Files) (path : Path) (content : List Byte) :
    files.Leaves path (exec (writeFile path content) files).2 := by
  have hgrows : files.Grows path (exec (Files.makeDirs path.parent) files).2 :=
    (Files.grows_makeDirsUp _ files path.parent).of_parent
  have hsame : files.SameContents (exec (Files.makeDirs path.parent) files).2 :=
    Files.sameContents_makeDirsUp _ files path.parent
  rcases hdirs : exec (Files.makeDirs path.parent) files with ⟨e | ⟨⟩, mid⟩
  · rw [hdirs] at hgrows hsame
    rw [writeFile, exec_bind_of_error hdirs]
    exact Files.leaves_of_sameContents hgrows hsame
  · rw [hdirs] at hgrows hsame
    rw [writeFile, exec_bind_of_ok hdirs]
    rcases hwrite : exec (Files.write path content) mid with ⟨e | ⟨⟩, after⟩
    · obtain rfl := Files.exec_write_of_error hwrite
      exact Files.leaves_of_sameContents hgrows hsame
    · obtain ⟨place, hplace, hfree⟩ := Files.free_of_write hwrite
      rw [Files.exec_write_of_free hplace hfree] at hwrite
      cases hwrite
      refine ⟨hgrows.trans (Files.grows_put hplace hfree rfl), fun q found hfound => ?_⟩
      have hmid := (hsame q found).2 hfound
      by_cases hq : q = place
      · subst hq
        refine ⟨content, Entry.find?_put_self _ _ _, fun hne => absurd ?_ hne⟩
        rw [Files.eq_resolve_of_locate hplace, hgrows.cwd]
      · refine ⟨found, ?_, fun _ => rfl⟩
        rw [Files.withEntry, Entry.find?_put_of_ne hfree (Files.exists_directory_of_locate hplace hfree) rfl hq
          (Entry.free_of_file hmid)]
        exact hmid

/-- If a file could not be written, there is none at its path, unless nothing was done at all. -/
theorem eq_of_read_of_writeFile (h : exec (writeFile path content) files = (.error e, files')) {bytes : List Byte}
    (hread : files'.read path = .ok bytes) : files' = files := by
  obtain ⟨place, hplace, hfound⟩ := Files.lookup_eq_ok_iff.1 (Files.read_eq_ok_iff.1 hread)
  rcases hdirs : exec (Files.makeDirs path.parent) files with ⟨e' | ⟨⟩, mid⟩
  · rw [writeFile, exec_bind_of_error hdirs] at h
    cases h
    by_cases hparts : path.parts = []
    · rw [Path.parent_of_parts hparts, Files.makeDirs, hparts] at hdirs
      exact Files.eq_of_ensureDir hdirs
    · obtain ⟨above, es, habove, hes, -⟩ := Files.locate_parent hparts hplace
      exact absurd (Files.isDirectory_eq_true_iff.2 ⟨above, es, habove, hes⟩) (Files.not_isDirectory_of_makeDirsUp hdirs)
  · rw [writeFile, exec_bind_of_ok hdirs] at h
    obtain rfl := Files.exec_write_of_error h
    rw [Files.exec_write_of_free hplace (Entry.free_of_file hfound)] at h
    cases h

/-- What a store writes can be read again, and so can the file where it cannot write. -/
theorem legible_writeFile {old : Json.Fields} {log : List Record} (hold : payloadAt files path = .ok (old, log))
    (collection : Str) (flags : Flags) :
    Legible (exec (writeFile path (fileBytes (savedFields collection flags old))) files).2 path := by
  have hlegible := exists_payloadAt_iff.1 ⟨_, hold⟩
  rcases hwrite : exec (writeFile path (fileBytes (savedFields collection flags old))) files with ⟨e | ⟨⟩, after⟩
  · refine ⟨hlegible.1, fun bytes hread => ?_⟩
    obtain rfl := eq_of_read_of_writeFile hwrite hread
    exact hlegible.2 bytes hread
  · obtain ⟨after', hwrite', hread, -⟩ := exec_writeFile (writable_of_writeFile hwrite)
      (fileBytes (savedFields collection flags old))
    rw [hwrite] at hwrite'
    cases hwrite'
    exact exists_payloadAt_iff.1 (exists_payloadAt_of_read hread
      (Json.printable_sortKeys _ (printable_savedFields (readable_payloadAt hold) collection flags)))

end Store

/-! ## The configuration -/

namespace Files

variable {fs fs' : Files} {p : Path} {place : List String} {last : String} {e : Entry}

/-- The names of a place that there is lead to it. -/
theorem foldlM_descend_of_find? {tree : Entry} {parts here : List String} (h : tree.find? (here ++ parts) = some e)
    (hups : ".." ∉ parts) (hshort : ∀ name ∈ parts, name.utf8ByteSize ≤ maxName) :
    parts.foldlM (descend tree) here = .ok (here ++ parts) := by
  induction parts generalizing here with
  | nil =>
    rw [List.append_nil]
    rfl
  | cons part parts ih =>
    rw [List.mem_cons, not_or] at hups
    obtain ⟨hpart, hparts⟩ := List.forall_mem_cons.1 hshort
    obtain ⟨es, hes⟩ := Entry.exists_directory_of_find? h
    have hnext : descend tree here part = .ok (here ++ [part]) := by
      rw [descend, hes, if_neg (Nat.not_lt.2 hpart), if_neg (fun hup => hups.1 (beq_iff_eq.1 hup).symm)]
    rw [List.append_cons] at h ⊢
    rw [List.foldlM_cons, hnext]
    exact ih h hups.2 hparts

theorem isDirectory_of_find? (hplace : fs.locate p = .ok place) (he : fs.tree.find? place = some e) :
    fs.isDirectory p = .ok e.isDirectory := by
  rw [isDirectory, test, lookup_eq_ok_iff.2 ⟨place, hplace, he⟩]

theorem holds_eq_true_iff :
    fs.holds p = .ok true ↔ ∃ place e, fs.locate p = .ok place ∧ fs.tree.find? place = some e := by
  constructor
  · intro h
    unfold holds test at h
    split at h
    · rename_i e he
      obtain ⟨place, hplace, hentry⟩ := lookup_eq_ok_iff.1 he
      exact ⟨place, e, hplace, hentry⟩
    · cases h
    · cases h
  · rintro ⟨place, e, hplace, hentry⟩
    rw [holds, test, lookup_eq_ok_iff.2 ⟨place, hplace, hentry⟩]

/-- Whether there is something under a name at a place that there is. -/
theorem holds_concat (he : fs.tree.find? place = some e) (hups : ".." ∉ place ++ [last])
    (hshort : ∀ name ∈ place ++ [last], name.utf8ByteSize ≤ maxName) :
    fs.holds ⟨"/", place ++ [last]⟩ =
      if Path.hasNull ⟨"/", place ++ [last]⟩ then .ok false
      else if maxPath < (Path.text ⟨"/", place ++ [last]⟩).utf8ByteSize then .error .nameTooLong
      else .ok (fs.tree.find? (place ++ [last])).isSome := by
  have habove : place.foldlM (descend fs.tree) [] = .ok place :=
    foldlM_descend_of_find? he (fun hup => hups (List.mem_append_left _ hup))
      fun name hname => hshort name (List.mem_append_left _ hname)
  have hlast : last.utf8ByteSize ≤ maxName := hshort last (List.mem_append_right _ (List.mem_singleton_self last))
  have hname : (last == "..") = false :=
    beq_eq_false_iff_ne.2 fun h => hups (List.mem_append_right _ (List.mem_singleton.2 h.symm))
  have hsteps : (place ++ [last]).foldlM (descend fs.tree) [] = descend fs.tree place last := by
    rw [List.foldlM_append, habove]
    exact bind_pure (descend fs.tree place last)
  have hlocate : fs.locate ⟨"/", place ++ [last]⟩ =
      if Path.hasNull ⟨"/", place ++ [last]⟩ then .error .nullByte
      else if maxPath < (Path.text ⟨"/", place ++ [last]⟩).utf8ByteSize then .error .nameTooLong
      else descend fs.tree place last := by
    rw [← hsteps]
    rfl
  rw [holds, test]
  split_ifs at hlocate ⊢
  · rw [lookup_of_error hlocate]
  · rw [lookup_of_error hlocate]
  · cases e with
    | file content =>
      have hnone : fs.tree.find? (place ++ [last]) = none := by
        refine Option.eq_none_iff_forall_ne_some.2 fun below hbelow => ?_
        obtain ⟨es, hes⟩ := Entry.exists_directory_of_find? hbelow
        rw [he] at hes
        cases hes
      rw [descend, he] at hlocate
      rw [lookup_of_error hlocate, hnone]
      rfl
    | directory es =>
      rw [descend, he, hname, if_neg (Nat.not_lt.2 hlast), if_neg Bool.false_ne_true] at hlocate
      cases hbelow : fs.tree.find? (place ++ [last]) with
      | none =>
        rw [lookup_of_none hlocate hbelow]
        rfl
      | some below =>
        rw [lookup_eq_ok_iff.2 ⟨_, hlocate, hbelow⟩]
        rfl

end Files

namespace Config

/-- The configuration is looked for where something is, and the settings are not kept in its file. -/
structure Apart (host : Host) (dir settings : Path) : Prop where
  there : ∃ p, dir.expandHome host.homes = .ok p ∧ host.files.holds p = .ok true
  other : locate host dir ≠ .ok (Path.resolve host.files.cwd settings)

variable {homes : String → Option String} {files files' : Files} {dir p settings : Path} {c : Config}
  {place : List String} {e : Entry}

/-- The file for a path that is a directory, names the file, or is another file beside it. -/
def fileFor (p : Path) (isDirectory : Bool) : Path :=
  if isDirectory then p.join ⟨"", [fileName]⟩
  else if p.name != fileName then p.parent.join ⟨"", [fileName]⟩
  else p

theorem locate_eq {b : Bool} (hp : dir.expandHome homes = .ok p) (hb : files.isDirectory p = .ok b) :
    locate ⟨files, homes⟩ dir =
      if (fileFor p b).hasNull then .error (.read (.file .nullByte))
      else .ok (Path.resolve files.cwd (fileFor p b)) := by
  rw [locate, hp]
  change (files.isDirectory p).mapError _ >>= _ = _
  rw [hb]
  rfl

/-- The file is looked for in the same place as long as what is there stays a file or a directory. -/
theorem locate_of_leaves (h : files.Leaves settings files') (hp : dir.expandHome homes = .ok p)
    (hthere : files.holds p = .ok true) : locate ⟨files', homes⟩ dir = locate ⟨files, homes⟩ dir := by
  obtain ⟨place, e, hplace, he⟩ := Files.holds_eq_true_iff.1 hthere
  obtain ⟨e', he', hsame⟩ := h.find? he
  rw [locate_eq hp (Files.isDirectory_of_find? hplace he),
    locate_eq hp (Files.isDirectory_of_find? (h.locate_eq hplace) he'), hsame, h.cwd]

/-- The file is looked for in something that there is. -/
theorem fileFor_eq (hplace : files.locate p = .ok place) (he : files.tree.find? place = some e) :
    ∃ q here e', fileFor p e.isDirectory = q.join ⟨"", [fileName]⟩ ∧ files.locate q = .ok here ∧
      files.tree.find? here = some e' := by
  cases e with
  | directory es => exact ⟨p, place, _, rfl, hplace, he⟩
  | file content =>
    by_cases hparts : p.parts = []
    · refine ⟨p, place, _, ?_, hplace, he⟩
      have hname : p.name = "" := by simp [Path.name, hparts]
      rw [fileFor, Entry.isDirectory, hname, Path.parent_of_parts hparts]
      rfl
    · obtain ⟨above, es, habove, hes, -⟩ := Files.locate_parent hparts hplace
      refine ⟨p.parent, above, _, ?_, habove, hes⟩
      rw [fileFor, Entry.isDirectory, if_neg Bool.false_ne_true]
      split_ifs with hname
      · rfl
      · rw [bne_iff_ne, not_not] at hname
        rw [← hname, Path.parent_join_name hparts]

theorem exists_place_of_locate (hp : dir.expandHome homes = .ok p) (hthere : files.holds p = .ok true) {file : Path}
    (hfile : locate ⟨files, homes⟩ dir = .ok file) :
    ∃ place e, file = ⟨"/", place ++ [fileName]⟩ ∧ files.tree.find? place = some e ∧ ".." ∉ place ++ [fileName] ∧
      ∀ name ∈ place ++ [fileName], name.utf8ByteSize ≤ Files.maxName := by
  obtain ⟨place, e, hplace, he⟩ := Files.holds_eq_true_iff.1 hthere
  obtain ⟨q, here, e', hfor, hhere, he'⟩ := fileFor_eq hplace he
  obtain ⟨hsteps, hshort⟩ := Files.foldlM_descend_eq_ok (Files.foldlM_of_locate hhere)
  have hresolve : Path.resolve files.cwd (q.join ⟨"", [fileName]⟩) = ⟨"/", here ++ [fileName]⟩ := by
    rw [Path.resolve_join _ _ (by decide), hsteps]
    rfl
  rw [locate_eq hp (Files.isDirectory_of_find? hplace he), hfor, hresolve] at hfile
  split_ifs at hfile
  cases hfile
  refine ⟨here, e', rfl, he', ?_, ?_⟩
  · have hups := Path.notMem_dropUps (files.cwd.join q).parts
    rw [← hsteps] at hups
    exact List.mem_append.not.2 (not_or.2 ⟨hups, by decide⟩)
  · exact List.forall_mem_append.2 ⟨hshort, by decide⟩

/-- The usual settings path does not lead over the place of the file. -/
theorem not_passes_usual (hups : ".." ∉ place) (cwd : Path) :
    ¬ Path.Passes ⟨"/", place ++ [".scrollmarks", "settings.json"]⟩ cwd (place ++ [fileName]) := by
  rintro ⟨parts, hparts, hsame⟩
  have hups' : ".." ∉ parts := by
    intro hup
    rcases List.mem_append.1 (hparts.subset hup) with h | h
    · exact hups h
    · revert h
      decide
  rw [Path.resolve_absolute cwd hups'] at hsame
  dsimp only at hsame hparts
  rw [← hsame, List.prefix_append_right_inj] at hparts
  revert hparts
  decide

/-- Where there is no file, there is none after the settings were written to the usual place. -/
theorem holds_of_leaves_usual (hgrows : files.Grows ⟨"/", place ++ [".scrollmarks", "settings.json"]⟩ files')
    (he : files.tree.find? place = some e) {e' : Entry} (he' : files'.tree.find? place = some e')
    (hups : ".." ∉ place ++ [fileName]) (hshort : ∀ name ∈ place ++ [fileName], name.utf8ByteSize ≤ Files.maxName)
    (h : files.holds ⟨"/", place ++ [fileName]⟩ = .ok false) :
    files'.holds ⟨"/", place ++ [fileName]⟩ = .ok false := by
  rw [Files.holds_concat he hups hshort] at h
  rw [Files.holds_concat he' hups hshort]
  split_ifs at h ⊢
  · rfl
  · rw [Except.ok.injEq, Option.isSome_eq_false_iff, Option.isNone_iff_eq_none] at h
    have hpasses := not_passes_usual (fun hup => hups (List.mem_append_left _ hup)) files.cwd
    rw [hgrows.nothing _ hpasses h]
    rfl

/-- **The configuration stays.** Writing the settings does not change what is loaded, if the configuration is looked
for where something is and the settings are not kept in its file. -/
theorem load_of_leaves (h : files.Leaves settings files') (hapart : Apart ⟨files, homes⟩ dir settings)
    (hload : load ⟨files, homes⟩ dir = .ok c) (hsettings : c.settingsPath ⟨files, homes⟩ = .ok settings) :
    load ⟨files', homes⟩ dir = .ok c := by
  obtain ⟨p, hp, hthere⟩ := hapart.there
  obtain ⟨file, hfile, hloaded⟩ := bind_eq_ok.1 hload
  obtain ⟨found, hfound, hread⟩ := bind_eq_ok.1 hloaded
  rw [mapError_eq_ok] at hfound
  obtain ⟨place, e, rfl, he, hups, hshort⟩ := exists_place_of_locate hp hthere hfile
  rw [load, locate_of_leaves h hp hthere, hfile]
  change (files'.holds _).mapError _ >>= _ = _
  cases found with
  | false =>
    -- Without a file the settings go to the usual place, which is beside it.
    cases hread
    have husual : settings = ⟨"/", place ++ [".scrollmarks", "settings.json"]⟩ := by
      have hjoin : settings = ⟨"/", (place ++ [fileName]).dropLast ++ [".scrollmarks", "settings.json"]⟩ :=
        (Except.ok.inj hsettings).symm
      rw [hjoin, List.dropLast_concat]
    subst husual
    obtain ⟨e', he', -⟩ := h.find? he
    rw [holds_of_leaves_usual h.toGrows he he' hups hshort hfound]
    rfl
  | true =>
    obtain ⟨text, htext, hdocument⟩ := bind_eq_ok.1 hread
    rw [mapError_eq_ok] at htext
    obtain ⟨raw, hraw, -⟩ := Files.readText_eq_ok_iff.1 htext
    have hraw' := h.read_eq hraw fun hsame => hapart.other ?_
    · have hread' : files'.readText ⟨"/", place ++ [fileName]⟩ = .ok text := by
        rw [← htext, Files.readText, Files.readText, hraw, hraw']
      rw [Files.holds, Files.test, Files.read_eq_ok_iff.1 hraw']
      change (files'.readText _).mapError _ >>= _ = _
      rw [hread']
      exact hdocument
    · rw [Path.resolve_absolute _ hups] at hsame
      rw [hfile]
      exact congrArg Except.ok (congrArg (Path.mk "/") hsame)

theorem Apart.of_leaves (h : files.Leaves settings files') (hapart : Apart ⟨files, homes⟩ dir settings) :
    Apart ⟨files', homes⟩ dir settings := by
  obtain ⟨p, hp, hthere⟩ := hapart.there
  obtain ⟨place, e, hplace, he⟩ := Files.holds_eq_true_iff.1 hthere
  obtain ⟨e', he', -⟩ := h.find? he
  refine ⟨⟨p, hp, Files.holds_eq_true_iff.2 ⟨place, e', h.locate_eq hplace, he'⟩⟩, ?_⟩
  rw [locate_of_leaves h hp hthere, h.cwd]
  exact hapart.other

end Config

end Landmarks
