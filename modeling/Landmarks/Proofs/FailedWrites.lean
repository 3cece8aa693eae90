import Landmarks.Proofs.FileContents
import Landmarks.Proofs.Notification
import Landmarks.Proofs.StoredFlags

/-!
# Writes that fail

* `Store.sameContents_of_writeFile` : a write that fails changes no file, though directories may have been made.
* `Hub.exec_save_eq_file_error` : what has happened when flags could not be written.
* `Hub.unwritten_in_force` : this is so just if the file is legible and cannot be written. Then nobody is told and
  no file is changed, but the flags are in force.
-/

namespace Landmarks

open Utf8 (Byte)

namespace Store

variable {files files' : Files} {path : Path} {content : List Byte} {e : FileError}

/-- Whether directories are missing or the file itself cannot be written, every file stays as it is. -/
theorem sameContents_of_writeFile (h : exec (writeFile path content) files = (.error e, files')) :
    files.SameContents files' := by
  have hsame : files.SameContents (exec (Files.makeDirs path.parent) files).2 :=
    Files.sameContents_makeDirsUp _ files path.parent
  rcases hdirs : exec (Files.makeDirs path.parent) files with ⟨e' | ⟨⟩, mid⟩
  · rw [hdirs] at hsame
    rw [writeFile, exec_bind_of_error hdirs] at h
    cases h
    exact hsame
  · rw [hdirs] at hsame
    rw [writeFile, exec_bind_of_ok hdirs] at h
    obtain rfl := Files.exec_write_of_error h
    exact hsame

theorem not_writable_iff (content : List Byte) :
    ¬ Writable files path ↔ ∃ e files', exec (writeFile path content) files = (.error e, files') := by
  constructor
  · intro h
    rcases hrun : exec (writeFile path content) files with ⟨e | ⟨⟩, files'⟩
    · exact ⟨e, files', rfl⟩
    · exact absurd (writable_of_writeFile hrun) h
  · rintro ⟨e, files', hrun⟩ hwritable
    obtain ⟨_, hwritten, -⟩ := exec_writeFile hwritable content
    rw [hrun] at hwritten
    cases hwritten

end Store

namespace Hub

variable {h h' : Hub} {n : Nat} {st : Store String} {flags : Flags} {e : FileError}

/-- Saving fails for want of a place to write just if the old content was read and writing failed. The flags are
in force by then. -/
theorem exec_save_eq_file_error {flags : Option Flags} (hst : h.stores[n]? = some st) :
    exec (save n flags) h = (.error (.file e), h') ↔
      ∃ path old log files, st.path = some path ∧ Store.payloadAt h.files path = .ok (old, log) ∧
        exec (Store.writeFile path (Store.fileBytes (Store.savedFields st.collection (flags.getD st.flags) old)))
          h.files = (.error e, files) ∧
        h' = { h with stores := h.stores.set n { st with flags := flags.getD st.flags }
                      files
                      log := h.log ++ log } := by
  constructor
  · intro hrun
    rcases Option.eq_none_or_eq_some st.path with hpath | ⟨path, hpath⟩
    · rw [exec_save hst (Store.persist_of_none hpath _)] at hrun
      cases hrun
    · rcases hold : Store.payloadAt h.files path with e' | ⟨old, log⟩
      · rw [exec_save_of_content_error hst (Store.persist_of_error hpath hold _)] at hrun
        cases hrun
      · have hpersist := Store.persist_of_payloadAt hpath hold (flags.getD st.flags)
        rcases hwrite : exec (Store.writeFile path _) h.files with ⟨written, files⟩
        rw [hwrite] at hpersist
        rw [exec_save hst hpersist] at hrun
        cases written with
        | ok _ => cases hrun
        | error e' =>
          cases hrun
          exact ⟨path, old, log, files, hpath, hold, hwrite, rfl⟩
  · rintro ⟨path, old, log, files, hpath, hold, hwrite, rfl⟩
    have hpersist := Store.persist_of_payloadAt hpath hold (flags.getD st.flags)
    rw [hwrite] at hpersist
    exact exec_save hst hpersist

/-- **Flags that cannot be written are in force all the same.** Saving flags fails for want of a place to write
just if the file is legible and cannot be written. Applying them, or changes that amount to them, then fails in the
same way. No listener is called, every file stays as it is, and nothing else changes but the flags in force, which
are the new ones. -/
theorem unwritten_in_force (hst : h.stores[n]? = some st) (flags : Flags) :
    ((∃ e h', exec (save n (some flags)) h = (.error (.file e), h')) ↔
        ∃ path, st.path = some path ∧ Store.Legible h.files path ∧ ¬ Store.Writable h.files path) ∧
      ∀ e h', exec (save n (some flags)) h = (.error (.file e), h') →
        exec (apply n flags) h = (.error (.file e), h') ∧
        (∀ changes fit, checkChanges changes = .ok fit → st.flags.setAll fit = flags →
          exec (update n changes) h = (.error (.file e), h')) ∧
        ∃ files log, h.files.SameContents files ∧
          h' = { h with stores := h.stores.set n { st with flags }, files, log := h.log ++ log } := by
  refine ⟨⟨?_, ?_⟩, fun e h' hsave => ⟨exec_apply_of_save_error hsave, ?_, ?_⟩⟩
  · rintro ⟨e, h', hsave⟩
    obtain ⟨path, old, log, files, hpath, hold, hwrite, -⟩ := (exec_save_eq_file_error hst).1 hsave
    exact ⟨path, hpath, Store.exists_payloadAt_iff.1 ⟨_, hold⟩, (Store.not_writable_iff _).2 ⟨e, files, hwrite⟩⟩
  · rintro ⟨path, hpath, hlegible, hunwritable⟩
    obtain ⟨⟨old, log⟩, hold⟩ := Store.exists_payloadAt_iff.2 hlegible
    obtain ⟨e, files, hwrite⟩ := (Store.not_writable_iff
      (Store.fileBytes (Store.savedFields st.collection flags old))).1 hunwritable
    exact ⟨e, _, (exec_save_eq_file_error hst).2 ⟨path, old, log, files, hpath, hold, hwrite, rfl⟩⟩
  · rintro changes fit hfit rfl
    exact exec_update_of_save_error hst hfit hsave
  · obtain ⟨path, old, log, files, -, -, hwrite, rfl⟩ := (exec_save_eq_file_error hst).1 hsave
    exact ⟨files, log, Store.sameContents_of_writeFile hwrite, rfl⟩

/-- A store whose file would be where a directory is. -/
def atDirectory : Hub where
  files := ⟨.directory [("d", .empty)], ⟨"/", []⟩⟩
  stores := [⟨some ⟨"/", ["d"]⟩, "main", {}, {}, []⟩]

theorem isDirectory_atDirectory : atDirectory.files.isDirectory ⟨"/", ["d"]⟩ = .ok true := by decide +kernel

theorem exec_writeFile_atDirectory (content : List Byte) :
    exec (Store.writeFile ⟨"/", ["d"]⟩ content) atDirectory.files = (.error .isDirectory, atDirectory.files) := by
  have habove : atDirectory.files.isDirectory (Path.parent ⟨"/", ["d"]⟩) = .ok true := by decide +kernel
  rw [Store.writeFile, exec_bind_of_ok (Files.exec_makeDirs_of_directory habove),
    Files.exec_write_of_directory isDirectory_atDirectory]

theorem legible_atDirectory : Store.Legible atDirectory.files ⟨"/", ["d"]⟩ := by
  have hread : atDirectory.files.read ⟨"/", ["d"]⟩ = .error .isDirectory := by decide +kernel
  refine ⟨by decide, fun bytes hbytes => ?_⟩
  rw [hread] at hbytes
  cases hbytes

/-- Headers are not shown any more though this was not saved. -/
theorem save_atDirectory :
    ∃ h', exec (save 0 (some { headers := false })) atDirectory = (.error (.file .isDirectory), h') ∧
      h'.flagsOf 0 ≠ atDirectory.flagsOf 0 := by
  obtain ⟨⟨old, log⟩, hold⟩ := Store.exists_payloadAt_iff.2 legible_atDirectory
  refine ⟨_, (exec_save_eq_file_error rfl).2
    ⟨_, old, log, atDirectory.files, rfl, hold, exec_writeFile_atDirectory _, rfl⟩, ?_⟩
  have hold : atDirectory.flagsOf 0 = some {} := rfl
  rw [hold]
  change some ({ headers := false } : Flags) ≠ some {}
  decide

theorem unwritten_atDirectory :
    ∃ e h', exec (save 0 (some { headers := false })) atDirectory = (.error (.file e), h') ∧
      exec (apply 0 { headers := false }) atDirectory = (.error (.file e), h') ∧
      exec (update 0 [("show_headers", .bool false)]) atDirectory = (.error (.file e), h') ∧
      atDirectory.files.SameContents h'.files ∧ h'.events = [] := by
  have hst : atDirectory.stores[0]? = some ⟨some ⟨"/", ["d"]⟩, "main", {}, {}, []⟩ := rfl
  have hunwritable : ¬ Store.Writable atDirectory.files ⟨"/", ["d"]⟩ := by
    intro h
    rw [Store.Writable, exec_writeFile_atDirectory] at h
    cases h
  obtain ⟨hiff, hall⟩ := unwritten_in_force hst { headers := false }
  obtain ⟨e, h', hsave⟩ := hiff.2 ⟨_, rfl, legible_atDirectory, hunwritable⟩
  obtain ⟨happly, hupdate, files, log, hsame, rfl⟩ := hall e h' hsave
  exact ⟨e, _, hsave, happly, hupdate _ _ rfl rfl, hsame, rfl⟩

end Hub

end Landmarks
