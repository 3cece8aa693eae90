import Landmarks.Proofs.FileTree
import Landmarks.Proofs.JsonRoundTrip
import Landmarks.Proofs.Utf8
import Landmarks.Settings.Store

/-!
# The settings file

* `Store.Writable` : a file can be written at a path; writing it keeps it so.
* `Store.Keeps` : the file is an object of the present version that holds just some flags under a
  collection.
* `Store.load_of_keeps`, `Store.openAt_of_keeps` : these flags are loaded, whatever the defaults are.
* `Store.flags_of_openAt_of_not_sound` : under a name that does not survive its own written form nothing is found.
* `Store.write_saved` : saving makes the file keep the flags of the collection, if its name is sound, and what it
  keeps of other collections stays.
-/

namespace Landmarks

open Utf8 (Byte)

/-! ## Texts in files -/

namespace Files

theorem unifyBreaks_of_no_return {cs : List Char} (h : '\r' ∉ cs) : unifyBreaks cs = cs := by
  induction cs with
  | nil => rfl
  | cons c cs ih =>
    rw [List.mem_cons, not_or] at h
    rw [unifyBreaks, ih h.2]
    · rintro tail rfl
      exact absurd rfl h.1
    · rintro rfl
      exact absurd rfl h.1

theorem readText_of_read {fs : Files} {p : Path} {cs : List Char} (h : fs.read p = .ok (Utf8.encode cs))
    (hreturn : '\r' ∉ cs) : fs.readText p = .ok cs := by
  rw [readText, h]
  simp only [Utf8.decode_encode, unifyBreaks_of_no_return hreturn]

end Files

/-! ## Flags as fields -/

/-- The fields that flags are stored as. -/
def Flags.fields (flags : Flags) : Json.Fields := flags.toList.map fun (f, b) => (f.name, .bool b)

theorem Flags.names_fields (flags : Flags) :
    Named.names flags.fields = Flag.all.map fun f => Str.ofString f.name := by
  simp [Named.names, Flags.fields, Flags.toList, Function.comp_def]

theorem Flags.nodup_names_fields (flags : Flags) : (Named.names flags.fields).Nodup := by
  rw [flags.names_fields]
  decide

theorem Flags.find?_fields (flags : Flags) (f : Flag) :
    Named.find? flags.fields f.name = some (.bool (flags.get f)) := by
  cases f <;> rfl

theorem Flags.readable_toJson (flags : Flags) : flags.toJson.Readable := by
  refine ⟨flags.nodup_names_fields, Json.readableFields_iff.2 fun field hfield => ?_⟩
  obtain ⟨⟨f, b⟩, -, rfl⟩ := List.mem_map.1 hfield
  exact ⟨Str.sound_ofString f.name, trivial⟩

theorem Flags.perm_sortFields {flags : Flags} {stored : Json.Fields} (h : stored.Perm flags.fields) :
    (Json.sortFields stored).Perm flags.fields := by
  have hsame : stored.map (fun f => (f.1, f.2.sortKeys)) = stored := by
    refine (List.map_congr_left fun f hf => ?_).trans stored.map_id
    obtain ⟨⟨flag, b⟩, -, rfl⟩ := List.mem_map.1 (h.mem_iff.1 hf)
    rfl
  have hperm := Json.sortFields_perm stored
  rw [hsame] at hperm
  exact hperm.trans h

namespace Store

variable {files files' : Files} {path : Path} {collection : Str} {flags : Flags}

/-! ## Loading -/

theorem loadFrom_eq {stored : Json.Fields} (h : stored.Perm flags.fields) (defaults : Flags) :
    Flag.all.foldl (loadFlag stored) (defaults, []) = (flags, []) := by
  have hfind : ∀ f : Flag, Named.find? stored f.name = some (.bool (flags.get f)) := by
    intro f
    have hnames := (Named.perm_names h).nodup_iff.2 flags.nodup_names_fields
    rw [Named.find?_perm h hnames, flags.find?_fields]
  simp only [Flag.all, List.foldl_cons, List.foldl_nil, loadFlag, hfind]
  rfl

/-- The file at a path is an object of the present version that holds just some flags under a
collection. -/
def Keeps (files : Files) (path : Path) (collection : Str) (flags : Flags) : Prop :=
  ∃ text fields collections stored,
    files.readText path = .ok text ∧ Json.parse text = .ok (.obj fields) ∧
    Named.find? fields "version" = some (.int version) ∧
    Named.find? fields "collections" = some (.obj collections) ∧
    Named.find? collections collection = some (.obj stored) ∧
    stored.Perm flags.fields

theorem payloadAt_of_parse {text : List Char} {fields : Json.Fields} (htext : files.readText path = .ok text)
    (hparse : Json.parse text = .ok (.obj fields)) (hversion : Named.find? fields "version" = some (.int version)) :
    payloadAt files path = .ok (fields, []) := by
  simp only [payloadAt, htext, hparse, hversion, Option.getD_some]
  rfl

theorem Keeps.payloadAt_eq (h : Keeps files path collection flags) :
    ∃ fields collections stored, payloadAt files path = .ok (fields, []) ∧
      Named.find? fields "collections" = some (.obj collections) ∧
      Named.find? collections collection = some (.obj stored) ∧ stored.Perm flags.fields := by
  obtain ⟨text, fields, collections, stored, htext, hparse, hversion, hcollections, hstored, hperm⟩ := h
  exact ⟨fields, collections, stored, payloadAt_of_parse htext hparse hversion, hcollections, hstored, hperm⟩

/-- The flags that the file keeps for a store are loaded. -/
theorem load_of_keeps {ι : Type} {st : Store ι} (hpath : st.path = some path)
    (h : Keeps files path st.collection flags) : st.load files = .ok (flags, []) := by
  obtain ⟨fields, collections, stored, hpayload, hcollections, hstored, hperm⟩ := h.payloadAt_eq
  have hfrom : loadFrom st.defaults st.collection fields = (flags, []) := by
    simp only [loadFrom, hcollections, fieldsOf, hstored]
    exact loadFrom_eq hperm st.defaults
  have hpayload' : st.payload files = .ok (fields, []) := by
    rw [payload, hpath]
    exact hpayload
  rw [load, hpayload']
  change Except.ok ((loadFrom st.defaults st.collection fields).1, [] ++ (loadFrom st.defaults st.collection fields).2) = _
  rw [hfrom]
  rfl

theorem openAt_of_keeps {ι : Type} (h : Keeps files path collection flags) (defaults : Flags) :
    openAt files (some path) collection defaults =
      .ok (({ path := some path, collection, defaults, flags } : Store ι), []) := by
  have hload : load files ({ path := some path, collection, defaults, flags := defaults } : Store ι) = .ok (flags, []) :=
    load_of_keeps rfl h
  rw [openAt, hload]
  rfl

/-- A store that was opened has nobody to tell, and its file can be read. -/
theorem openAt_eq_ok {ι : Type} {defaults : Flags} {st : Store ι} {log : List Record}
    (h : openAt files (some path) collection defaults = .ok (st, log)) :
    (∃ fields log, payloadAt files path = .ok (fields, log)) ∧ st.path = some path ∧ st.listeners = [] := by
  cases hpayload : payloadAt files path with
  | error e =>
    simp only [openAt, load, payload, hpayload] at h
    cases h
  | ok found =>
    simp only [openAt, load, payload, hpayload] at h
    cases h
    exact ⟨⟨_, _, rfl⟩, rfl, rfl⟩

theorem fields_of_openAt {ι : Type} {path : Option Path} {defaults : Flags} {st : Store ι} {log : List Record}
    (h : openAt files path collection defaults = .ok (st, log)) :
    st.collection = collection ∧ st.defaults = defaults := by
  obtain ⟨found, -, hst⟩ := bind_eq_ok.1 h
  cases hst
  exact ⟨rfl, rfl⟩

/-! ## Writing -/

/-- A file can be written at a path. -/
def Writable (files : Files) (path : Path) : Prop := (exec (writeFile path []) files).1 = .ok ()

/-- What is there when a file has been written: its directory, and a place that is free for it. -/
theorem exists_of_writeFile {content : List Byte} (h : exec (writeFile path content) files = (.ok (), files')) :
    ∃ mid place, exec (Files.makeDirs path.parent) files = (.ok (), mid) ∧ mid.locate path = .ok place ∧
      mid.tree.Free place := by
  obtain ⟨⟨⟩, mid, hdirs, hwrite⟩ := exec_bind_eq_ok.1 h
  obtain ⟨place, hplace, hfree⟩ := Files.free_of_write hwrite
  exact ⟨mid, place, hdirs, hplace, hfree⟩

/-- Whether a file can be written does not depend on its content. -/
theorem writable_of_writeFile {content : List Byte} (h : exec (writeFile path content) files = (.ok (), files')) :
    Writable files path := by
  obtain ⟨mid, place, hdirs, hplace, hfree⟩ := exists_of_writeFile h
  rw [Writable, writeFile, exec_bind_of_ok hdirs, Files.exec_write_of_free hplace hfree]

/-- What is written can be read, and written again. -/
theorem exec_writeFile (h : Writable files path) (content : List Byte) :
    ∃ files', exec (writeFile path content) files = (.ok (), files') ∧ files'.read path = .ok content ∧
      Writable files' path := by
  rcases hrun : exec (writeFile path []) files with ⟨e | ⟨⟩, after⟩
  · rw [Writable, hrun] at h
    cases h
  · obtain ⟨mid, place, hdirs, hplace, hfree⟩ := exists_of_writeFile hrun
    have hdirectory := Files.isDirectory_of_makeDirs hdirs
    refine ⟨mid.withEntry place (.file content), ?_, Files.read_put_self hfree hplace content, ?_⟩
    · rw [writeFile, exec_bind_of_ok hdirs, Files.exec_write_of_free hplace hfree]
    · have hfree' : (mid.withEntry place (.file content)).tree.Free place := by
        intro es hes
        rw [Files.withEntry, Entry.find?_put_self] at hes
        cases hes
      rw [Writable, writeFile,
        exec_bind_of_ok (Files.exec_makeDirs_of_directory (Files.isDirectory_put hfree hdirectory _)),
        Files.exec_write_of_free (Files.locate_put hfree hplace) hfree']

/-- Without a path there is nothing to write. -/
theorem persist_of_none {ι : Type} {st : Store ι} (hpath : st.path = none) (flags : Flags) :
    { st with flags }.persist files = .ok ((.ok (), files), []) := by
  simp only [persist, hpath]

/-- The flags of a store are written into what its file holds. -/
theorem persist_of_payloadAt {ι : Type} {st : Store ι} {old : Json.Fields} {log : List Record}
    (hpath : st.path = some path) (hold : payloadAt files path = .ok (old, log)) (flags : Flags) :
    { st with flags }.persist files =
      .ok (exec (writeFile path (fileBytes (savedFields st.collection flags old))) files, log) := by
  simp only [persist, hpath, hold]
  rfl

theorem persist_of_error {ι : Type} {st : Store ι} {e : ContentError} (hpath : st.path = some path)
    (hold : payloadAt files path = .error e) (flags : Flags) : { st with flags }.persist files = .error e := by
  simp only [persist, hpath, hold]
  rfl

/-- What a file holds is readable. -/
theorem readable_payloadAt {fields : Json.Fields} {log : List Record} (h : payloadAt files path = .ok (fields, log)) :
    (Json.obj fields).Readable := by
  have hempty : (Json.obj []).Readable := ⟨List.nodup_nil, trivial⟩
  simp only [payloadAt] at h
  split at h
  · cases h
  · cases h
  · cases h
    exact hempty
  · cases h
    exact hempty
  · split at h
    · cases h
    · cases h
      exact hempty
    · rename_i found hparse
      split_ifs at h
      · cases h
        exact Json.readable_parse hparse
      · cases h
        exact hempty
    · cases h
      exact hempty

theorem readable_of_find? {fields : Json.Fields} (h : (Json.obj fields).Readable) {key : Str} {v : Json}
    (hv : Named.find? fields key = some v) : v.Readable :=
  (Json.readableFields_iff.1 h.2 (key, v) ((Named.find?_eq_some_iff h.1).1 hv)).2

theorem readable_fieldsOf {old : Json.Fields} (hold : (Json.obj old).Readable) (key : Str) :
    (Json.obj (fieldsOf (Named.find? old key))).Readable := by
  unfold fieldsOf
  split
  · rename_i fields hfields
    exact readable_of_find? hold hfields
  · exact ⟨List.nodup_nil, trivial⟩

/-- Nothing is found under a name that is not sound, whatever the file holds. -/
theorem flags_of_openAt_of_not_sound {ι : Type} {defaults : Flags} {st : Store ι} {log : List Record}
    (hunsound : ¬ collection.Sound) (h : openAt files (some path) collection defaults = .ok (st, log)) :
    st.flags = defaults := by
  obtain ⟨⟨fields, said, hpayload⟩, -⟩ := openAt_eq_ok h
  have hread := readable_fieldsOf (readable_payloadAt hpayload) "collections"
  have hnone : Named.find? (fieldsOf (Named.find? fields "collections")) collection = none := by
    refine Option.eq_none_iff_forall_ne_some.2 fun v hv => hunsound ?_
    exact (Json.readableFields_iff.1 hread.2 (collection, v) ((Named.find?_eq_some_iff hread.1).1 hv)).1
  have hfrom : loadFrom defaults collection fields = (defaults, []) := by
    simp only [loadFrom, hnone]
    rfl
  simp only [openAt, load, payload, hpayload, bind, Except.bind, pure, Except.pure, hfrom] at h
  cases h
  rfl

theorem readable_version : (Json.int version).Readable := (by decide +kernel : Number.isWritable version = true)

theorem readable_savedFields {old : Json.Fields} (h : (Json.obj old).Readable) (hcollection : collection.Sound)
    (flags : Flags) : (Json.obj (savedFields collection flags old)).Readable := by
  have hput := Json.readable_obj_put (readable_fieldsOf h "collections") hcollection flags.readable_toJson
  refine Json.readable_obj_put (Json.readable_obj_put h ?_ hput) ?_ readable_version
  · exact Str.sound_ofString _
  · exact Str.sound_ofString _

/-- Whatever the name of the collection is, what is written can be read. -/
theorem printable_savedFields {old : Json.Fields} (h : (Json.obj old).Readable) (collection : Str) (flags : Flags) :
    (Json.obj (savedFields collection flags old)).Printable := by
  have hput := Json.printable_obj_put (readable_fieldsOf h "collections").printable flags.readable_toJson.printable collection
  exact Json.printable_obj_put (Json.printable_obj_put h.printable hput _) readable_version.printable _

/-- What is written is kept. -/
theorem keeps_of_read {fields collections stored : Json.Fields} (hread : files.read path = .ok (fileBytes fields))
    (hfields : (Json.obj fields).Readable) (hversion : Named.find? fields "version" = some (.int version))
    (hcollections : Named.find? fields "collections" = some (.obj collections))
    (hstored : Named.find? collections collection = some (.obj stored)) (hperm : stored.Perm flags.fields) :
    Keeps files path collection flags := by
  have hnames := (readable_of_find? hfields hcollections).1
  refine ⟨_, Json.sortFields fields, Json.sortFields collections, Json.sortFields stored,
    Files.readText_of_read hread (Json.no_return_pretty _), Json.parse_pretty (Json.readable_sortKeys _ hfields),
    ?_, ?_, ?_, Flags.perm_sortFields hperm⟩
  · rw [Json.find?_sortFields hfields.1, hversion]
    rfl
  · rw [Json.find?_sortFields hfields.1, hcollections]
    rfl
  · rw [Json.find?_sortFields hnames, hstored]
    rfl

/-- A file that was written can be read again. -/
theorem exists_payloadAt_of_read {fields : Json.Fields} (hread : files.read path = .ok (fileBytes fields))
    (hfields : (Json.obj fields).sortKeys.Printable) : ∃ found, payloadAt files path = .ok found := by
  simp only [payloadAt, Files.readText_of_read hread (Json.no_return_pretty _), Json.parse_pretty_of_printable hfields]
  rw [Json.sortKeys, Json.readBack]
  dsimp only
  split_ifs
  · exact ⟨_, rfl⟩
  · exact ⟨_, rfl⟩

/-- Saving succeeds where a file can be written. Under a sound name the file keeps the flags, and what it keeps of
other collections stays. -/
theorem write_saved {old : Json.Fields} {log : List Record} (hold : payloadAt files path = .ok (old, log))
    (hwritable : Writable files path) (collection : Str) (flags : Flags) :
    ∃ files', exec (writeFile path (fileBytes (savedFields collection flags old))) files = (.ok (), files') ∧
      Writable files' path ∧ (collection.Sound → Keeps files' path collection flags ∧
        ∀ other kept, other ≠ collection → Keeps files path other kept → Keeps files' path other kept) := by
  obtain ⟨files', hwrite, hread, hwritable'⟩ :=
    exec_writeFile hwritable (fileBytes (savedFields collection flags old))
  refine ⟨files', hwrite, hwritable', fun hsound => ?_⟩
  have hfields := readable_savedFields (readable_payloadAt hold) hsound flags
  have hversion : Named.find? (savedFields collection flags old) "version" = some (.int version) :=
    Named.find?_put_self _ _ _
  have hcollections : Named.find? (savedFields collection flags old) "collections" =
      some (.obj (Named.put collection flags.toJson (fieldsOf (Named.find? old "collections")))) := by
    rw [savedFields, Named.find?_put_of_ne _ (by decide), Named.find?_put_self]
  refine ⟨?_, fun other kept hother hkept => ?_⟩
  · exact keeps_of_read hread hfields hversion hcollections (Named.find?_put_self _ _ _) (List.Perm.refl _)
  · obtain ⟨fields, collections, stored, hpayload, hold', hstored, hperm⟩ := hkept.payloadAt_eq
    obtain ⟨rfl, rfl⟩ : old = fields ∧ log = [] := by
      rw [hold] at hpayload
      cases hpayload
      exact ⟨rfl, rfl⟩
    refine keeps_of_read hread hfields hversion hcollections ?_ hperm
    rw [Named.find?_put_of_ne _ hother, hold']
    exact hstored

end Store

end Landmarks
