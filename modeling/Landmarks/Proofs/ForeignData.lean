import Landmarks.Proofs.FileContents
import Landmarks.Proofs.HubOperations
import Landmarks.Proofs.StoredFlags

/-!
# Saving keeps what belongs to others

* `Json.Same` : values that differ in the order of fields only; `Json.same_sortKeys` : putting fields in order
  does no more.
* `Store.writable_of_read` : a file that can be read can be written, its directory being there.
* `Store.Saved` : an object is another one with the flags of one collection and the version set.
* `Hub.save_keeps_foreign` : after saving, the file is the old object changed just so.
-/

namespace Landmarks

open Utf8 (Byte)

/-! ## Values up to the order of fields -/

namespace Json

/-- Values that differ in the order of fields only. -/
inductive Same : Json → Json → Prop
  | refl (v : Json) : Same v v
  | arr {xs ys : List Json} (items : List.Forall₂ Same xs ys) : Same (.arr xs) (.arr ys)
  | obj {fs gs : Fields} (fields : ∀ key, Option.Rel Same (Named.find? fs key) (Named.find? gs key)) :
      Same (.obj fs) (.obj gs)

theorem rel_map_sortKeys {v : Option Json} (h : ∀ w, v = some w → Same w.sortKeys w) :
    Option.Rel Same (v.map sortKeys) v := by
  cases v with
  | none => exact .none
  | some w => exact .some (h w rfl)

mutual

/-- With its fields in order a value is the same. -/
theorem same_sortKeys : ∀ v, Readable v → Same (sortKeys v) v
  | null, _ => .refl _
  | bool _, _ => .refl _
  | int _, _ => .refl _
  | float _, _ => .refl _
  | str _, _ => .refl _
  | arr xs, h => .arr (same_sortItems xs h)
  | obj fs, h => by
    refine .obj fun key => ?_
    rw [find?_sortFields h.1]
    refine rel_map_sortKeys fun w hw => ?_
    exact same_sortValues fs h.2 (key, w) ((Named.find?_eq_some_iff h.1).1 hw)

theorem same_sortItems : ∀ xs, ReadableItems xs → List.Forall₂ Same (sortItems xs) xs
  | [], _ => .nil
  | x :: xs, h => .cons (same_sortKeys x h.1) (same_sortItems xs h.2)

theorem same_sortValues : ∀ fs, ReadableFields fs → ∀ f ∈ fs, Same (sortKeys f.2) f.2
  | [], _ => nofun
  | (_, v) :: fs, h => List.forall_mem_cons.2 ⟨same_sortKeys v h.1.2, same_sortValues fs h.2⟩

end

end Json

/-! ## A file that is there can be written -/

namespace Files

variable {files : Files} {path : Path} {content : List Byte}

/-- The working directory is a directory. -/
def HasHome (files : Files) : Prop := files.isDirectory ⟨"", []⟩ = .ok true

/-- A path without parts denotes the working directory or the root, and these are no files. -/
theorem HasHome.parts_ne_nil (hhome : files.HasHome) (h : files.read path = .ok content) : path.parts ≠ [] := by
  obtain ⟨root, parts⟩ := path
  rintro rfl
  obtain ⟨place, es, hplace, hes⟩ := isDirectory_eq_true_iff.1 hhome
  obtain ⟨here, hhere, hfile⟩ := lookup_eq_ok_iff.1 (read_eq_ok_iff.1 h)
  unfold locate at hplace hhere
  split_ifs at hplace hhere
  by_cases hroot : root = ""
  · subst hroot
    rw [hplace] at hhere
    cases hhere
    rw [hes] at hfile
    cases hfile
  · rw [Path.join, Path.isAbsolute, if_pos (by simpa using hroot)] at hhere
    cases hhere
    rw [Entry.find?_nil, Option.some.injEq] at hfile
    rw [hfile] at hes
    cases place <;> simp [Entry.find?] at hes

end Files

/-- A file that can be read can be written: the directory that it is in is there. -/
theorem Store.writable_of_read {files : Files} {path : Path} {content : List Byte} (hhome : files.HasHome)
    (h : files.read path = .ok content) : Writable files path := by
  obtain ⟨place, hplace, hfile⟩ := Files.lookup_eq_ok_iff.1 (Files.read_eq_ok_iff.1 h)
  obtain ⟨above, es, habove, hes, -⟩ := Files.locate_parent (hhome.parts_ne_nil h) hplace
  have hdirectory := Files.isDirectory_eq_true_iff.2 ⟨above, es, habove, hes⟩
  have hfree : files.tree.Free place := by
    intro es' hes'
    rw [hfile] at hes'
    cases hes'
  rw [Writable, writeFile, exec_bind_of_ok (Files.exec_makeDirs_of_directory hdirectory),
    Files.exec_write_of_free hplace hfree]

/-! ## What is saved -/

theorem Flags.find?_fields_eq (flags : Flags) (key : Str) :
    Named.find? flags.fields key = (key.text?.bind Flag.ofName?).map fun f => .bool (flags.get f) := by
  cases hname : key.text?.bind Flag.ofName? with
  | some f =>
    obtain ⟨name, hkey, hflag⟩ := Option.bind_eq_some_iff.1 hname
    obtain rfl := Str.text?_eq_some_iff.1 hkey
    obtain rfl := Flag.ofName?_eq_some.1 hflag
    exact flags.find?_fields f
  | none =>
    refine Option.eq_none_iff_forall_ne_some.2 fun v hv => ?_
    obtain ⟨⟨f, b⟩, -, hfield⟩ := List.mem_map.1 ((Named.find?_eq_some_iff flags.nodup_names_fields).1 hv)
    cases hfield
    rw [Str.text?_ofString, Option.bind_some, f.ofName?_name] at hname
    cases hname

namespace Store

/-- An object is an old one with the version set and the flags of a collection: every other field is the same,
and so is every other collection, if there were some. -/
structure Saved (collection : Str) (flags : Flags) (old new : Json.Fields) : Prop where
  version : Named.find? new "version" = some (.int 1)
  collections : ∃ collections stored, Named.find? new "collections" = some (.obj collections) ∧
    Named.find? collections collection = some (.obj stored) ∧
    (∀ key : Str, Named.find? stored key = (key.text?.bind Flag.ofName?).map fun f => .bool (flags.get f)) ∧
    ∀ other, other ≠ collection → Option.Rel Json.Same (Named.find? collections other)
      ((Named.find? old "collections").bind (·.get? other))
  others : ∀ key : Str, key ≠ "version" → key ≠ "collections" →
    Option.Rel Json.Same (Named.find? new key) (Named.find? old key)

variable {files : Files} {path : Path} {old : Json.Fields}

/-- What is saved is the old object with the flags of the collection, its fields in order. -/
theorem saved_savedFields (hold : (Json.obj old).Readable) {collection : Str} (hsound : collection.Sound) (flags : Flags) :
    Saved collection flags old (Json.sortFields (savedFields collection flags old)) := by
  have hnew := readable_savedFields hold hsound flags
  have hkept := readable_fieldsOf hold "collections"
  have hcollections := Json.readable_obj_put hkept hsound flags.readable_toJson
  refine ⟨?_, ⟨Json.sortFields (Named.put collection flags.toJson (fieldsOf (Named.find? old "collections"))),
    Json.sortFields flags.fields, ?_, ?_, fun key => ?_, fun other hother => ?_⟩, fun key hversion hcollection => ?_⟩
  · rw [Json.find?_sortFields hnew.1, savedFields, Named.find?_put_self]
    rfl
  · rw [Json.find?_sortFields hnew.1, savedFields, Named.find?_put_of_ne _ (by decide), Named.find?_put_self]
    rfl
  · rw [Json.find?_sortFields hcollections.1, Named.find?_put_self]
    rfl
  · rw [Json.find?_sortFields flags.nodup_names_fields, flags.find?_fields_eq]
    cases key.text?.bind Flag.ofName? <;> rfl
  · rw [Json.find?_sortFields hcollections.1, Named.find?_put_of_ne _ hother, ← find?_fieldsOf]
    exact Json.rel_map_sortKeys fun w hw => Json.same_sortKeys w (readable_of_find? hkept hw)
  · rw [Json.find?_sortFields hnew.1, savedFields, Named.find?_put_of_ne _ hversion,
      Named.find?_put_of_ne _ hcollection]
    exact Json.rel_map_sortKeys fun w hw => Json.same_sortKeys w (readable_of_find? hold hw)

theorem decodes_of_read {fields : Json.Fields} (hread : files.read path = .ok (fileBytes fields))
    (hfields : (Json.obj fields).Readable) : files.Decodes path (.obj (Json.sortFields fields)) :=
  Files.decodes_iff.2 ⟨_, Files.readText_of_read hread (Json.no_return_pretty _),
    Json.parse_pretty (Json.readable_sortKeys _ hfields)⟩

theorem payloadAt_of_decodes {found : Json} (hold : files.Decodes path (.obj old))
    (hfound : Named.find? old "version" = some found) (hone : found.IsOne) :
    payloadAt files path = .ok (old, []) := by
  obtain ⟨text, htext, hparse⟩ := Files.decodes_iff.1 hold
  have hversion := (isVersion_iff (readable_of_find? (Json.readable_parse hparse) hfound)).2 hone
  simp only [payloadAt, htext, hparse, hfound, Option.getD_some, hversion, if_true]

end Store

/-- **Saving keeps what belongs to others.** Where the file of a store is an object of the present version,
saving flags succeeds, and the file is the old object after it, with the version the integer one and just these
flags under the collection of the store, whose name must be one that reads back. Nothing else is added, changed or
lost, whatever it is. -/
theorem Hub.save_keeps_foreign {h : Hub} {n : Nat} {st : Store String} {path : Path} {old : Json.Fields}
    {found : Json} (hhome : h.files.HasHome) (hst : h.stores[n]? = some st) (hpath : st.path = some path)
    (hsound : st.collection.Sound) (hold : h.files.Decodes path (.obj old)) (hfound : Named.find? old "version" = some found) (hone : found.IsOne)
    (flags : Flags) :
    ∃ h' new, exec (save n (some flags)) h = (.ok (), h') ∧ h'.files.Decodes path (.obj new) ∧
      Store.Saved st.collection flags old new := by
  obtain ⟨raw, hraw, hparse⟩ := hold
  have hpayload := Store.payloadAt_of_decodes ⟨raw, hraw, hparse⟩ hfound hone
  have hreadable := Json.readable_parse hparse
  obtain ⟨files', hwrite, hread, -⟩ := Store.exec_writeFile (Store.writable_of_read hhome hraw)
    (Store.fileBytes (Store.savedFields st.collection flags old))
  have hpersist : { st with flags := (some flags).getD st.flags }.persist h.files =
      .ok ((.ok (), files'), []) := by
    rw [Store.persist_of_payloadAt hpath hpayload, Option.getD_some, hwrite]
  refine ⟨_, _, exec_save hst hpersist, ?_, Store.saved_savedFields hreadable hsound flags⟩
  exact Store.decodes_of_read hread (Store.readable_savedFields hreadable hsound flags)

/-- A settings file with the version true, a list of notes under half a pair, and collections that are no
objects. -/
def Store.oddFields : Json.Fields :=
  [("version", .bool true), (⟨[.half 0]⟩, .arr [.null, .obj [("b", .int 2), ("a", .str ⟨[.half 0x400, .half 0]⟩)]]),
    ("collections", .obj [("theirs", .int 3), ("main", .str "none")])]

theorem Store.readable_oddFields : (Json.obj oddFields).Readable := by
  have htwo : (Json.int 2).Readable := (by decide +kernel : Number.isWritable 2 = true)
  have hthree : (Json.int 3).Readable := (by decide +kernel : Number.isWritable 3 = true)
  have hhalves : Str.Sound ⟨[.half 0x400, .half 0]⟩ := by decide
  have hnotes : (Json.arr [.null, .obj [("b", .int 2), ("a", .str ⟨[.half 0x400, .half 0]⟩)]]).Readable :=
    ⟨trivial, ⟨by decide, ⟨Str.sound_ofString _, htwo⟩, ⟨Str.sound_ofString _, hhalves⟩, trivial⟩, trivial⟩
  have hcollections : (Json.obj [("theirs", .int 3), ("main", .str "none")]).Readable :=
    ⟨by decide, ⟨Str.sound_ofString _, hthree⟩, ⟨Str.sound_ofString _, Str.sound_ofString _⟩, trivial⟩
  exact ⟨by decide, ⟨Str.sound_ofString _, trivial⟩, ⟨by decide, hnotes⟩, ⟨Str.sound_ofString _, hcollections⟩, trivial⟩

/-- A root directory with nothing in it. -/
def Files.bare : Files := ⟨.empty, ⟨"/", []⟩⟩

theorem Files.free_bare : bare.tree.Free ["s.json"] := by
  intro es hes
  simp [bare, Entry.empty, Entry.find?, Named.find?] at hes

theorem Files.locate_bare : bare.locate ⟨"/", ["s.json"]⟩ = .ok ["s.json"] := by decide +kernel

/-- One store, and only its settings file. -/
def Hub.odd : Hub where
  files := Files.bare.withEntry ["s.json"] (.file (Store.fileBytes Store.oddFields))
  stores := [⟨some ⟨"/", ["s.json"]⟩, "main", {}, {}, []⟩]

theorem Hub.save_odd :
    ∃ h' new, exec (save 0 (some {})) odd = (.ok (), h') ∧ h'.files.Decodes ⟨"/", ["s.json"]⟩ (.obj new) ∧
      Store.Saved "main" {} (Json.sortFields Store.oddFields) new := by
  have hst : odd.stores[0]? = some ⟨some ⟨"/", ["s.json"]⟩, "main", {}, {}, []⟩ := rfl
  have hhome : odd.files.HasHome := Files.isDirectory_put Files.free_bare (by decide +kernel) _
  have hold : odd.files.Decodes ⟨"/", ["s.json"]⟩ (.obj (Json.sortFields Store.oddFields)) :=
    Store.decodes_of_read (Files.read_put_self Files.free_bare Files.locate_bare _) Store.readable_oddFields
  have hfound : Named.find? (Json.sortFields Store.oddFields) "version" = some (.bool true) := by
    rw [Json.find?_sortFields Store.readable_oddFields.1]
    rfl
  exact save_keeps_foreign hhome hst rfl (Str.sound_ofString "main") hold hfound (.inr (.inr rfl)) {}

end Landmarks
