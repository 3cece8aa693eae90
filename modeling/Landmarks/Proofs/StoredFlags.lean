import Landmarks.Proofs.FlagLayers
import Landmarks.Proofs.JsonFaults
import Landmarks.Proofs.SettingsFile

/-!
# What is loaded from the settings file

* `Json.IsOne` : the values that count as the number one; `Store.isVersion_iff` : these are the present
  version.
* `Files.Decodes` : a file is UTF-8 JSON for a value.
* `Store.Legible` : the file can be read, whatever it says: it is missing or no file, or its bytes are UTF-8
  and no integer in it is too long.
* `Store.exists_payloadAt_iff` : only then is there something to load.
* `Store.Stored` : the file is an object of the present version that holds a truth value for a flag.
* `Store.load_stored` : opening and loading give what is stored for each flag, and else the default.
-/

namespace Landmarks

open Utf8 (Byte)

/-! ## The version -/

/-- A canonical number that is equal to one is the one that one is rounded to. -/
theorem Binary64.eq_one_of_toInt? {x : Binary64} (hx : x.Canonical) (h : x.toInt? = some 1) : x = ofInt 1 := by
  cases x with
  | nan => cases h
  | infinite negative => cases h
  | finite negative m e =>
    obtain ⟨hm, -, -, hfull⟩ := hx
    have hone : ofInt 1 = finite false (2 ^ 52) (-52) := by decide +kernel
    simp only [toInt?, Option.ite_none_right_eq_some, Option.some.injEq, beq_iff_eq] at h
    obtain ⟨hdvd, hquot⟩ := h
    have hcancel := Nat.div_mul_cancel (Nat.dvd_of_mod_eq_zero hdvd)
    generalize (ratio m e).1 / (ratio m e).2 = q at hquot hcancel
    obtain ⟨rfl, rfl⟩ : negative = false ∧ q = 1 := by
      cases negative with
      | false => exact ⟨rfl, by simpa using hquot⟩
      | true =>
        simp only [if_true] at hquot
        omega
    rw [one_mul] at hcancel
    rw [hone]
    unfold ratio at hcancel
    split_ifs at hcancel with he
    · -- the significand would be one, which is too short for an exponent of zero
      have hm1 : m = 1 := Nat.eq_one_of_mul_eq_one_right hcancel.symm
      rcases hfull with hfull | hfull
      · omega
      · rw [hfull] at he
        exact absurd he (by decide)
    · change 2 ^ (-e).toNat = m at hcancel
      subst hcancel
      have hlow : (-e).toNat < 53 := (Nat.pow_lt_pow_iff_right (by norm_num)).1 hm
      have hhigh : 52 ≤ (-e).toNat := by
        rcases hfull with hfull | hfull
        · exact (Nat.pow_le_pow_iff_right (by norm_num)).1 hfull
        · rw [hfull] at hlow
          exact absurd hlow (by decide)
      obtain rfl : e = -52 := by omega
      rfl

namespace Json

/-- A value that is equal to one: the integer, the floating-point number, or true. -/
def IsOne (v : Json) : Prop := v = .int 1 ∨ v = .float (Binary64.ofInt 1) ∨ v = .bool true

theorem get?_eq_some_iff {j v : Json} {key : Str} :
    j.get? key = some v ↔ ∃ fields, j = .obj fields ∧ Named.find? fields key = some v := by
  cases j <;> simp [get?]

theorem truth?_eq_some_iff {v : Json} {b : Bool} : v.truth? = some b ↔ v = .bool b := by
  cases v <;> simp [truth?]

end Json

theorem Store.isVersion_iff {v : Json} (hv : v.Readable) : isVersion v = true ↔ v.IsOne := by
  cases v with
  | int i => simp [isVersion, version, Json.IsOne]
  | bool b => simp [isVersion, Json.IsOne]
  | float x =>
    constructor
    · intro h
      exact .inr (.inl (congrArg Json.float (Binary64.eq_one_of_toInt? hv (eq_of_beq h))))
    · rintro (h | h | h)
      · cases h
      · cases h
        decide +kernel
      · cases h
  | null => simp [isVersion, Json.IsOne]
  | str s => simp [isVersion, Json.IsOne]
  | arr xs => simp [isVersion, Json.IsOne]
  | obj fs => simp [isVersion, Json.IsOne]

/-! ## Files that can be read -/

namespace Files

variable {files : Files} {path : Path}

theorem readText_eq_ok_iff {text : List Char} :
    files.readText path = .ok text ↔ ∃ raw, files.read path = .ok (Utf8.encode raw) ∧ unifyBreaks raw = text := by
  constructor
  · intro h
    unfold readText at h
    split at h
    · cases h
    · rename_i bytes hread
      split at h
      · cases h
      · rename_i raw hdecode
        cases h
        exact ⟨raw, by rw [hread, Utf8.decode_eq_ok_iff.1 hdecode], rfl⟩
  · rintro ⟨raw, hread, rfl⟩
    simp only [readText, hread, Utf8.decode_encode]

/-- The file at a path is UTF-8 JSON for a value. -/
def Decodes (files : Files) (path : Path) (v : Json) : Prop :=
  ∃ raw, files.read path = .ok (Utf8.encode raw) ∧ Json.parse (unifyBreaks raw) = .ok v

theorem decodes_iff {v : Json} :
    files.Decodes path v ↔ ∃ text, files.readText path = .ok text ∧ Json.parse text = .ok v := by
  simp only [Decodes, readText_eq_ok_iff]
  constructor
  · rintro ⟨raw, hread, hparse⟩
    exact ⟨_, ⟨raw, hread, rfl⟩, hparse⟩
  · rintro ⟨_, ⟨raw, hread, rfl⟩, hparse⟩
    exact ⟨raw, hread, hparse⟩

theorem descend_ne_nullByte (tree : Entry) (here : List String) (part : String) :
    descend tree here part ≠ .error .nullByte := by
  intro h
  unfold descend at h
  split at h
  · cases h
  · cases h
  · split_ifs at h
    cases h

theorem foldlM_descend_ne_nullByte (tree : Entry) (here parts : List String) :
    parts.foldlM (descend tree) here ≠ .error .nullByte := by
  induction parts generalizing here with
  | nil =>
    intro h
    cases h
  | cons part parts ih =>
    rw [List.foldlM_cons]
    cases hstep : descend tree here part with
    | error e =>
      intro h
      cases h
      exact descend_ne_nullByte tree here part hstep
    | ok next => exact ih next

theorem locate_eq_nullByte_iff : files.locate path = .error .nullByte ↔ path.hasNull = true := by
  unfold locate
  split_ifs with hnull hlong
  · simp [hnull]
  · simp [hnull]
  · simpa [hnull] using foldlM_descend_ne_nullByte files.tree [] _

/-- A path is refused by the reader itself only for a null byte. -/
theorem read_eq_nullByte_iff : files.read path = .error .nullByte ↔ path.hasNull = true := by
  have hlocate : files.locate path = .error .nullByte ↔ _ := locate_eq_nullByte_iff
  rw [← hlocate]
  cases hplace : files.locate path with
  | error e =>
    rw [read, lookup, hplace]
    simp [bind, Except.bind]
  | ok place =>
    rw [read, lookup, hplace]
    simp only [bind, Except.bind]
    cases files.tree.find? place with
    | none => simp
    | some e => cases e <;> simp

end Files

namespace Store

/-- The file at a path can be read, whatever it says: there is none, or its bytes are those of a text in
which no integer is too long. -/
def Legible (files : Files) (path : Path) : Prop :=
  path.hasNull = false ∧ ∀ bytes, files.read path = .ok bytes →
    ∃ raw, bytes = Utf8.encode raw ∧ ∀ digits, Json.parse (Files.unifyBreaks raw) ≠ .error (.longInteger digits)

variable {files : Files} {path : Path} {collection : Str}

theorem exists_payloadAt_of_text {text : List Char} (htext : files.readText path = .ok text) :
    (∃ found, payloadAt files path = .ok found) ↔ ∀ digits, Json.parse text ≠ .error (.longInteger digits) := by
  simp only [payloadAt, htext]
  cases hparse : Json.parse text with
  | error fault =>
    cases fault with
    | malformed => simp
    | longInteger digits => simp
  | ok content =>
    cases content with
    | obj fields =>
      simp only [ne_eq, reduceCtorEq, not_false_eq_true, implies_true, iff_true]
      split_ifs
      · exact ⟨_, rfl⟩
      · exact ⟨_, rfl⟩
    | _ => simp

/-- There is something to load, be it nothing, just if the file is legible. -/
theorem exists_payloadAt_iff : (∃ found, payloadAt files path = .ok found) ↔ Legible files path := by
  have hnull : files.read path = .error .nullByte ↔ path.hasNull = true := Files.read_eq_nullByte_iff
  cases hread : files.read path with
  | error e =>
    have htext : files.readText path = .error (.file e) := by rw [Files.readText, hread]
    rw [hread] at hnull
    have hlegible : Legible files path ↔ path.hasNull = false := by
      simp [Legible, hread]
    rw [hlegible, ← Bool.not_eq_true, ← hnull]
    cases e <;> simp [payloadAt, htext]
  | ok bytes =>
    have hvalid : path.hasNull = false := by
      rw [← Bool.not_eq_true, ← hnull, hread]
      intro h
      cases h
    cases hdecode : Utf8.decode bytes with
    | error e =>
      have htext : files.readText path = .error (.encoding e) := by simp only [Files.readText, hread, hdecode]
      constructor
      · rintro ⟨found, h⟩
        simp only [payloadAt, htext] at h
        cases h
      · rintro ⟨-, hbytes⟩
        obtain ⟨raw, rfl, -⟩ := hbytes bytes hread
        rw [Utf8.decode_encode] at hdecode
        cases hdecode
    | ok raw =>
      obtain rfl := Utf8.decode_eq_ok_iff.1 hdecode
      rw [exists_payloadAt_of_text (Files.readText_eq_ok_iff.2 ⟨raw, hread, rfl⟩)]
      constructor
      · intro hshort
        refine ⟨hvalid, fun bytes hbytes => ⟨raw, ?_, hshort⟩⟩
        rw [hread] at hbytes
        cases hbytes
        rfl
      · rintro ⟨-, hbytes⟩
        obtain ⟨raw', hsame, hshort⟩ := hbytes _ hread
        rw [← Utf8.decode_eq_ok_iff, hdecode] at hsame
        cases hsame
        exact hshort

theorem exists_openAt {ι : Type} (h : Legible files path) (collection : Str) (defaults : Flags) :
    ∃ (st : Store ι) (log : List Record), openAt files (some path) collection defaults = .ok (st, log) := by
  obtain ⟨⟨fields, log⟩, hpayload⟩ := exists_payloadAt_iff.2 h
  simp only [openAt, load, payload, hpayload]
  exact ⟨_, _, rfl⟩

/-- A text without long runs of digits is legible. -/
theorem legible_of_readText {text : List Char} (htext : files.readText path = .ok text)
    (hshort : ∀ digits, ¬ Json.LongRun text digits) : Legible files path := by
  rw [← exists_payloadAt_iff, exists_payloadAt_of_text htext]
  intro digits hparse
  exact hshort digits (Json.longRun_of_parse hparse)

/-- What is stored for a flag of a store: its file is UTF-8 JSON, an object whose version is equal to one, and
holds a truth value for the flag in an object under the name of the collection. -/
def Stored {ι : Type} (files : Files) (st : Store ι) (f : Flag) (b : Bool) : Prop :=
  ∃ path fields found collections stored,
    st.path = some path ∧ files.Decodes path (.obj fields) ∧
    Named.find? fields "version" = some found ∧ found.IsOne ∧
    Named.find? fields "collections" = some (.obj collections) ∧
    Named.find? collections st.collection = some (.obj stored) ∧ Named.find? stored f.name = some (.bool b)

variable {ι : Type} {st : Store ι}

theorem storedFlag?_eq_some_iff (hpath : st.path = some path) {f : Flag} {b : Bool} :
    storedFlag? files path st.collection f = some b ↔ st.Stored files f b := by
  constructor
  · intro h
    simp only [storedFlag?, Option.bind_eq_bind, Option.bind_eq_some_iff] at h
    obtain ⟨text, htext, content, hcontent, found, hfound, h⟩ := h
    split_ifs at h with hversion
    simp only [Option.bind_eq_some_iff, Json.get?_eq_some_iff, Json.truth?_eq_some_iff] at h hfound
    obtain ⟨fields, rfl, hfound⟩ := hfound
    have hparse := eq_ok_of_toOption hcontent
    have hone := (isVersion_iff (readable_of_find? (Json.readable_parse hparse) hfound)).1 hversion
    obtain ⟨under, ⟨_, ⟨⟩, hunder⟩, flags, ⟨collections, rfl, hflags⟩, value, ⟨stored, rfl, hvalue⟩, rfl⟩ := h
    have hdecodes := Files.decodes_iff.2 ⟨text, eq_ok_of_toOption htext, hparse⟩
    exact ⟨path, fields, found, collections, stored, hpath, hdecodes, hfound, hone, hunder, hflags, hvalue⟩
  · rintro ⟨_, fields, found, collections, stored, hsame, hdecodes, hfound, hone, hcollections, hstored, hvalue⟩
    obtain rfl : path = _ := Option.some.inj (hpath.symm.trans hsame)
    obtain ⟨text, htext, hparse⟩ := Files.decodes_iff.1 hdecodes
    have hversion := (isVersion_iff (readable_of_find? (Json.readable_parse hparse) hfound)).2 hone
    simp only [storedFlag?, htext, hparse, Except.toOption, Json.get?, hfound, hversion,
      hcollections, hstored, hvalue, Json.truth?, Option.bind_eq_bind, Option.bind_some, if_true]

/-- Opening a store is loading, with nobody to tell. -/
theorem openAt_eq (files : Files) (st : Store ι) :
    openAt files st.path st.collection st.defaults =
      (st.load files).map fun r => ({ st with flags := r.1, listeners := ([] : List ι) }, r.2) := by
  have hsame : load files ({ st with flags := st.defaults, listeners := [] } : Store ι) = st.load files := rfl
  rw [openAt, hsame]
  cases st.load files <;> rfl

theorem exists_load_iff : (∃ r, st.load files = .ok r) ↔ ∀ path, st.path = some path → Legible files path := by
  cases hpath : st.path with
  | none => simp [load, payload, hpath, bind, Except.bind, pure, Except.pure]
  | some path =>
    simp only [Option.some.injEq, forall_eq', ← exists_payloadAt_iff, load, payload, hpath]
    cases payloadAt files path <;> simp [bind, Except.bind, pure, Except.pure]

/-- The flags that a store loads are those of its file over the defaults. -/
theorem get_load {flags : Flags} {log : List Record} (h : st.load files = .ok (flags, log)) (f : Flag) :
    (∀ b, st.Stored files f b → flags.get f = b) ∧
      ((∀ b, ¬ st.Stored files f b) → flags.get f = st.defaults.get f) := by
  have hopen : openAt files st.path st.collection st.defaults =
      .ok (({ st with flags, listeners := [] } : Store ι), log) := by
    rw [openAt_eq, h]
    rfl
  cases hpath : st.path with
  | none =>
    rw [load, payload, hpath] at h
    cases h
    refine ⟨fun b hb => ?_, fun _ => rfl⟩
    obtain ⟨path, -, -, -, -, hsome, -⟩ := hb
    rw [hpath] at hsome
    cases hsome
  | some path =>
    rw [hpath] at hopen
    have hget := get_openAt hopen f
    refine ⟨fun b hb => ?_, fun hnone => ?_⟩
    · rw [hget, (storedFlag?_eq_some_iff hpath).2 hb]
      rfl
    · have hnot : storedFlag? files path st.collection f = none := by
        refine Option.eq_none_iff_forall_ne_some.2 fun b hb => ?_
        exact hnone b ((storedFlag?_eq_some_iff hpath).1 hb)
      rw [hget, hnot]
      rfl

/-- **What is stored counts, and else the default.** Opening a store is loading. This succeeds just if the file
is legible, as every UTF-8 text without long runs of digits is, and also if there is no file. Each flag that is
loaded is the truth value stored for it, if there is one in an object of the present version, and else the
default. -/
theorem load_stored (st : Store ι) (files : Files) :
    openAt files st.path st.collection st.defaults =
        (st.load files).map (fun r => ({ st with flags := r.1, listeners := ([] : List ι) }, r.2)) ∧
      ((∃ r, st.load files = .ok r) ↔ ∀ path, st.path = some path → Legible files path) ∧
      (∀ path text, files.readText path = .ok text → (∀ digits, ¬ Json.LongRun text digits) → Legible files path) ∧
      ∀ flags log, st.load files = .ok (flags, log) → ∀ f,
        (∀ b, st.Stored files f b → flags.get f = b) ∧
        ((∀ b, ¬ st.Stored files f b) → flags.get f = st.defaults.get f) :=
  ⟨openAt_eq files st, exists_load_iff, fun _ _ => legible_of_readText, fun _ _ => get_load⟩

/-- A settings file of one byte, which is no UTF-8. -/
def noText : Files := ⟨.directory [("s.json", .file [0xFF])], ⟨"/", []⟩⟩

theorem payloadAt_noText :
    payloadAt noText ⟨"/", ["s.json"]⟩ = .error (.encoding ⟨0, [0xFF], .start⟩) := by
  have htext : noText.readText ⟨"/", ["s.json"]⟩ = .error (.encoding ⟨0, [0xFF], .start⟩) := by decide +kernel
  simp only [payloadAt, htext]

/-- A file that is no text does not count as empty: the store cannot be opened. -/
theorem openAt_noText :
    openAt noText (some ⟨"/", ["s.json"]⟩) "main" {} =
      (.error (.encoding ⟨0, [0xFF], .start⟩) : Except ContentError (Store String × List Record)) := by
  simp only [openAt, load, payload, payloadAt_noText]
  rfl

end Store

end Landmarks
