import Landmarks.Proofs.JsonScalars

/-!
# The values that JSON texts denote

* `Named.names`, `Named.find?_perm` : names that are all different, in any order.
* `Json.Printable` : integers of bounded length and canonical numbers; such a value can be written and read.
* `Json.Readable` : moreover no name twice in an object, and no partners to be joined in a string;
  `Json.readBack_of_readable` : such a value reads back as it is.
* `Json.readable_parse` : what is read is such a value.
* `Json.readable_sortKeys`, `Json.find?_sortFields` : with its fields in order it is one too, and has the
  same fields.
-/

namespace Landmarks

namespace Named

variable {α κ : Type} [DecidableEq κ]

/-- The names in order. -/
def names (entries : Named α κ) : List κ := entries.map (·.1)

theorem put_of_not_mem {entries : Named α κ} {name : κ} (h : name ∉ names entries) (value : α) :
    put name value entries = entries ++ [(name, value)] := by
  induction entries with
  | nil => rfl
  | cons e rest ih =>
    obtain ⟨n, old⟩ := e
    simp only [names, List.map_cons, List.mem_cons, not_or] at h
    rw [put, if_neg (by simpa using Ne.symm h.1), ih h.2, List.cons_append]

theorem names_put_of_mem {entries : Named α κ} {name : κ} (h : name ∈ names entries) (value : α) :
    names (put name value entries) = names entries := by
  induction entries with
  | nil => cases h
  | cons e rest ih =>
    obtain ⟨n, old⟩ := e
    by_cases hn : n = name
    · simp [put, names, hn]
    · have hrest : name ∈ names rest := by simpa [names, Ne.symm hn] using h
      simpa [put, names, hn] using ih hrest

theorem nodup_names_put {entries : Named α κ} (h : (names entries).Nodup) (name : κ) (value : α) :
    (names (put name value entries)).Nodup := by
  by_cases hmem : name ∈ names entries
  · rwa [names_put_of_mem hmem]
  · rw [put_of_not_mem hmem, names, List.map_append, List.nodup_append]
    refine ⟨h, List.nodup_singleton name, ?_⟩
    rintro n hn m hm rfl
    obtain rfl : n = name := List.mem_singleton.1 hm
    exact hmem hn

theorem mem_put {entries : Named α κ} {name : κ} {value : α} {e : κ × α}
    (h : e ∈ put name value entries) : e = (name, value) ∨ e ∈ entries := by
  induction entries with
  | nil => exact .inl (List.mem_singleton.1 h)
  | cons first rest ih =>
    obtain ⟨n, old⟩ := first
    rw [put] at h
    split at h
    · rename_i hn
      rw [eq_of_beq hn] at h
      rcases List.mem_cons.1 h with rfl | h
      · exact .inl rfl
      · exact .inr (List.mem_cons_of_mem _ h)
    · rcases List.mem_cons.1 h with rfl | h
      · exact .inr List.mem_cons_self
      · exact (ih h).imp_right (List.mem_cons_of_mem _)

theorem find?_eq_some_iff {entries : Named α κ} (h : (names entries).Nodup) {name : κ} {value : α} :
    find? entries name = some value ↔ (name, value) ∈ entries := by
  induction entries with
  | nil => simp [find?]
  | cons e rest ih =>
    obtain ⟨n, old⟩ := e
    rw [names, List.map_cons, List.nodup_cons] at h
    by_cases hn : n = name
    · subst hn
      have hrest : (n, value) ∉ rest := fun hmem => h.1 (List.mem_map.2 ⟨_, hmem, rfl⟩)
      simp [find?, hrest, eq_comm]
    · have hfirst : (name, value) ≠ (n, old) := fun heq => hn (congrArg Prod.fst heq).symm
      rw [List.mem_cons, or_iff_right hfirst, ← ih h.2]
      simp [find?, hn]

omit [DecidableEq κ] in
theorem perm_names {entries others : Named α κ} (h : entries.Perm others) : (names entries).Perm (names others) :=
  h.map _

/-- The order of names that are all different does not matter. -/
theorem find?_perm {entries others : Named α κ} (hperm : entries.Perm others) (h : (names entries).Nodup) (name : κ) :
    find? entries name = find? others name := by
  have h' := (perm_names hperm).nodup_iff.1 h
  refine Option.ext fun value => ?_
  rw [find?_eq_some_iff h, find?_eq_some_iff h', hperm.mem_iff]

end Named

namespace Json

/-! ## Values that are read -/

mutual

/-- A value that can be written and read again. -/
def Printable : Json → Prop
  | arr xs => PrintableItems xs
  | obj fs => PrintableFields fs
  | v => Plain v

/-- `Printable` for every item. -/
def PrintableItems : List Json → Prop
  | [] => True
  | x :: xs => Printable x ∧ PrintableItems xs

/-- `Printable` for every value of a field. -/
def PrintableFields : List (Str × Json) → Prop
  | [] => True
  | (_, v) :: fs => Printable v ∧ PrintableFields fs

end

mutual

/-- A value that reads back as it was written. -/
def Readable : Json → Prop
  | str s => s.Sound
  | arr xs => ReadableItems xs
  | obj fs => (Named.names fs).Nodup ∧ ReadableFields fs
  | v => Plain v

/-- `Readable` for every item. -/
def ReadableItems : List Json → Prop
  | [] => True
  | x :: xs => Readable x ∧ ReadableItems xs

/-- Sound names, and `Readable` for every value of a field. -/
def ReadableFields : List (Str × Json) → Prop
  | [] => True
  | (key, v) :: fs => (key.Sound ∧ Readable v) ∧ ReadableFields fs

end

theorem readableItems_iff {xs : List Json} : ReadableItems xs ↔ ∀ x ∈ xs, Readable x := by
  induction xs with
  | nil => simp [ReadableItems]
  | cons x xs ih => rw [ReadableItems, ih, List.forall_mem_cons]

theorem readableFields_iff {fs : Fields} : ReadableFields fs ↔ ∀ f ∈ fs, f.1.Sound ∧ Readable f.2 := by
  induction fs with
  | nil => simp [ReadableFields]
  | cons f fs ih => rw [ReadableFields, ih, List.forall_mem_cons]

theorem printableFields_iff {fs : Fields} : PrintableFields fs ↔ ∀ f ∈ fs, Printable f.2 := by
  induction fs with
  | nil => simp [PrintableFields]
  | cons f fs ih => rw [PrintableFields, ih, List.forall_mem_cons]

theorem printable_obj_put {fs : Fields} (hfs : Printable (obj fs)) {v : Json} (hv : Printable v) (key : Str) :
    Printable (obj (Named.put key v fs)) := by
  refine printableFields_iff.2 fun f hf => ?_
  rcases Named.mem_put hf with rfl | h
  · exact hv
  · exact printableFields_iff.1 hfs f h

theorem readable_obj_put {fs : Fields} (hfs : Readable (obj fs)) {key : Str} (hkey : key.Sound) {v : Json}
    (hv : Readable v) : Readable (obj (Named.put key v fs)) := by
  refine ⟨Named.nodup_names_put hfs.1 key v, readableFields_iff.2 fun f hf => ?_⟩
  rcases Named.mem_put hf with rfl | h
  · exact ⟨hkey, hv⟩
  · exact readableFields_iff.1 hfs.2 f h

mutual

theorem Readable.printable : ∀ {v}, Readable v → Printable v
  | null, h => h
  | bool _, h => h
  | int _, h => h
  | float _, h => h
  | str _, _ => trivial
  | arr _, h => h.printableItems
  | obj _, h => ReadableFields.printableFields h.2

theorem ReadableItems.printableItems : ∀ {xs}, ReadableItems xs → PrintableItems xs
  | [], _ => trivial
  | _ :: _, h => ⟨h.1.printable, h.2.printableItems⟩

theorem ReadableFields.printableFields : ∀ {fs}, ReadableFields fs → PrintableFields fs
  | [], _ => trivial
  | _ :: _, h => ⟨h.1.2.printable, h.2.printableFields⟩

end

mutual

/-- A readable value reads back as it is. -/
theorem readBack_of_readable : ∀ {v}, Readable v → readBack v = v
  | null, _ => rfl
  | bool _, _ => rfl
  | int _, _ => rfl
  | float _, _ => rfl
  | str _, h => congrArg str (Str.joined_of_sound h)
  | arr _, h => congrArg arr (readBackItems_of_readable h)
  | obj _, h => congrArg obj (readBackFields_of_readable h.1 h.2)

theorem readBackItems_of_readable : ∀ {xs}, ReadableItems xs → readBackItems xs = xs
  | [], _ => rfl
  | _ :: _, h => congrArg₂ List.cons (readBack_of_readable h.1) (readBackItems_of_readable h.2)

theorem readBackFields_of_readable : ∀ {acc fs}, (Named.names (acc ++ fs)).Nodup → ReadableFields fs →
    readBackFields acc fs = acc ++ fs
  | acc, [], _, _ => (List.append_nil acc).symm
  | acc, (key, v) :: fs, hnames, h => by
    have hput : Named.put key v acc = acc ++ [(key, v)] := by
      refine Named.put_of_not_mem (fun hmem => ?_) v
      rw [Named.names, List.map_append, List.nodup_append] at hnames
      exact hnames.2.2 key hmem key List.mem_cons_self rfl
    have hnames' : (Named.names (acc ++ [(key, v)] ++ fs)).Nodup := by
      rwa [List.append_assoc, List.singleton_append]
    rw [readBackFields, Str.joined_of_sound h.1.1, readBack_of_readable h.1.2, hput,
      readBackFields_of_readable hnames' h.2, List.append_assoc, List.singleton_append]

end

/-! ## What is read is readable -/

theorem digitsValue_lt {ds : List Char} (hds : ∀ c ∈ ds, Number.isDigit c = true) :
    Number.digitsValue ds < 10 ^ ds.length := by
  induction ds with
  | nil => exact Nat.one_pos
  | cons c ds ih =>
    have hrest := ih fun d hd => hds d (List.mem_cons_of_mem c hd)
    have hc : c.toNat - '0'.toNat ≤ 9 := by
      have hdigit := hds c List.mem_cons_self
      simp only [Number.isDigit, Bool.and_eq_true, decide_eq_true_eq] at hdigit
      have hle : c.toNat ≤ 0x39 := hdigit.2
      change c.toNat - 0x30 ≤ 9
      omega
    change Nat.ofDigitChars 10 (c :: ds) 0 < _
    change Nat.ofDigitChars 10 ds 0 < _ at hrest
    rw [Nat.ofDigitChars_cons, Nat.ofDigitChars_eq_ofDigitChars_zero, List.length_cons, pow_succ]
    nlinarith

theorem isDigit_of_whole {cs ds rest : List Char} (h : whole cs = some (ds, rest)) :
    ∀ c ∈ ds, Number.isDigit c = true := by
  unfold whole at h
  split at h
  · cases h
    exact List.forall_mem_singleton.2 rfl
  · split_ifs at h
    cases h
    exact fun c hc => List.mem_takeWhile_imp hc
  · cases h

theorem readable_of_number {negative : Bool} {cs rest : List Char} {v : Json} (h : number negative cs = .ok (v, rest)) :
    Readable v := by
  simp only [number] at h
  split at h
  · cases h
  · rename_i ds after hwhole
    split_ifs at h with hinteger hlong
    · cases h
      have hvalue := digitsValue_lt (isDigit_of_whole hwhole)
      have hpow : 10 ^ ds.length ≤ 10 ^ Number.maxDigits := Nat.pow_le_pow_right (by norm_num) (Nat.le_of_not_lt hlong)
      change Number.isWritable _ = true
      rw [Number.isWritable, Nat.pow_eq, decide_eq_true_eq]
      generalize Number.maxDigits = most at hpow
      refine lt_of_le_of_lt ?_ (hvalue.trans_le hpow)
      unfold Number.withSign
      split <;> simp
    · cases h
      exact Binary64.canonical_ofDecimal _ _ _

theorem eq_of_keyword {w cs rest : List Char} {v v' : Json} (h : keyword w v cs = .ok (v', rest)) : v' = v := by
  unfold keyword at h
  split_ifs at h
  cases h
  rfl

theorem readable_of_scalar {cs rest : List Char} {v : Json} (h : scalar cs = .ok (v, rest)) : Readable v := by
  unfold scalar at h
  split at h
  · split at h
    · rename_i hstring
      cases h
      exact sound_of_string hstring
    · cases h
  iterate 6 exact eq_of_keyword h ▸ trivial
  · exact readable_of_number h
  · exact readable_of_number h

/-- What the readers give with some fuel is readable. -/
structure GivesReadable (fuel : ℕ) : Prop where
  value : ∀ {cs v rest}, value fuel cs = .ok (v, rest) → Readable v
  items : ∀ {acc cs v rest}, ReadableItems acc → items fuel acc cs = .ok (v, rest) → Readable v
  members : ∀ {acc cs v rest}, Readable (obj acc) → members fuel acc cs = .ok (v, rest) → Readable v

namespace GivesReadable

variable {fuel : ℕ} {cs rest : List Char} {v : Json}

theorem value_succ (ih : GivesReadable fuel) (h : Json.value (fuel + 1) cs = .ok (v, rest)) : Readable v := by
  have hnoItems : ReadableItems [] := trivial
  have hnoFields : Readable (obj []) := ⟨List.nodup_nil, trivial⟩
  unfold Json.value at h
  split at h
  · split at h
    · cases h
      exact hnoItems
    · exact ih.items hnoItems h
  · split at h
    · cases h
      exact hnoFields
    · exact ih.members hnoFields h
  · exact readable_of_scalar h

theorem items_succ (ih : GivesReadable fuel) {acc : List Json} (hacc : ReadableItems acc)
    (h : Json.items (fuel + 1) acc cs = .ok (v, rest)) : Readable v := by
  rw [Json.items] at h
  split at h
  · cases h
  · rename_i x after hx
    have hall : ReadableItems (x :: acc) := ⟨ih.value hx, hacc⟩
    split at h
    · cases h
      rw [Readable, readableItems_iff]
      exact fun y hy => readableItems_iff.1 hall y (List.mem_reverse.1 hy)
    · exact ih.items hall h
    · cases h

theorem members_succ (ih : GivesReadable fuel) {acc : Fields} (hacc : Readable (obj acc))
    (h : Json.members (fuel + 1) acc cs = .ok (v, rest)) : Readable v := by
  rw [Json.members] at h
  split at h
  · cases h
  · rename_i hkey
    split at h
    · split at h
      · cases h
      · rename_i x after hx
        have hput := readable_obj_put hacc (sound_of_string hkey) (ih.value hx)
        split at h
        · cases h
          exact hput
        · exact ih.members hput h
        · cases h
    · cases h

end GivesReadable

theorem givesReadable (fuel : ℕ) : GivesReadable fuel := by
  induction fuel with
  | zero =>
    refine ⟨fun h => ?_, fun _ h => ?_, fun _ h => ?_⟩
    · rw [value] at h
      cases h
    · rw [items] at h
      cases h
    · rw [members] at h
      cases h
  | succ fuel ih => exact ⟨ih.value_succ, ih.items_succ, ih.members_succ⟩

/-- What is read from a text is readable. -/
theorem readable_parse {cs : List Char} {v : Json} (h : parse cs = .ok v) : Readable v := by
  unfold parse at h
  split at h
  · rename_i w rest hvalue
    split_ifs at h
    cases h
    exact (givesReadable _).value hvalue
  · cases h

/-! ## Fields in order -/

theorem insertField_perm (f : Str × Json) (fs : Fields) : (insertField f fs).Perm (f :: fs) := by
  induction fs with
  | nil => exact List.Perm.refl _
  | cons g gs ih =>
    rw [insertField]
    split_ifs
    · exact List.Perm.refl _
    · exact (ih.cons g).trans (List.Perm.swap f g gs)

/-- Sorting moves the fields, and sorts their values. -/
theorem sortFields_perm (fs : Fields) : (sortFields fs).Perm (fs.map fun f => (f.1, sortKeys f.2)) := by
  induction fs with
  | nil => exact List.Perm.refl _
  | cons f fs ih => exact (insertField_perm _ _).trans (ih.cons _)

theorem nodup_names_sortFields {fs : Fields} (h : (Named.names fs).Nodup) : (Named.names (sortFields fs)).Nodup := by
  refine (Named.perm_names (sortFields_perm fs)).nodup_iff.2 ?_
  rwa [Named.names, List.map_map]

mutual

theorem readable_sortKeys : ∀ v, Readable v → Readable (sortKeys v)
  | null, h => h
  | bool _, h => h
  | int _, h => h
  | float _, h => h
  | str _, h => h
  | arr xs, h => readableItems_sortItems xs h
  | obj fs, h => ⟨nodup_names_sortFields h.1, readableFields_sortFields fs h.2⟩

theorem readableItems_sortItems : ∀ xs, ReadableItems xs → ReadableItems (sortItems xs)
  | [], _ => trivial
  | x :: xs, h => ⟨readable_sortKeys x h.1, readableItems_sortItems xs h.2⟩

theorem readableFields_sortFields : ∀ fs, ReadableFields fs → ReadableFields (sortFields fs)
  | [], _ => trivial
  | (k, v) :: fs, h => by
    have hv := readable_sortKeys v h.1.2
    have hfs := readableFields_iff.1 (readableFields_sortFields fs h.2)
    refine readableFields_iff.2 fun f hf => ?_
    rcases List.mem_cons.1 ((insertField_perm _ _).mem_iff.1 hf) with rfl | hf
    · exact ⟨h.1.1, hv⟩
    · exact hfs f hf

end

mutual

theorem printable_sortKeys : ∀ v, Printable v → Printable (sortKeys v)
  | null, h => h
  | bool _, h => h
  | int _, h => h
  | float _, h => h
  | str _, h => h
  | arr xs, h => printableItems_sortItems xs h
  | obj fs, h => printableFields_sortFields fs h

theorem printableItems_sortItems : ∀ xs, PrintableItems xs → PrintableItems (sortItems xs)
  | [], _ => trivial
  | x :: xs, h => ⟨printable_sortKeys x h.1, printableItems_sortItems xs h.2⟩

theorem printableFields_sortFields : ∀ fs, PrintableFields fs → PrintableFields (sortFields fs)
  | [], _ => trivial
  | (k, v) :: fs, h => by
    have hv := printable_sortKeys v h.1
    have hfs := printableFields_iff.1 (printableFields_sortFields fs h.2)
    refine printableFields_iff.2 fun f hf => ?_
    rcases List.mem_cons.1 ((insertField_perm _ _).mem_iff.1 hf) with rfl | hf
    · exact hv
    · exact hfs f hf

end

theorem find?_sortFields {fs : Fields} (h : (Named.names fs).Nodup) (key : Str) :
    Named.find? (sortFields fs) key = (Named.find? fs key).map sortKeys := by
  rw [Named.find?_perm (sortFields_perm fs) (nodup_names_sortFields h)]
  simp only [Named.find?, List.find?_map, Function.comp_def, Option.map_map]

end Json

end Landmarks
