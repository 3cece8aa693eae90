import Landmarks.Proofs.Assignments

/-!
# The section of flags

* `Yaml.Value.isWritable`, `Yaml.Value.depth` : the integers in a value are short enough to be written; how deep it is.
* `Yaml.Value.showsIn_value` : these decide whether a value can be shown, and else what the fault may be.
* `Config.Denotes` : a value stands for a truth value; `Config.asBool?_eq_some_iff` : such values are read so.
* `Config.FitEntry` : an entry that gives a flag a truth value; `Config.Offends` : what is wrong with any other.
* `Config.IsMapping` : no key comes twice.
* `Config.get_parseFlags` : the flags of a section, by what it says of each.
* `Config.parseFlags_section` : a section is read just if all its entries are fit. Their order makes no difference to
  the flags; it only decides which of several entries that are not fit is reported.
-/

namespace Landmarks

/-! ## Values that can be shown -/

namespace Yaml.Value

mutual

/-- Whether all integers in a value are short enough to be written. -/
def isWritable : Value → Bool
  | int i => Number.isWritable i
  | list xs | set xs => areWritable xs
  | map es => areWritableEntries es
  | pair a b => isWritable a && isWritable b
  | _ => true

/-- Whether all integers in some values are short enough to be written. -/
def areWritable : List Value → Bool
  | [] => true
  | x :: xs => isWritable x && areWritable xs

/-- Whether all integers in some entries are short enough to be written. -/
def areWritableEntries : List (Value × Value) → Bool
  | [] => true
  | (k, v) :: es => (isWritable k && isWritable v) && areWritableEntries es

end

mutual

/-- How many values there are at most inside each other, the value itself included. -/
def depth : Value → Nat
  | list xs | set xs => depthItems xs + 1
  | map es => depthEntries es + 1
  | pair a b => max (depth a) (depth b) + 1
  | _ => 1

/-- The greatest depth of some values. -/
def depthItems : List Value → Nat
  | [] => 0
  | x :: xs => max (depth x) (depthItems xs)

/-- The greatest depth of some entries. -/
def depthEntries : List (Value × Value) → Nat
  | [] => 0
  | (k, v) :: es => max (max (depth k) (depth v)) (depthEntries es)

end

/-- What the first fault is in something of a depth that has or has not only short integers: there is none if the
integers are short and there is room for the depth, and else it is what is wrong. -/
structure ShowsIn (fault? : Option ShowFault) (writable : Bool) (depth room : Nat) : Prop where
  shown : fault? = none → writable = true ∧ depth ≤ room
  long : fault? = some .longInteger → writable = false
  deep : fault? = some .tooDeep → room < depth

section

variable {first second : Option ShowFault} {writable writable' : Bool} {d d' room : Nat}

theorem ShowsIn.empty (room : Nat) : ShowsIn none true 0 room :=
  ⟨fun _ => ⟨rfl, Nat.zero_le room⟩, by simp, by simp⟩

/-- The fault of two things is that of the first, or else that of the second. -/
theorem ShowsIn.or (h : ShowsIn first writable d room) (h' : ShowsIn second writable' d' room) :
    ShowsIn (first.or second) (writable && writable') (max d d') room := by
  cases first with
  | none =>
    obtain ⟨rfl, hdepth⟩ := h.shown rfl
    rw [Option.none_or, Bool.true_and]
    refine ⟨fun hnone => ?_, h'.long, fun hdeep => Nat.lt_of_lt_of_le (h'.deep hdeep) (Nat.le_max_right d d')⟩
    obtain ⟨hwritable, hdepth'⟩ := h'.shown hnone
    exact ⟨hwritable, Nat.max_le.2 ⟨hdepth, hdepth'⟩⟩
  | some fault =>
    rw [Option.some_or]
    refine ⟨by simp, fun hlong => ?_, fun hdeep => ?_⟩
    · rw [h.long hlong, Bool.false_and]
    · exact Nat.lt_of_lt_of_le (h.deep hdeep) (Nat.le_max_left d d')

/-- What is inside has one room less. -/
theorem ShowsIn.within (h : ShowsIn first writable d room) : ShowsIn first writable (d + 1) (room + 1) :=
  ⟨fun hnone => ⟨(h.shown hnone).1, Nat.succ_le_succ (h.shown hnone).2⟩, h.long, fun hdeep => Nat.succ_lt_succ (h.deep hdeep)⟩

theorem ShowsIn.eq_none (h : ShowsIn first writable d room) (hwritable : writable = true) (hdepth : d ≤ room) :
    first = none := by
  cases first with
  | none => rfl
  | some fault =>
    cases fault with
    | longInteger => exact absurd ((h.long rfl).symm.trans hwritable) Bool.false_ne_true
    | tooDeep => exact absurd (h.deep rfl) (Nat.not_lt.2 hdepth)

end

theorem depth_pos (v : Value) : 0 < v.depth := by cases v <;> simp [depth]

theorem showsIn_zero (v : Value) : ShowsIn (showFault? 0 v) v.isWritable v.depth 0 := by
  have hfault : showFault? 0 v = some .tooDeep := by cases v <;> rfl
  rw [hfault]
  exact ⟨by simp, by simp, fun _ => v.depth_pos⟩

theorem showsIn_scalar (room : Nat) : ShowsIn none true 1 (room + 1) := (ShowsIn.empty room).within

mutual

theorem showsIn_value : ∀ (v : Value) (room : Nat), ShowsIn (v.showFault? room) v.isWritable v.depth room
  | v, 0 => v.showsIn_zero
  | int i, room + 1 => by
    change ShowsIn (if Number.isWritable i then none else some .longInteger) (Number.isWritable i) 1 (room + 1)
    split_ifs with hwritable
    · rw [hwritable]
      exact showsIn_scalar room
    · exact ⟨by simp, fun _ => Bool.not_eq_true _ ▸ hwritable, by simp⟩
  | list xs, room + 1 => (showsIn_items xs room).within
  | set xs, room + 1 => (showsIn_items xs room).within
  | map es, room + 1 => (showsIn_entries es room).within
  | pair a b, room + 1 => ((showsIn_value a room).or (showsIn_value b room)).within
  | null, room + 1 => showsIn_scalar room
  | bool _, room + 1 => showsIn_scalar room
  | float _, room + 1 => showsIn_scalar room
  | str _, room + 1 => showsIn_scalar room
  | bytes _, room + 1 => showsIn_scalar room
  | date _, room + 1 => showsIn_scalar room
  | moment _, room + 1 => showsIn_scalar room
  | cycle _, room + 1 => showsIn_scalar room

theorem showsIn_items : ∀ (xs : List Value) (room : Nat),
    ShowsIn (itemsFault? room xs) (areWritable xs) (depthItems xs) room
  | [], room => .empty room
  | x :: xs, room => (showsIn_value x room).or (showsIn_items xs room)

theorem showsIn_entries : ∀ (es : List (Value × Value)) (room : Nat),
    ShowsIn (entriesFault? room es) (areWritableEntries es) (depthEntries es) room
  | [], room => .empty room
  | (k, v) :: es, room => ((showsIn_value k room).or (showsIn_value v room)).or (showsIn_entries es room)

end

end Yaml.Value

namespace Config

open Text Yaml

/-- A value that stands for a truth value: this itself, or a word for it, within white space and in any letter
case. -/
inductive Denotes : Value → Bool → Prop
  | truth (b : Bool) : Denotes (.bool b) b
  | word {s : String} {b : Bool} (h : ∃ word ∈ truthWords b, word.toList = lower (trim s.toList)) : Denotes (.str s) b

/-- An entry that gives a flag a truth value. -/
def FitEntry (e : Value × Value) : Prop := ∃ (f : Flag) (b : Bool), e.1 = .str f.name ∧ Denotes e.2 b

/-- What is wrong with an entry, and which part of it a message on it shows: its key is the name of no flag, or it is
one but the value stands for no truth value. -/
inductive Offends : Value × Value → Value → ConfigError → Prop
  | unknownFlag {key : Value} (value : Value) (h : ∀ f : Flag, key ≠ .str f.name) :
      Offends (key, value) key (.unknownFlag key.text.shown)
  | notBoolean (f : Flag) {value : Value} (h : ∀ b, ¬ Denotes value b) :
      Offends (.str f.name, value) value (.notBoolean f.name value)

/-- The entries of a mapping: no key comes twice. -/
def IsMapping (entries : List (Value × Value)) : Prop := entries.Pairwise fun a b => a.1.sameKey b.1 = false

instance (entries : List (Value × Value)) : Decidable (IsMapping entries) :=
  inferInstanceAs (Decidable (List.Pairwise _ _))

/-! ## One entry -/

theorem asBool?_eq_some_iff {v : Value} {b : Bool} : asBool? v = some b ↔ Denotes v b := by
  constructor
  · intro h
    cases v with
    | bool c =>
      cases h
      exact .truth b
    | str s =>
      obtain ⟨cs, hcs, hword⟩ := Option.bind_eq_some_iff.1 h
      obtain rfl := Str.chars?_eq_some_iff.1 hcs
      have hs : Str.ofChars cs = Str.ofString (String.ofList cs) := by rw [Str.ofString, String.toList_ofList]
      rw [hs]
      refine .word ?_
      rw [String.toList_ofList]
      exact yesNo?_eq_some_iff.1 hword
    | _ => cases h
  · intro h
    cases h with
    | truth => rfl
    | word h =>
      rw [asBool?, Str.ofString, Str.chars?_ofChars]
      exact yesNo?_eq_some_iff.2 h

theorem parseFlag_eq_ok_iff {e : Value × Value} {f : Flag} {b : Bool} :
    parseFlag e.1 e.2 = .ok (f, b) ↔ e.1 = .str f.name ∧ Denotes e.2 b := by
  rw [← asBool?_eq_some_iff]
  constructor
  · exact parseFlag_eq_ok
  · rintro ⟨hkey, hvalue⟩
    simp only [parseFlag, hkey, Str.text?_ofString, Option.bind_some, Flag.ofName?_name, hvalue]

theorem fitEntry_iff {e : Value × Value} : FitEntry e ↔ ∃ c, parseFlag e.1 e.2 = .ok c := by
  simp only [FitEntry, Prod.exists, parseFlag_eq_ok_iff]

/-- What is said of an entry that is not fit. -/
theorem offends_of_parseFlag {e : Value × Value} {error : LoadError} (h : parseFlag e.1 e.2 = .error error) :
    ∃ shown cause, Offends e shown cause ∧ error = flagError shown cause := by
  obtain ⟨key, value⟩ := e
  have hunknown : (∀ f : Flag, key ≠ .str f.name) → error = flagError key (.unknownFlag key.text.shown) →
      ∃ shown cause, Offends (key, value) shown cause ∧ error = flagError shown cause :=
    fun hkey herror => ⟨key, _, .unknownFlag value hkey, herror⟩
  cases key with
  | str s =>
    cases hname : s.text?.bind Flag.ofName? with
    | none =>
      simp only [parseFlag, hname] at h
      refine hunknown (fun f hf => ?_) (Except.error.inj h).symm
      rw [Value.str.inj hf, Str.text?_ofString, Option.bind_some, Flag.ofName?_name] at hname
      cases hname
    | some f =>
      obtain ⟨name, hs, hflag⟩ := Option.bind_eq_some_iff.1 hname
      obtain rfl := Str.text?_eq_some_iff.1 hs
      obtain rfl := Flag.ofName?_eq_some.1 hflag
      cases hvalue : asBool? value with
      | none =>
        simp only [parseFlag, hname, hvalue] at h
        refine ⟨value, _, .notBoolean f fun b hb => ?_, (Except.error.inj h).symm⟩
        rw [asBool?_eq_some_iff.2 hb] at hvalue
        cases hvalue
      | some b =>
        simp only [parseFlag, hname, hvalue] at h
        cases h
  | _ => exact hunknown (fun f hf => Value.noConfusion hf) (Except.error.inj h).symm

theorem Offends.not_fitEntry {e : Value × Value} {shown : Value} {cause : ConfigError} (h : Offends e shown cause) :
    ¬ FitEntry e := by
  rintro ⟨f, b, hkey, hvalue⟩
  cases h with
  | unknownFlag value h => exact h f hkey
  | notBoolean g h => exact h b hvalue

/-! ## All entries -/

/-- Either all entries are fit, or the first that is not is reported. -/
theorem parseFlags_cases (entries : List (Value × Value)) :
    (∃ flags, parseFlags entries = .ok flags ∧ ∀ e ∈ entries, FitEntry e) ∨
      ∃ before e after shown cause, entries = before ++ e :: after ∧ (∀ x ∈ before, FitEntry x) ∧
        Offends e shown cause ∧ parseFlags entries = .error (flagError shown cause) := by
  rcases mapM_cases (fun e : Value × Value => parseFlag e.1 e.2) entries with
    ⟨changes, hok, hall, -⟩ | ⟨error, herror, before, e, after, hsplit, hbefore, hfault⟩
  · refine .inl ⟨Flags.setAll {} changes, ?_, ?_⟩
    · rw [parseFlags, hok]
      rfl
    · have hfit := hall.imp fun e c h => And.intro (fitEntry_iff.2 ⟨c, h⟩) h
      exact ((List.forall₂_and_left _ _).1 hfit).1
  · obtain ⟨shown, cause, hoffends, rfl⟩ := offends_of_parseFlag hfault
    refine .inr ⟨before, e, after, shown, cause, hsplit, fun x hx => fitEntry_iff.2 (hbefore x hx), hoffends, ?_⟩
    rw [parseFlags, herror]
    rfl

theorem exists_parseFlags_iff {entries : List (Value × Value)} :
    (∃ flags, parseFlags entries = .ok flags) ↔ ∀ e ∈ entries, FitEntry e := by
  rcases parseFlags_cases entries with ⟨flags, hok, hfit⟩ | ⟨before, e, after, shown, cause, rfl, -, hoffends, herror⟩
  · exact iff_of_true ⟨flags, hok⟩ hfit
  · refine iff_of_false (fun hok => ?_) fun hfit => ?_
    · obtain ⟨flags, hok⟩ := hok
      rw [herror] at hok
      cases hok
    · exact hoffends.not_fitEntry (hfit e (List.mem_append_right before List.mem_cons_self))

/-! ## The flags -/

theorem sameKey_str_iff {key : Value} {name : String} : key.sameKey (.str name) = true ↔ key = .str name := by
  cases key with
  | float x =>
    simp only [Value.sameKey, Value.number?]
    cases x.toInt? <;> simp
  | _ => simp [Value.sameKey, Value.number?]

theorem IsMapping.value_eq {entries : List (Value × Value)} (h : IsMapping entries) {name : String} {v w : Value}
    (hv : (.str name, v) ∈ entries) (hw : (.str name, w) ∈ entries) : v = w := by
  have hsymm : Std.Symm fun a b : Value × Value => ¬ (a.1 = .str name ∧ b.1 = .str name) :=
    ⟨fun a b hab hba => hab hba.symm⟩
  have hapart : entries.Pairwise fun a b => ¬ (a.1 = .str name ∧ b.1 = .str name) := by
    refine h.imp fun hsame => ?_
    rintro ⟨ha, hb⟩
    rw [ha, hb, sameKey_str_iff.2 rfl] at hsame
    cases hsame
  by_contra hne
  exact hapart.forall hv hw (fun heq => hne (Prod.mk.inj heq).2) ⟨rfl, rfl⟩

/-- The value of a flag is what its one entry stands for, or the built-in one if it has no entry. -/
theorem get_parseFlags {entries : List (Value × Value)} {flags : Flags} (hflags : parseFlags entries = .ok flags) {f : Flag}
    (hone : ∀ {v w}, (.str f.name, v) ∈ entries → (.str f.name, w) ∈ entries → v = w) :
    (∀ v, (.str f.name, v) ∈ entries → Denotes v (flags.get f)) ∧
      ((∀ v, (.str f.name, v) ∉ entries) → flags.get f = ({} : Flags).get f) := by
  obtain ⟨changes, hchanges, hset⟩ := bind_eq_ok.1 hflags
  cases hset
  rw [Flags.get_setAll, (lastFor_parseFlags hchanges f).1, configuredFlag?]
  cases hfind : entries.reverse.find? fun e => e.1.sameKey (.str f.name) with
  | none =>
    refine ⟨fun v hv => ?_, fun _ => rfl⟩
    have hother := List.find?_eq_none.1 hfind _ (List.mem_reverse.2 hv)
    exact absurd (sameKey_str_iff.2 rfl) hother
  | some e =>
    obtain ⟨key, value⟩ := e
    have hkey := List.find?_some hfind
    obtain rfl : key = .str f.name := sameKey_str_iff.1 hkey
    have hmem := List.mem_reverse.1 (List.mem_of_find?_eq_some hfind)
    refine ⟨fun v hv => ?_, fun hnone => absurd hmem (hnone value)⟩
    obtain ⟨b, hb⟩ := Option.isSome_iff_exists.1 ((lastFor_parseFlags hchanges f).2 _ hmem)
    rw [hone hv hmem, Option.bind_some, hb]
    exact asBool?_eq_some_iff.1 hb

theorem Denotes.unique {v : Value} {b c : Bool} (hb : Denotes v b) (hc : Denotes v c) : b = c :=
  Option.some.inj ((asBool?_eq_some_iff.2 hb).symm.trans (asBool?_eq_some_iff.2 hc))

/-- The order of the entries makes no difference to the flags. -/
theorem parseFlags_perm {entries others : List (Value × Value)} (h : IsMapping entries) {flags : Flags}
    (hflags : parseFlags entries = .ok flags) (hperm : others.Perm entries) : parseFlags others = .ok flags := by
  have hfit := exists_parseFlags_iff.1 ⟨flags, hflags⟩
  obtain ⟨flags', hflags'⟩ := exists_parseFlags_iff.2 fun e he => hfit e (hperm.mem_iff.1 he)
  obtain rfl : flags' = flags := by
    refine Flags.ext_get fun f => ?_
    obtain ⟨hgiven, hbuiltIn⟩ := get_parseFlags (f := f) hflags h.value_eq
    obtain ⟨hgiven', hbuiltIn'⟩ := get_parseFlags (f := f) hflags' fun hv hw =>
      h.value_eq (hperm.mem_iff.1 hv) (hperm.mem_iff.1 hw)
    by_cases hentry : ∃ v, (.str f.name, v) ∈ entries
    · obtain ⟨v, hv⟩ := hentry
      exact (hgiven' v (hperm.mem_iff.2 hv)).unique (hgiven v hv)
    · rw [not_exists] at hentry
      rw [hbuiltIn hentry, hbuiltIn' fun v hv => hentry v (hperm.mem_iff.1 hv)]
  exact hflags'

/-- **A section of flags is read just if every entry gives a flag a truth value.** Each flag then has the value of its
entry, or else the built-in one, and other orders of the same entries give the same flags. Otherwise the first entry
that is not fit, in the order of the section, is reported, unless what is to be shown of it holds an integer that is
too long to be written or is too deep: then only this is said. -/
theorem parseFlags_section {entries : List (Value × Value)} (hmapping : IsMapping entries) :
    ((∃ flags, parseFlags entries = .ok flags) ↔ ∀ e ∈ entries, FitEntry e) ∧
    (∀ flags, parseFlags entries = .ok flags →
      (∀ f : Flag, (∀ v, (.str f.name, v) ∈ entries → Denotes v (flags.get f)) ∧
        ((∀ v, (.str f.name, v) ∉ entries) → flags.get f = ({} : Flags).get f)) ∧
      ∀ others : List (Value × Value), others.Perm entries → parseFlags others = .ok flags) ∧
    ((¬ ∀ e ∈ entries, FitEntry e) →
      ∃ before e after shown cause, entries = before ++ e :: after ∧ (∀ x ∈ before, FitEntry x) ∧ ¬ FitEntry e ∧
        Offends e shown cause ∧
        (shown.isWritable = true → shown.depth ≤ maxDepth → parseFlags entries = .error (.config cause)) ∧
        (shown.isWritable = false ∨ maxDepth < shown.depth →
          (shown.isWritable = false ∧ parseFlags entries = .error (.unshown .longInteger)) ∨
            (maxDepth < shown.depth ∧ parseFlags entries = .error (.unshown .tooDeep)))) := by
  refine ⟨exists_parseFlags_iff, fun flags hflags => ⟨fun f => ?_, fun others => ?_⟩, fun hunfit => ?_⟩
  · exact get_parseFlags hflags hmapping.value_eq
  · exact parseFlags_perm hmapping hflags
  · rcases parseFlags_cases entries with ⟨flags, -, hfit⟩ | ⟨before, e, after, shown, cause, hsplit, hbefore, hoffends, herror⟩
    · exact absurd hfit hunfit
    · refine ⟨before, e, after, shown, cause, hsplit, hbefore, hoffends.not_fitEntry, hoffends,
        fun hwritable hdepth => ?_, fun hunshown => ?_⟩
      · rw [herror, flagError, (shown.showsIn_value maxDepth).eq_none hwritable hdepth]
      · have hshows := shown.showsIn_value maxDepth
        rw [herror, flagError]
        cases hfault : shown.showFault? maxDepth with
        | none =>
          obtain ⟨hwritable, hdepth⟩ := hshows.shown hfault
          rcases hunshown with hlong | hdeep
          · exact absurd (hlong.symm.trans hwritable) Bool.false_ne_true
          · exact absurd hdeep (Nat.not_lt.2 hdepth)
        | some fault =>
          cases fault with
          | longInteger => exact .inl ⟨hshows.long hfault, rfl⟩
          | tooDeep => exact .inr ⟨hshows.deep hfault, rfl⟩

/-- A section with a word within white space and in capitals, and a truth value. -/
def spelledOut : List (Value × Value) :=
  [(.str "show_headers", .str " OFF\t"), (.str "show_access_specifiers", .bool true)]

/-- Read from either end, the section gives the same flags. -/
theorem parseFlags_spelledOut :
    IsMapping spelledOut ∧
      parseFlags spelledOut = .ok { headers := false, accessSpecifiers := true } ∧
      parseFlags spelledOut.reverse = .ok { headers := false, accessSpecifiers := true } := by
  have hmapping : IsMapping spelledOut := by decide
  have hflags : parseFlags spelledOut = .ok { headers := false, accessSpecifiers := true } := rfl
  obtain ⟨-, hread, -⟩ := parseFlags_section hmapping
  exact ⟨hmapping, hflags, (hread _ hflags).2 _ (List.reverse_perm _)⟩

/-- An integer that may be written in a file, in base sixteen, and is too long to be shown. -/
def longValue : Value := .int (Int.ofNat (Nat.pow 16 3572))

/-- Such an integer is no truth value, but this is not what is said of it. -/
theorem parseFlags_longValue :
    Offends (.str "show_headers", longValue) longValue (.notBoolean "show_headers" longValue) ∧
      parseFlags [(.str "show_headers", longValue)] = .error (.unshown .longInteger) := by
  have hlong : longValue.showFault? maxDepth = some .longInteger := by decide +kernel
  have hnone : ∀ b, ¬ Denotes longValue b := by
    intro b hb
    cases hb
  have hfault : parseFlag (.str "show_headers") longValue =
      .error (flagError longValue (.notBoolean "show_headers" longValue)) := rfl
  refine ⟨.notBoolean .headers hnone, ?_⟩
  rw [parseFlags, List.mapM_cons, hfault, flagError, hlong]
  rfl

end Config

end Landmarks
