import Landmarks.Config
import Landmarks.Proofs.Operation
import Landmarks.Settings.Store

/-!
# Where the value of a flag comes from

* `layered` : the value of a flag by what gives it first: a change made for one use, the stored settings,
  the configuration, or the built-in value.
* `Flags.get_setAll` : of several changes to a flag the last counts.
* `Store.storedFlag?` : the value that a settings file holds; `Store.get_openAt` : it is taken over the
  default.
* `Config.flagEntries`, `Config.configuredFlag?` : the section of flags in the configuration file;
  `Config.get_load` : its values are taken over the built-in ones.
* `get_setAll_layered` : flags that were stored over those of a configuration, with changes on top.
-/

namespace Landmarks

open Yaml (Value)

/-- The value of a flag, by a change, else by what is stored, else by the configuration, else the
built-in one. -/
def layered (changed stored configured : Option Bool) (f : Flag) : Bool :=
  (changed.or (stored.or configured)).getD (({} : Flags).get f)

/-- The value that the last change to a flag gives it. -/
def lastFor (f : Flag) (changes : List (Flag × Bool)) : Option Bool :=
  (changes.reverse.find? fun c => c.1 == f).map (·.2)

theorem lastFor_cons (f g : Flag) (b : Bool) (changes : List (Flag × Bool)) :
    lastFor f ((g, b) :: changes) = (lastFor f changes).or (if g = f then some b else none) := by
  rw [lastFor, lastFor, List.reverse_cons, List.find?_append, Option.map_or]
  congr 1
  by_cases hg : g = f <;> simp [hg]

theorem lastFor_append (f : Flag) (changes more : List (Flag × Bool)) :
    lastFor f (changes ++ more) = (lastFor f more).or (lastFor f changes) := by
  rw [lastFor, List.reverse_append, List.find?_append, Option.map_or]
  rfl

theorem Flags.get_setAll (fs : Flags) (changes : List (Flag × Bool)) (f : Flag) :
    (fs.setAll changes).get f = (lastFor f changes).getD (fs.get f) := by
  induction changes generalizing fs with
  | nil => rfl
  | cons change changes ih =>
    obtain ⟨g, b⟩ := change
    change ((fs.set g b).setAll changes).get f = _
    rw [ih, lastFor_cons]
    cases lastFor f changes with
    | some value => rfl
    | none =>
      by_cases hg : g = f
      · subst hg
        simp
      · simp [hg, Flags.get_set_of_ne fs (Ne.symm hg)]

theorem Flag.ofName?_eq_some {s : String} {f : Flag} : Flag.ofName? s = some f ↔ s = f.name := by
  constructor
  · intro h
    have hname := List.find?_some (p := fun g : Flag => g.name == s) h
    exact (eq_of_beq hname).symm
  · rintro rfl
    exact f.ofName?_name

/-! ## Stored settings -/

/-- A value that is a truth value. -/
def Json.truth? : Json → Option Bool
  | .bool b => some b
  | _ => none

namespace Store

/-- The value of a flag under a collection of the settings file at a path, if the file is an object of the
present version and the value is a truth value. -/
def storedFlag? (files : Files) (path : Path) (collection : Str) (f : Flag) : Option Bool := do
  let text ← (files.readText path).toOption
  let content ← (Json.parse text).toOption
  let found ← content.get? "version"
  if isVersion found then
    let flags ← (← content.get? "collections").get? collection
    (← flags.get? f.name).truth?
  else none

theorem get_loadFlag (stored : Json.Fields) (acc : Flags × List Record) (f g : Flag) :
    (loadFlag stored acc g).1.get f =
      if g = f then ((Named.find? stored f.name).bind Json.truth?).getD (acc.1.get f) else acc.1.get f := by
  unfold loadFlag
  by_cases hg : g = f
  · subst hg
    split <;> simp_all [Json.truth?]
  · rw [if_neg hg]
    split <;> simp [Flags.get_set_of_ne _ (Ne.symm hg)]

theorem get_foldl_loadFlag (stored : Json.Fields) (flags : List Flag) (acc : Flags × List Record) (f : Flag) :
    (flags.foldl (loadFlag stored) acc).1.get f =
      if f ∈ flags then ((Named.find? stored f.name).bind Json.truth?).getD (acc.1.get f) else acc.1.get f := by
  induction flags generalizing acc with
  | nil => simp
  | cons g flags ih =>
    rw [List.foldl_cons, ih, get_loadFlag]
    by_cases hg : g = f
    · subst hg
      simp only [if_true, List.mem_cons_self]
      cases (Named.find? stored g.name).bind Json.truth? <;> simp
    · simp [hg, Ne.symm hg]

theorem find?_fieldsOf (v : Option Json) (key : Str) : Named.find? (fieldsOf v) key = v.bind (·.get? key) := by
  cases v with
  | none => rfl
  | some v => cases v <;> rfl

theorem get_loadFrom (defaults : Flags) (collection : Str) (payload : Json.Fields) (f : Flag) :
    (loadFrom defaults collection payload).1.get f =
      (((((Named.find? payload "collections").bind (·.get? collection)).bind (·.get? f.name))).bind Json.truth?).getD
        (defaults.get f) := by
  rw [loadFrom, get_foldl_loadFlag, if_pos f.mem_all, find?_fieldsOf, find?_fieldsOf]

/-- What counts of a settings file: all of it, if it is an object of the present version, and else
nothing. -/
theorem payloadAt_eq_ok {files : Files} {path : Path} {payload : Json.Fields} {log : List Record}
    (h : payloadAt files path = .ok (payload, log)) :
    (∃ text found, files.readText path = .ok text ∧ Json.parse text = .ok (.obj payload) ∧
      Named.find? payload "version" = some found ∧ isVersion found = true) ∨
      (payload = [] ∧ ∀ collection f, storedFlag? files path collection f = none) := by
  simp only [payloadAt] at h
  split at h
  · cases h
  · cases h
  · rename_i htext
    cases h
    exact .inr ⟨rfl, fun collection f => by simp [storedFlag?, htext, Except.toOption]⟩
  · rename_i htext
    cases h
    exact .inr ⟨rfl, fun collection f => by simp [storedFlag?, htext, Except.toOption]⟩
  · rename_i text htext
    split at h
    · cases h
    · rename_i hparse
      cases h
      exact .inr ⟨rfl, fun collection f => by simp [storedFlag?, htext, hparse, Except.toOption]⟩
    · rename_i fields hparse
      cases hfound : Named.find? fields "version" with
      | none =>
        rw [hfound] at h
        cases h
        refine .inr ⟨rfl, fun collection f => ?_⟩
        simp [storedFlag?, htext, hparse, Except.toOption, Json.get?, hfound]
      | some found =>
        rw [hfound, Option.getD_some] at h
        cases hversion : isVersion found with
        | true =>
          rw [hversion, if_pos rfl] at h
          cases h
          exact .inl ⟨text, found, htext, hparse, hfound, hversion⟩
        | false =>
          rw [hversion, if_neg Bool.false_ne_true] at h
          cases h
          refine .inr ⟨rfl, fun collection f => ?_⟩
          simp [storedFlag?, htext, hparse, Except.toOption, Json.get?, hfound, hversion]
    · rename_i content hnot hparse
      cases h
      refine .inr ⟨rfl, fun collection f => ?_⟩
      cases content with
      | obj fields => exact absurd rfl (hnot fields)
      | _ => simp [storedFlag?, htext, hparse, Except.toOption, Json.get?]

/-- The flags of a store that was opened are those of its file over the defaults. -/
theorem get_openAt {ι : Type} {files : Files} {path : Path} {collection : Str} {defaults : Flags} {st : Store ι}
    {log : List Record} (h : openAt files (some path) collection defaults = .ok (st, log)) (f : Flag) :
    st.flags.get f = (storedFlag? files path collection f).getD (defaults.get f) := by
  rcases hpayload : payloadAt files path with e | ⟨payload, said⟩
  · simp only [openAt, load, Store.payload, hpayload] at h
    cases h
  · simp only [openAt, load, Store.payload, hpayload] at h
    cases h
    change (loadFrom defaults collection payload).1.get f = _
    rw [get_loadFrom]
    congr 1
    rcases payloadAt_eq_ok hpayload with ⟨text, found, htext, hparse, hfound, hversion⟩ | ⟨rfl, hnone⟩
    · simp only [storedFlag?, htext, hparse, Except.toOption, Json.get?, hfound, hversion, Option.bind_eq_bind,
        Option.bind_some, if_true, Option.bind_assoc]
    · rw [hnone]
      rfl

/-- What is loaded later is what would be opened then. -/
theorem load_of_openAt {ι κ : Type} {files files' : Files} {path : Option Path} {collection : Str}
    {defaults : Flags} {st : Store ι} {now : Store κ} {log log' : List Record}
    (hst : openAt files path collection defaults = .ok (st, log))
    (hnow : openAt files' path collection defaults = .ok (now, log')) : st.load files' = .ok (now.flags, log') := by
  obtain ⟨⟨flags, said⟩, hload, hflags⟩ := bind_eq_ok.1 hst
  obtain ⟨⟨flags', said'⟩, hload', hflags'⟩ := bind_eq_ok.1 hnow
  cases hflags
  cases hflags'
  exact hload'

end Store

/-! ## The configuration -/

theorem Files.readText_of_not_holds {files : Files} {p : Path} (h : files.holds p = .ok false) :
    ∃ e, files.readText p = .error e := by
  unfold Files.holds Files.test at h
  cases hlookup : files.lookup p with
  | ok entry =>
    rw [hlookup] at h
    cases h
  | error e =>
    refine ⟨.file e, ?_⟩
    rw [Files.readText, Files.read, hlookup]
    rfl

namespace Config

/-- The section of flags in the configuration file of a path; without a file it is empty. -/
def flagEntries (host : Host) (p : Path) : List (Value × Value) :=
  match locate host p with
  | .error _ => []
  | .ok file =>
    match host.files.readText file with
    | .error _ => []
    | .ok cs =>
      match documentOfText cs with
      | .error _ => []
      | .ok d => d.sectionEntries "flags"

/-- The value that entries of a section give a flag. -/
def configuredFlag? (entries : List (Value × Value)) (f : Flag) : Option Bool :=
  (entries.reverse.find? fun e => e.1.sameKey (.str f.name)).bind fun e => asBool? e.2

theorem configuredFlag?_cons (e : Value × Value) (entries : List (Value × Value)) (f : Flag)
    (hfit : ∀ x ∈ entries, (asBool? x.2).isSome) :
    configuredFlag? (e :: entries) f =
      (configuredFlag? entries f).or (if e.1.sameKey (.str f.name) then asBool? e.2 else none) := by
  rw [configuredFlag?, configuredFlag?, List.reverse_cons, List.find?_append]
  cases hfind : entries.reverse.find? fun x => x.1.sameKey (.str f.name) with
  | some x =>
    obtain ⟨b, hb⟩ := Option.isSome_iff_exists.1 (hfit x (List.mem_reverse.1 (List.mem_of_find?_eq_some hfind)))
    simp [hb]
  | none => by_cases he : e.1.sameKey (.str f.name) = true <;> simp [he]

theorem parseFlag_eq_ok {key value : Value} {f : Flag} {b : Bool} (h : parseFlag key value = .ok (f, b)) :
    key = .str f.name ∧ asBool? value = some b := by
  cases key with
  | str s =>
    cases hflag : s.text?.bind Flag.ofName? with
    | none =>
      simp only [parseFlag, hflag] at h
      cases h
    | some g =>
      obtain ⟨name, hname, hflag'⟩ := Option.bind_eq_some_iff.1 hflag
      obtain rfl := Str.text?_eq_some_iff.1 hname
      cases hvalue : asBool? value with
      | none =>
        simp only [parseFlag, hflag, hvalue] at h
        cases h
      | some b =>
        simp only [parseFlag, hflag, hvalue] at h
        cases h
        exact ⟨congrArg (fun name => Value.str (.ofString name)) (Flag.ofName?_eq_some.1 hflag'), rfl⟩
  | _ => cases h

theorem lastFor_parseFlags {entries : List (Value × Value)} {changes : List (Flag × Bool)}
    (h : entries.mapM (fun e => parseFlag e.1 e.2) = .ok changes) (f : Flag) :
    lastFor f changes = configuredFlag? entries f ∧ ∀ x ∈ entries, (asBool? x.2).isSome := by
  -- The second part is needed on the way: a later entry without a truth value would hide an earlier one.
  induction entries generalizing changes with
  | nil =>
    cases h
    exact ⟨rfl, fun x hx => absurd hx List.not_mem_nil⟩
  | cons e entries ih =>
    rw [List.mapM_cons] at h
    rcases hfirst : parseFlag e.1 e.2 with err | ⟨g, b⟩
    · rw [hfirst] at h
      cases h
    · rcases hrest : entries.mapM (fun e => parseFlag e.1 e.2) with err | rest
      · rw [hfirst, hrest] at h
        cases h
      · rw [hfirst, hrest] at h
        cases h
        obtain ⟨hlast, hfit⟩ := ih hrest
        obtain ⟨hkey, hvalue⟩ := parseFlag_eq_ok hfirst
        refine ⟨?_, ?_⟩
        · rw [lastFor_cons, configuredFlag?_cons e entries f hfit, hlast, hkey, hvalue]
          have hsame : (Value.str g.name).sameKey (.str f.name) = decide (g = f) := by
            cases g <;> cases f <;> decide
          rw [hsame]
          congr 1
          by_cases hg : g = f <;> simp [hg]
        · intro x hx
          rcases List.mem_cons.1 hx with rfl | hx
          · rw [hvalue]
            rfl
          · exact hfit x hx

theorem withSections_flags {usual c : Config} {languages settings : List (Value × Value)}
    (h : withSections usual languages settings = .ok c) : c.flags = usual.flags := by
  obtain ⟨csharp, -, h⟩ := bind_eq_ok.1 h
  obtain ⟨clike, -, h⟩ := bind_eq_ok.1 h
  obtain ⟨path, -, h⟩ := bind_eq_ok.1 h
  obtain ⟨collection, -, h⟩ := bind_eq_ok.1 h
  cases h
  rfl

theorem get_ofDocument {root : Path} {d : Yaml.Document} {c : Config} (h : ofDocument root d = .ok c) (f : Flag) :
    c.flags.get f = (configuredFlag? (d.sectionEntries "flags") f).getD (({} : Flags).get f) := by
  unfold ofDocument at h
  split at h
  · obtain ⟨flags, hflags, h⟩ := bind_eq_ok.1 h
    obtain ⟨changes, hchanges, hset⟩ := bind_eq_ok.1 hflags
    cases hset
    rw [withSections_flags (mapError_eq_ok.1 h), Flags.get_setAll, (lastFor_parseFlags hchanges f).1]
  · cases h

/-- The flags of a configuration are those of its file over the built-in ones. -/
theorem get_load {host : Host} {p : Path} {c : Config} (h : Config.load host p = .ok c) (f : Flag) :
    c.flags.get f = (configuredFlag? (flagEntries host p) f).getD (({} : Flags).get f) := by
  obtain ⟨file, hfile, h⟩ := bind_eq_ok.1 h
  obtain ⟨there, hthere, h⟩ := bind_eq_ok.1 h
  cases there with
  | false =>
    cases h
    obtain ⟨e, hread⟩ := Files.readText_of_not_holds (mapError_eq_ok.1 hthere)
    simp only [flagEntries, hfile, hread]
    rfl
  | true =>
    obtain ⟨text, htext, h⟩ := bind_eq_ok.1 h
    obtain ⟨d, hd, h⟩ := bind_eq_ok.1 h
    simp only [flagEntries, hfile, mapError_eq_ok.1 htext, hd]
    exact get_ofDocument h f

end Config

/-! ## All layers -/

theorem get_setAll_layered {ι : Type} {host : Host} {p : Path} {c : Config} (hload : Config.load host p = .ok c)
    {files : Files} {settings : Path} {st : Store ι} {log : List Record}
    (hopen : Store.openAt files (some settings) c.collection c.flags = .ok (st, log)) (changes : List (Flag × Bool))
    (f : Flag) :
    (st.flags.setAll changes).get f = layered (lastFor f changes)
      (Store.storedFlag? files settings c.collection f) (Config.configuredFlag? (Config.flagEntries host p) f) f := by
  rw [Flags.get_setAll, Store.get_openAt hopen, Config.get_load hload, layered, Option.getD_or, Option.getD_or]

end Landmarks
