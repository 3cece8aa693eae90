import Landmarks.Proofs.CommandWords
import Landmarks.Proofs.FlagLayers
import Landmarks.Proofs.Sessions
import Landmarks.Proofs.SettingsFile
import Mathlib.Data.List.Forall2

/-!
# Changing settings from the command line

* `Assigns` : what it means that a text assigns a value to a flag; `assigns_iff` : such texts are read so.
* `checked` : the changes that assignments make, or the first fault. `checked_cases` : of several assignments to
  a flag the last counts, and one bad assignment is a fault of all.
* `settings_all_or_nothing` : the settings are changed by all assignments or by none.
* `settings_unkept` : two projects in which a good assignment is not kept all the same.
-/

namespace Landmarks

open Text

/-- The words for a truth value. -/
def truthWords (b : Bool) : List String := if b then yesWords else noWords

/-- A text assigns a value to a flag: around its first equals sign stand the name of the flag and a word for the
value, both possibly within white space, the word in any letter case. -/
def Assigns (text : String) (f : Flag) (b : Bool) : Prop :=
  ∃ name value, text.toList = name ++ '=' :: value ∧ '=' ∉ name ∧ trim name = f.name.toList ∧
    ∃ word ∈ truthWords b, word.toList = lower (trim value)

theorem isAny_iff {ws : List String} {cs : List Char} : isAny ws cs = true ↔ ∃ word ∈ ws, word.toList = cs := by
  simp [isAny]

theorem yesNo?_eq_some_iff {cs : List Char} {b : Bool} :
    yesNo? cs = some b ↔ ∃ word ∈ truthWords b, word.toList = lower (trim cs) := by
  have hapart : isAny noWords (lower (trim cs)) = true → isAny yesWords (lower (trim cs)) = false := by
    have hwords : ∀ word ∈ noWords, isAny yesWords word.toList = false := by decide
    rw [isAny_iff]
    rintro ⟨word, hword, hkey⟩
    rw [← hkey]
    exact hwords word hword
  rw [← isAny_iff, yesNo?]
  cases b with
  | true =>
    rw [truthWords, if_pos rfl]
    by_cases hyes : isAny yesWords (lower (trim cs)) = true <;> simp [hyes]
  | false =>
    rw [truthWords, if_neg Bool.false_ne_true]
    by_cases hno : isAny noWords (lower (trim cs)) = true
    · simp [hno, hapart hno]
    · simp [hno]

/-- The parts of a text around its first equals sign are its name and its value. -/
theorem parse_append {name : List Char} (hname : '=' ∉ name) (value : List Char) :
    Assignment.parse (name ++ '=' :: value) =
      ((yesNo? value).elim (.error (.notBoolean (trim name) value)) fun b => .ok (String.ofList (trim name), b)) := by
  have hsplit := CommandLine.splitEquals_append hname value
  rw [CommandLine.splitEquals, Prod.mk.injEq] at hsplit
  obtain ⟨htake, hvalue⟩ := hsplit
  have hcontains : (name ++ '=' :: value).contains '=' = true := by simp
  rw [if_pos hcontains, Option.some.injEq] at hvalue
  simp only [Assignment.parse, hcontains, if_true, htake, hvalue]
  cases yesNo? value <;> rfl

/-- An assignment is a text that is read as one. -/
theorem assigns_iff {text : String} {f : Flag} {b : Bool} :
    Assigns text f b ↔ Assignment.parse text.toList = .ok (f.name, b) := by
  constructor
  · rintro ⟨name, value, htext, hname, hflag, hword⟩
    rw [htext, parse_append hname, yesNo?_eq_some_iff.2 hword, hflag, String.ofList_toList]
    rfl
  · intro h
    by_cases hequals : '=' ∈ text.toList
    · obtain ⟨name, value, htext, hname⟩ := List.eq_append_cons_of_mem hequals
      rw [htext, parse_append hname] at h
      cases hvalue : yesNo? value with
      | none =>
        rw [hvalue] at h
        cases h
      | some truth =>
        rw [hvalue] at h
        injection h with h
        injection h with hflag htruth
        subst htruth
        refine ⟨name, value, htext, hname, ?_, yesNo?_eq_some_iff.1 hvalue⟩
        rw [← hflag, String.toList_ofList]
    · rw [Assignment.parse, if_neg (by simpa using hequals)] at h
      cases h

/-! ## Several assignments -/

/-- Either all of a list is read, or the first part of it that is a fault is the fault of the whole. -/
theorem mapM_cases {ε α β : Type} (f : α → Except ε β) (xs : List α) :
    (∃ ys, xs.mapM f = .ok ys ∧ List.Forall₂ (fun x y => f x = .ok y) xs ys ∧ ∀ y ∈ ys, ∃ x ∈ xs, f x = .ok y) ∨
      ∃ e, xs.mapM f = .error e ∧
        ∃ before x after, xs = before ++ x :: after ∧ (∀ y ∈ before, ∃ z, f y = .ok z) ∧ f x = .error e := by
  induction xs with
  | nil => exact .inl ⟨[], rfl, .nil, by simp⟩
  | cons x xs ih =>
    rw [List.mapM_cons]
    cases hx : f x with
    | error e => exact .inr ⟨e, rfl, [], x, xs, rfl, List.forall_mem_nil _, hx⟩
    | ok y =>
      rcases ih with ⟨ys, hys, hall, hfrom⟩ | ⟨e, he, before, z, after, rfl, hbefore, hfault⟩
      · rw [hys]
        refine .inl ⟨y :: ys, rfl, .cons hx hall, List.forall_mem_cons.2 ⟨⟨x, List.mem_cons_self, hx⟩, fun y' hy' => ?_⟩⟩
        obtain ⟨x', hx', hread⟩ := hfrom y' hy'
        exact ⟨x', List.mem_cons_of_mem x hx', hread⟩
      · rw [he]
        exact .inr ⟨e, rfl, x :: before, z, after, rfl, List.forall_mem_cons.2 ⟨⟨y, hx⟩, hbefore⟩, hfault⟩

/-- Values by name, as they are put one after another. -/
def merged {α : Type} (as : List (String × α)) : Named α := as.foldl (fun acc a => Named.put a.1 a.2 acc) []

/-- Of several values under a name the last counts. -/
theorem find?_merged {α : Type} (as : List (String × α)) (name : String) :
    Named.find? (merged as) name = (as.reverse.find? fun a => a.1 == name).map (·.2) := by
  have hfold : ∀ acc : Named α, Named.find? (as.foldl (fun acc a => Named.put a.1 a.2 acc) acc) name =
      ((as.reverse.find? fun a => a.1 == name).map (·.2)).or (Named.find? acc name) := by
    induction as with
    | nil => exact fun acc => rfl
    | cons a as ih =>
      intro acc
      rw [List.foldl_cons, ih, List.reverse_cons, List.find?_append]
      by_cases hname : a.1 = name
      · subst hname
        cases as.reverse.find? fun x => x.1 == a.1 <;> simp
      · cases as.reverse.find? fun x => x.1 == name <;> simp [hname, Named.find?_put_of_ne _ (Ne.symm hname)]
  exact (hfold []).trans (Option.or_none)

theorem nodup_names_merged {α : Type} (as : List (String × α)) : (Named.names (merged as)).Nodup := by
  have hfold : ∀ acc : Named α, (Named.names acc).Nodup →
      (Named.names (as.foldl (fun acc a => Named.put a.1 a.2 acc) acc)).Nodup := by
    induction as with
    | nil => exact fun acc h => h
    | cons a as ih => exact fun acc h => ih _ (Named.nodup_names_put h a.1 a.2)
  exact hfold [] List.nodup_nil

theorem mem_of_mem_merged {α : Type} {as : List (String × α)} {e : String × α} (h : e ∈ merged as) : e ∈ as := by
  have hfind := (Named.find?_eq_some_iff (nodup_names_merged as)).2 h
  rw [find?_merged, Option.map_eq_some_iff] at hfind
  obtain ⟨a, ha, hvalue⟩ := hfind
  have hname := List.find?_some ha
  have hsame : a = e := Prod.ext (eq_of_beq hname) hvalue
  exact hsame ▸ List.mem_reverse.1 (List.mem_of_find?_eq_some ha)

theorem mem_names_merged {α : Type} {as : List (String × α)} {e : String × α} (h : e ∈ as) :
    ∃ value, (e.1, value) ∈ merged as := by
  have hsome : ((as.reverse.find? fun a => a.1 == e.1).map (·.2)).isSome := by
    simpa using ⟨e.2, h⟩
  obtain ⟨value, hvalue⟩ := Option.isSome_iff_exists.1 hsome
  exact ⟨value, (Named.find?_eq_some_iff (nodup_names_merged as)).1 ((find?_merged as e.1).trans hvalue)⟩

/-- A change by the name of its flag. -/
def byName (c : Flag × Bool) : String × Bool := (c.1.name, c.2)

/-- A change as it is asked for. -/
def asChange (c : Flag × Bool) : String × Json := (c.1.name, .bool c.2)

theorem checkChange_eq_ok {change : String × Json} {c : Flag × Bool} :
    checkChange change = .ok c ↔ change = asChange c := by
  obtain ⟨name, value⟩ := change
  obtain ⟨f, b⟩ := c
  rw [asChange, Prod.mk.injEq, ← Flag.ofName?_eq_some]
  cases hname : Flag.ofName? name with
  | none => simp [checkChange, hname]
  | some g => cases value <;> simp [checkChange, hname]

/-- Either all changes are fit, or one of them is not. -/
theorem checkChanges_cases (changes : List (String × Json)) :
    (∃ fit, checkChanges changes = .ok fit ∧ changes = fit.map asChange) ∨
      ∃ e, checkChanges changes = .error e ∧ ∃ x ∈ changes, ∀ c, x ≠ asChange c := by
  rcases mapM_cases checkChange changes with ⟨fit, hok, hall, -⟩ | ⟨e, herror, before, x, after, rfl, -, hfault⟩
  · refine .inl ⟨fit, hok, ?_⟩
    rw [← List.forall₂_eq_eq_eq, List.forall₂_map_right_iff]
    exact hall.imp fun _ _ h => checkChange_eq_ok.1 h
  · refine .inr ⟨e, herror, x, List.mem_append_right before List.mem_cons_self, fun c hc => ?_⟩
    rw [checkChange_eq_ok.2 hc] at hfault
    cases hfault

theorem lastFor_eq_find? (f : Flag) (changes : List (Flag × Bool)) :
    lastFor f changes = Named.find? (changes.map byName).reverse f.name := by
  have hsame : ∀ g : Flag, (g.name == f.name) = (g == f) := by
    intro g
    cases g <;> cases f <;> decide
  rw [lastFor, Named.find?, ← List.map_reverse, List.find?_map, Option.map_map]
  simp only [Function.comp_def, byName, hsame]

/-- Changes that were put by name are the same changes, each flag once. -/
theorem lastFor_merged {changes out : List (Flag × Bool)} (h : merged (changes.map byName) = out.map byName) (f : Flag) :
    lastFor f out = lastFor f changes := by
  have hnodup := nodup_names_merged (changes.map byName)
  rw [h] at hnodup
  rw [lastFor_eq_find?, Named.find?_perm (List.reverse_perm _) ((Named.perm_names (List.reverse_perm _)).nodup_iff.2 hnodup),
    ← h, find?_merged, lastFor_eq_find?]
  rfl

namespace CommandLine

/-- The changes that assignments make, or what is wrong with one of them. -/
def checked (assignments : List (Option String)) : Except RunError (List (Flag × Bool)) := do
  let named ← (Assignment.parseAll (assignments.map fun a => a.map String.toList)).mapError .assignment
  (checkChanges (named.map fun (name, b) => (name, Json.bool b))).mapError .change

theorem parseGiven_eq_ok {text : String} {n : String × Bool} :
    Assignment.parseGiven ((valueOf? text).map String.toList) = .ok n ↔ Assignment.parse text.toList = .ok n := by
  unfold valueOf?
  split
  · rename_i hdivider
    have htext : text = "--" := eq_of_beq hdivider
    subst htext
    constructor <;> intro h <;> cases h
  · rfl

theorem checkNamed_cases (entries : List (String × Bool)) :
    (∃ changes, checkChanges (entries.map fun e => (e.1, .bool e.2)) = .ok changes ∧ entries = changes.map byName) ∨
      ∃ e, checkChanges (entries.map fun e => (e.1, .bool e.2)) = .error e ∧ ∃ x ∈ entries, ∀ c, x ≠ byName c := by
  have hinjective : Function.Injective fun e : String × Bool => (e.1, Json.bool e.2) := by
    rintro ⟨name, b⟩ ⟨name', b'⟩ h
    simpa using h
  rcases checkChanges_cases (entries.map fun e => (e.1, .bool e.2)) with
    ⟨changes, hok, hsame⟩ | ⟨e, herror, x, hx, hunfit⟩
  · refine .inl ⟨changes, hok, List.map_injective_iff.2 hinjective (hsame.trans ?_)⟩
    rw [List.map_map]
    rfl
  · obtain ⟨y, hy, rfl⟩ := List.mem_map.1 hx
    exact .inr ⟨e, herror, y, hy, fun c hc => hunfit c (congrArg (fun e => (e.1, Json.bool e.2)) hc)⟩

theorem parseAll_cases (texts : List String) :
    (∃ as, Assignment.parseAll ((texts.map valueOf?).map fun a => a.map String.toList) = .ok (merged as) ∧
      List.Forall₂ (fun text n => Assignment.parse text.toList = .ok n) texts as ∧
      ∀ n ∈ as, ∃ text ∈ texts, Assignment.parse text.toList = .ok n) ∨
    ∃ e, Assignment.parseAll ((texts.map valueOf?).map fun a => a.map String.toList) = .error e ∧
      ∃ text ∈ texts, ∀ f b, ¬ Assigns text f b := by
  rw [List.map_map]
  rcases mapM_cases Assignment.parseGiven (texts.map ((fun a => a.map String.toList) ∘ valueOf?)) with
    ⟨as, has, hall, hfrom⟩ | ⟨e, herror, before, x, after, hsplit, -, hfault⟩
  · refine .inl ⟨as, ?_, ?_, fun n hn => ?_⟩
    · rw [Assignment.parseAll, has]
      rfl
    · rw [List.forall₂_map_left_iff] at hall
      exact hall.imp fun _ _ h => parseGiven_eq_ok.1 h
    · obtain ⟨x, hx, hn⟩ := hfrom n hn
      obtain ⟨text, htext, rfl⟩ := List.mem_map.1 hx
      exact ⟨text, htext, parseGiven_eq_ok.1 hn⟩
  · have hx : x ∈ texts.map ((fun a => a.map String.toList) ∘ valueOf?) :=
      hsplit ▸ List.mem_append_right before List.mem_cons_self
    obtain ⟨text, htext, rfl⟩ := List.mem_map.1 hx
    refine .inr ⟨e, ?_, text, htext, fun f b hassigns => ?_⟩
    · rw [Assignment.parseAll, herror]
      rfl
    · have hread := parseGiven_eq_ok.2 (assigns_iff.1 hassigns)
      rw [Function.comp_apply, hread] at hfault
      cases hfault

/-- Either every text is an assignment, and the changes are theirs, or one is not, and that is the end. -/
theorem checked_cases (texts : List String) :
    (∃ out changes, checked (texts.map valueOf?) = .ok out ∧
      List.Forall₂ (fun text c => Assigns text c.1 c.2) texts changes ∧ ∀ f, lastFor f out = lastFor f changes) ∨
    (∃ e, checked (texts.map valueOf?) = .error e ∧ e.exit?.map (·.1) = some 1 ∧
      ∃ text ∈ texts, ∀ f b, ¬ Assigns text f b) := by
  unfold checked
  rcases parseAll_cases texts with ⟨as, hparse, hall, hfrom⟩ | ⟨e, herror, hunfit⟩
  · rw [hparse]
    rcases checkNamed_cases (merged as) with ⟨out, hout, hsame⟩ | ⟨e, herror, x, hx, hunknown⟩
    · -- A name that was given stays among the merged ones, so all that were given name flags.
      obtain ⟨changes, rfl⟩ : ∃ changes : List (Flag × Bool), as = changes.map byName := by
        rcases checkNamed_cases as with ⟨changes, -, has⟩ | ⟨e, -, x, hx, hunknown⟩
        · exact ⟨changes, has⟩
        · obtain ⟨value, hvalue⟩ := mem_names_merged hx
          rw [hsame] at hvalue
          obtain ⟨c, -, hc⟩ := List.mem_map.1 hvalue
          have hx : x = byName (c.1, x.2) := Prod.ext (congrArg Prod.fst hc).symm rfl
          exact absurd hx (hunknown (c.1, x.2))
      refine .inl ⟨out, changes, congrArg (Except.mapError RunError.change) hout, ?_, lastFor_merged hsame⟩
      rw [List.forall₂_map_right_iff] at hall
      exact hall.imp fun _ _ h => assigns_iff.2 h
    · obtain ⟨text, htext, hread⟩ := hfrom x (mem_of_mem_merged hx)
      refine .inr ⟨.change e, congrArg (Except.mapError RunError.change) herror, rfl, text, htext, fun f b hassigns => ?_⟩
      rw [assigns_iff.1 hassigns] at hread
      exact hunknown (f, b) (Except.ok.inj hread).symm
  · rw [herror]
    exact .inr ⟨.assignment e, rfl, rfl, hunfit⟩

/-! ## The run -/

theorem gives_checked (files : Files) (assignments : List (Option String)) :
    Session.Gives files
      (Session.attempt .assignment (Assignment.parseAll (assignments.map fun a => a.map String.toList)) >>= fun named =>
        Session.attempt .change (checkChanges (named.map fun (name, b) => (name, Json.bool b))))
      (checked assignments) files :=
  (Session.gives_attempt files _ _).bind fun _ => Session.gives_attempt files _ _

theorem gives_assign_of_error {assignments : List (Option String)} {e : RunError} (h : checked assignments = .error e)
    (files : Files) (store : Store Empty) : Session.Gives files (Session.assign store assignments) (.error e) files := by
  have hchecked := gives_checked files assignments
  rw [h] at hchecked
  rw [Session.assign, ← bind_assoc]
  exact hchecked.bind_error

/-- Changes that can be made are written, if the file can be. -/
theorem gives_assign_of_ok {assignments : List (Option String)} {out : List (Flag × Bool)}
    (h : checked assignments = .ok out) {files after : Files} {store : Store Empty} {settings : Path}
    (hpath : store.path = some settings) {old : Json.Fields} {log : List Record}
    (hold : Store.payloadAt files settings = .ok (old, log)) {written : Except FileError Unit}
    (hwrite : exec (Store.writeFile settings
      (Store.fileBytes (Store.savedFields store.collection (store.flags.setAll out) old))) files = (written, after)) :
    Session.Gives files (Session.assign store assignments)
      (written.mapError .settingsFile >>= fun _ => .ok (store.flags.setAll out)) after := by
  have hpersist : Store.persist files { store with flags := store.flags.setAll out } = .ok ((written, after), log) := by
    rw [Store.persist_of_payloadAt hpath hold, hwrite]
  have hchecked := gives_checked files assignments
  rw [h] at hchecked
  rw [Session.assign, ← bind_assoc]
  refine hchecked.bind_ok (Session.gives_get_bind fun s hs => ?_)
  rw [hs, hpersist]
  refine (Session.gives_attempt files _ _).bind_ok (Session.gives_say_bind ?_)
  exact (Session.gives_setFiles files after).bind_ok
    ((Session.gives_attempt after _ _).bind fun _ => Session.gives_pure after _)

theorem Starts.payloadAt {host : Host} {dir : String} {c : Config} {settings : Path} {store : Store Empty}
    (h : Starts host dir c settings store) :
    ∃ old log, Store.payloadAt host.files settings = .ok (old, log) ∧ store.path = some settings ∧
      store.collection = c.collection := by
  obtain ⟨log, hopened⟩ := h.opened
  obtain ⟨⟨old, said, hold⟩, hpath, -⟩ := Store.openAt_eq_ok hopened
  exact ⟨old, said, hold, hpath, (Store.fields_of_openAt hopened).1⟩

/-- A run whose changes can be made prints the new flags, and the settings file keeps them. -/
theorem run_of_checked {host : Host} {dir : String} {c : Config} {settings : Path} {store : Store Empty}
    (h : Starts host dir c settings store) (hwritable : Store.Writable host.files settings) {argv : List String}
    {i : Invocation} (hparse : Invocation.parse argv = .ok i) (hcommand : i.command = .settings)
    (hconfig : i.arguments.config = some dir) (hne : i.arguments.assignments ≠ []) {out : List (Flag × Bool)}
    (hchecked : checked i.arguments.assignments = .ok out) :
    (run host argv).ending = .ok none ∧ (run host argv).printed = flagLines (store.flags.setAll out) ∧
      (c.collection.Sound →
        Store.Keeps (run host argv).files settings c.collection (store.flags.setAll out)) := by
  obtain ⟨old, log, hold, hpath, hcollection⟩ := h.payloadAt
  obtain ⟨after, hwrite, -, hkept⟩ := Store.write_saved hold hwritable store.collection (store.flags.setAll out)
  obtain ⟨hending, hprinted, hfiles⟩ :=
    run_settings h hparse hcommand hconfig hne (gives_assign_of_ok hchecked hpath hold hwrite)
  refine ⟨hending, hprinted, fun hsound => ?_⟩
  rw [hfiles, ← hcollection]
  exact (hkept (hcollection ▸ hsound)).1

theorem assigns_unique {text : String} {c d : Flag × Bool} (hc : Assigns text c.1 c.2) (hd : Assigns text d.1 d.2) :
    c = d := by
  have hsame := (assigns_iff.1 hc).symm.trans (assigns_iff.1 hd)
  injection hsame with hsame
  injection hsame with hname hvalue
  refine Prod.ext ?_ hvalue
  have hflag := Flag.ofName?_name c.1
  rw [hname, Flag.ofName?_name] at hflag
  exact (Option.some.inj hflag).symm

theorem exists_assigns {texts : List String} {changes : List (Flag × Bool)}
    (h : List.Forall₂ (fun text c => Assigns text c.1 c.2) texts changes) :
    ∀ text ∈ texts, ∃ f b, Assigns text f b := by
  induction h with
  | nil => simp
  | cons hfirst hrest ih => exact List.forall_mem_cons.2 ⟨⟨_, _, hfirst⟩, ih⟩

/-- Settings are changed by all assignments or by none. If one of them is bad, the run ends with status 1, prints
nothing and leaves the files as they were; else every flag has the value of the last assignment to it, or its old
one, and just these flags are printed, and stored under the name of the collection if that is sound. If it is not,
the flags of the configuration stay in force. -/
theorem settings_all_or_nothing {host : Host} {dir : String} {c : Config} {settings : Path} {store : Store Empty}
    (h : Starts host dir c settings store) (hwritable : Store.Writable host.files settings) (cs : List Choice)
    (hopts : ∀ choice ∈ cs, choice.opt ∈ Command.settings.grammar.options) (hdir : (argumentsOf cs).config = some dir)
    (hne : cs.filterMap Choice.assignment? ≠ []) :
    ((∃ text ∈ cs.filterMap Choice.assignment?, ∀ f b, ¬ Assigns text f b) →
      (run host (settingsWords cs)).status? = some 1 ∧ (run host (settingsWords cs)).printed = [] ∧
        (run host (settingsWords cs)).files = host.files) ∧
    (∀ changes, List.Forall₂ (fun text c => Assigns text c.1 c.2) (cs.filterMap Choice.assignment?) changes →
      (run host (settingsWords cs)).status? = some 0 ∧
      ∃ flags : Flags, (run host (settingsWords cs)).printed = flagLines flags ∧
        (c.collection.Sound → Store.Keeps (run host (settingsWords cs)).files settings c.collection flags) ∧
        (¬ c.collection.Sound → ∀ (now : Store Empty) (log : List Record),
          Store.openAt (run host (settingsWords cs)).files (some settings) c.collection c.flags = .ok (now, log) →
            now.flags = c.flags) ∧
        ∀ f, flags.get f = (lastFor f changes).getD (store.flags.get f)) := by
  have hgiven := assignments_argumentsOf cs
  have hassigned : (argumentsOf cs).assignments ≠ [] := by
    rw [hgiven]
    simpa using hne
  rcases checked_cases (cs.filterMap Choice.assignment?) with
    ⟨out, made, hchecked, hall, hlast⟩ | ⟨e, hchecked, hexit, text, htext, hunfit⟩
  · rw [← hgiven] at hchecked
    obtain ⟨hending, hprinted, hkeeps⟩ :=
      run_of_checked h hwritable (Invocation.parse_settings hopts) rfl hdir hassigned hchecked
    refine ⟨?_, fun changes hchanges => ⟨?_, _, hprinted, hkeeps, ?_, fun f => ?_⟩⟩
    · rintro ⟨text, htext, hunfit⟩
      obtain ⟨f, b, hassigns⟩ := exists_assigns hall text htext
      exact absurd hassigns (hunfit f b)
    · rw [Outcome.status?, hending]
    · intro hunsound now log hnow
      exact Store.flags_of_openAt_of_not_sound hunsound hnow
    · have hunique : Relator.RightUnique fun (text : String) (c : Flag × Bool) => Assigns text c.1 c.2 :=
        fun text c d => assigns_unique
      rw [Flags.get_setAll, hlast, List.right_unique_forall₂' hunique hall hchanges]
  · rw [← hgiven] at hchecked
    obtain ⟨hending, hprinted, hfiles⟩ := run_settings h (Invocation.parse_settings hopts) rfl hdir hassigned
      (gives_assign_of_error hchecked host.files store)
    refine ⟨fun _ => ⟨?_, hprinted, hfiles⟩, fun changes hchanges => ?_⟩
    · rw [Outcome.status?, hending]
      exact hexit
    · obtain ⟨f, b, hassigns⟩ := exists_assigns hchanges text htext
      exact absurd hassigns (hunfit f b)

/-- A directory with nothing in it. -/
def bareHost : Host := ⟨⟨.directory [], ⟨"/", []⟩⟩, fun _ => none⟩

theorem starts_bare : Starts bareHost "." { root := ⟨"/", []⟩ } ⟨"/", [".scrollmarks", "settings.json"]⟩
    { path := some ⟨"/", [".scrollmarks", "settings.json"]⟩, collection := defaultCollection, defaults := {}, flags := {} } :=
  starts_of_toOption (by decide +kernel) (by decide +kernel) (by decide +kernel)

/-- Three assignments to two flags, and a run that a text without an equals sign brings to nothing. -/
theorem settings_all_or_nothing_spaced :
    (run bareHost (settingsWords [.set " show_classes = OFF", .set "show_headers=0", .set "show_headers=Yes "])).printed =
      flagLines { classes := false } ∧
    (run bareHost (settingsWords [.set "show_classes=off", .set "show_headers"])).status? = some 1 ∧
    (run bareHost (settingsWords [.set "show_classes=off", .set "show_headers"])).files = bareHost.files := by
  have hwritable : Store.Writable bareHost.files ⟨"/", [".scrollmarks", "settings.json"]⟩ := by
    unfold Store.Writable
    decide +kernel
  have hgood : List.Forall₂ (fun text c => Assigns text c.1 c.2)
      [" show_classes = OFF", "show_headers=0", "show_headers=Yes "]
      [(.classes, false), (.headers, false), (.headers, true)] := by
    refine .cons ?_ (.cons ?_ (.cons ?_ .nil)) <;> (rw [assigns_iff]; decide +kernel)
  have hbad : ∀ f b, ¬ Assigns "show_headers" f b := by
    intro f b hassigns
    have hread := assigns_iff.1 hassigns
    have hfault : Assignment.parse "show_headers".toList = .error (.noEquals "show_headers".toList) := by decide +kernel
    rw [hfault] at hread
    cases hread
  obtain ⟨-, flags, hprinted, -, -, hflags⟩ := (settings_all_or_nothing starts_bare hwritable
    [.set " show_classes = OFF", .set "show_headers=0", .set "show_headers=Yes "] (by decide) rfl (by decide)).2 _ hgood
  obtain ⟨hstatus, -, hfiles⟩ := (settings_all_or_nothing starts_bare hwritable
    [.set "show_classes=off", .set "show_headers"] (by decide) rfl (by decide)).1 ⟨"show_headers", by decide, hbad⟩
  have hsame : flags = { classes := false } := by
    refine Flags.ext_get fun f => (hflags f).trans ?_
    cases f <;> rfl
  rw [hsame] at hprinted
  exact ⟨hprinted, hstatus, hfiles⟩

/-- A settings file of the present version, with an integer of 4301 digits in it. -/
def longIntegerHost : Host :=
  ⟨⟨.directory [(".scrollmarks", .directory [("settings.json", .file (Utf8.encode
      ("\x7b\"version\": 1, \"x\": ".toList ++ List.replicate 4301 '1' ++ ['\x7d'])))])], ⟨"/", []⟩⟩, fun _ => none⟩

/-- A project whose collection has a name of two halves of a pair. -/
def pairHost : Host :=
  ⟨⟨.directory [(".scrollmarks.yml", .file (Utf8.encode "settings:\n  collection: \"\\uD83D\\uDE00\"\n".toList))],
    ⟨"/", []⟩⟩, fun _ => none⟩

/-- The two ways in which a good assignment comes to nothing although the file is UTF-8 and can be written. With a
long integer in the file the run has no status of its own: it fails before, when it opens the store. Under a name
of two halves of a pair the flags are written and printed, but nothing is found under that name afterwards. -/
theorem settings_unkept :
    Assigns "show_headers=no" .headers false ∧
    ((longIntegerHost.files.readText ⟨"/", [".scrollmarks", "settings.json"]⟩).toOption.isSome ∧
      Store.Writable longIntegerHost.files ⟨"/", [".scrollmarks", "settings.json"]⟩ ∧
      (run longIntegerHost (settingsWords [.set "show_headers=no"])).status? = none) ∧
    ∃ c, Config.load pairHost (Path.ofString ".") = .ok c ∧
      (run pairHost (settingsWords [.set "show_headers=no"])).printed = flagLines { headers := false } ∧
      ∀ (now : Store Empty) (log : List Record),
        Store.openAt (run pairHost (settingsWords [.set "show_headers=no"])).files
          (some ⟨"/", [".scrollmarks", "settings.json"]⟩) c.collection c.flags = .ok (now, log) → now.flags = {} := by
  have hconfig : (Config.load pairHost (Path.ofString ".")).toOption = some
      { root := ⟨"/", []⟩, collection := ⟨[.half 0x3d, .half 0x600]⟩ } := by decide +kernel
  refine ⟨assigns_iff.2 (by decide +kernel), ⟨by decide +kernel, ?_, by decide +kernel⟩,
    _, eq_ok_of_toOption hconfig, by decide +kernel, fun now log hnow => ?_⟩
  · unfold Store.Writable
    decide +kernel
  · exact Store.flags_of_openAt_of_not_sound (by decide) hnow

end CommandLine

end Landmarks
