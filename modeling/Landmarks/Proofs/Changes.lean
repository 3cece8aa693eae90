import Landmarks.Proofs.Assignments
import Landmarks.Proofs.ForeignData
import Landmarks.Proofs.Notification

/-!
# Changes by name

* `Fit` : a change gives a flag a truth value.
* `get_setAll_of_asChange` : each flag that is named gets its value, whatever the order of the changes.
* `Hub.Grows` : nothing that was heard is forgotten; `grows_call` : whatever listeners do is of this kind, by
  induction on the depth of the calls.
* `Hub.Calls` : listeners are called one after another, with the same flags.
* `Hub.update_checks_first` : one unfit change, and nothing happens; else the flags named are changed and saved, and
  all listeners are called in order.
-/

namespace Landmarks

/-! ## Fit changes -/

/-- A change gives a flag a truth value. -/
def Fit (change : String × Json) : Prop := ∃ c, change = asChange c

theorem Named.find?_map {α β : Type} (entries : Named α) (g : α → β) (name : String) :
    find? (entries.map fun e => (e.1, g e.2)) name = (find? entries name).map g := by
  rw [find?, find?, List.find?_map, Option.map_map, Option.map_map]
  rfl

theorem Named.find?_eq_none {α : Type} {entries : Named α} {name : String} (h : name ∉ names entries) :
    find? entries name = none := by
  rw [find?, Option.map_eq_none_iff, List.find?_eq_none]
  intro e he hname
  exact h (List.mem_map.2 ⟨e, he, eq_of_beq hname⟩)

/-- Each flag that is named gets its value. -/
theorem get_setAll_of_asChange {changes : List (String × Json)} {fit : List (Flag × Bool)}
    (hnames : (Named.names changes).Nodup) (hfit : changes = fit.map asChange) (flags : Flags) (f : Flag) :
    (flags.setAll fit).get f = ((Named.find? changes f.name).bind Json.truth?).getD (flags.get f) := by
  have hchanges : changes = (fit.map byName).map fun e => (e.1, .bool e.2) := by
    rw [hfit, List.map_map]
    rfl
  have hnames' : (Named.names (fit.map byName).reverse).Nodup := by
    rw [(Named.perm_names (List.reverse_perm _)).nodup_iff]
    rw [hchanges, Named.names, List.map_map] at hnames
    exact hnames
  rw [Flags.get_setAll, lastFor_eq_find?, Named.find?_perm (List.reverse_perm _) hnames', hchanges, Named.find?_map]
  cases Named.find? (fit.map byName) f.name <;> rfl

/-- The order of changes does not matter. -/
theorem setAll_of_perm {changes others : List (String × Json)} {fit fit' : List (Flag × Bool)}
    (hnames : (Named.names changes).Nodup) (hperm : others.Perm changes) (hfit : changes = fit.map asChange)
    (hfit' : others = fit'.map asChange) (flags : Flags) : flags.setAll fit' = flags.setAll fit := by
  refine Flags.ext_get fun f => ?_
  have hothers := (Named.perm_names hperm).nodup_iff.2 hnames
  rw [get_setAll_of_asChange hnames hfit, get_setAll_of_asChange hothers hfit', Named.find?_perm hperm hothers]

theorem exists_checkChanges_of_fit {changes : List (String × Json)} (h : ∀ c ∈ changes, Fit c) :
    ∃ fit, checkChanges changes = .ok fit ∧ changes = fit.map asChange := by
  rcases checkChanges_cases changes with hok | ⟨e, -, x, hx, hunfit⟩
  · exact hok
  · obtain ⟨c, hc⟩ := h x hx
    exact absurd hc (hunfit c)

theorem exists_error_of_unfit {changes : List (String × Json)} {c : String × Json} (hc : c ∈ changes)
    (hunfit : ¬ Fit c) : ∃ e, checkChanges changes = .error e := by
  rcases checkChanges_cases changes with ⟨fit, -, rfl⟩ | ⟨e, herror, -⟩
  · obtain ⟨c', -, rfl⟩ := List.mem_map.1 hc
    exact absurd ⟨c', rfl⟩ hunfit
  · exact ⟨e, herror⟩

namespace Hub

variable {h h' : Hub} {n : Nat} {st : Store String} {flags : Flags}

/-! ## What is heard stays heard -/

/-- Nothing that was heard is forgotten. -/
def Grows (h h' : Hub) : Prop := h.events <+: h'.events

theorem Grows.refl (h : Hub) : Grows h h := List.prefix_rfl

theorem Grows.trans {h'' : Hub} (hg : Grows h h') (hg' : Grows h' h'') : Grows h h'' := List.IsPrefix.trans hg hg'

theorem grows_store (n : Nat) (h : Hub) : Grows h (exec (store n) h).2 := by
  rw [store, exec_get_bind]
  split <;> exact .refl h

theorem grows_save (n : Nat) (flags : Option Flags) (h : Hub) : Grows h (exec (save n flags) h).2 := by
  cases hold : h.stores[n]? with
  | none =>
    rw [save, exec_bind_of_error (exec_store_of_none hold)]
    exact .refl h
  | some old =>
    rcases hpersist : { old with flags := flags.getD old.flags }.persist h.files with e | ⟨⟨written, files⟩, log⟩
    · rw [exec_save_of_content_error hold hpersist]
      exact List.prefix_rfl
    · rw [exec_save hold hpersist]
      exact List.prefix_rfl

section Calls

variable {call : Nat → String → Flags → Op Unit} (hcall : ∀ m name flags h, Grows h (exec (call m name flags) h).2)

include hcall

theorem grows_notifyWith (n : Nat) (h : Hub) : Grows h (exec (notifyWith call n) h).2 := by
  refine exec_bind_rel (R := Grows) .trans (grows_store n h) fun st h' => ?_
  refine exec_forM_rel (R := Grows) .refl .trans (fun name _ h'' => ?_) h'
  exact exec_bind_rel (R := Grows) .trans (grows_store n h'') fun st' => hcall n name st'.flags

theorem grows_updateWith (n : Nat) (changes : List (String × Json)) (h : Hub) :
    Grows h (exec (updateWith call n changes) h).2 := by
  rw [updateWith]
  split
  · exact .refl h
  · refine exec_bind_rel (R := Grows) .trans (grows_store n h) fun st h' => ?_
    rw [exec_bind_pure_state]
    exact exec_bind_rel (R := Grows) .trans (grows_save n _ h') fun _ => grows_notifyWith hcall n

end Calls

theorem grows_unsubscribe (token : String) (h : Hub) : Grows h (exec (unsubscribe token) h).2 := by
  rw [unsubscribe, exec_get_bind]
  split
  · exact exec_bind_rel (R := Grows) .trans (grows_store _ h) fun _ h' => List.prefix_rfl
  · exact .refl h

theorem grows_number (name : String) (h : Hub) : Grows h (exec (number name) h).2 := by
  rw [number, exec_get_bind]
  split <;> exact .refl h

/-- A listener takes note of the flags before it does anything else. -/
theorem hear_grows_call {depth : Nat} (hcall : ∀ m name flags h, Grows h (exec (call depth m name flags) h).2) (n : Nat)
    (name : String) (flags : Flags) (h : Hub) :
    Grows (h.hear n name flags) (exec (call (depth + 1) n name flags) h).2 := by
  rw [call, exec_get_bind, exec_modify_bind]
  cases (h.listener name).action with
  | none => exact .refl _
  | some action =>
    dsimp only
    split
    · exact .refl _
    · cases action.reaction with
      | fail fault => exact .refl _
      | unsubscribe token => exact grows_unsubscribe token _
      | update storeName changes =>
        refine exec_bind_rel (R := Grows) .trans (grows_number storeName _) fun k h' => ?_
        rw [exec_bind_pure_state]
        exact grows_updateWith hcall k changes h'

/-- By induction on the depth: what listeners do only adds to what is heard. -/
theorem grows_call (depth : Nat) : ∀ m name flags h, Grows h (exec (call depth m name flags) h).2 := by
  induction depth with
  | zero => exact fun _ _ _ h => .refl h
  | succ depth ih =>
    intro m name flags h
    have hheard : Grows h (h.hear m name flags) := List.prefix_append _ _
    exact hheard.trans (hear_grows_call ih m name flags h)

/-! ## Listeners in turn -/

/-- Listeners are called one after another with some flags. None of them fails, and the store has the same flags
after each. -/
inductive Calls (n : Nat) (flags : Flags) : List String → Hub → Hub → Prop
  | nil (h : Hub) : Calls n flags [] h h
  | cons {name : String} {names : List String} {h mid h' : Hub}
      (turn : exec (call maxDepth n name flags) h = (.ok (), mid)) (kept : mid.flagsOf n = h.flagsOf n)
      (rest : Calls n flags names mid h') : Calls n flags (name :: names) h h'

namespace Calls

variable {names : List String}

theorem flagsOf_eq (hcalls : Calls n flags names h h') : h'.flagsOf n = h.flagsOf n := by
  induction hcalls with
  | nil h => rfl
  | cons turn kept rest ih => exact ih.trans kept

/-- All of them hear the flags, in their order. -/
theorem exists_events (hcalls : Calls n flags names h h') :
    ∃ heard, h'.events = h.events ++ heard ∧ (names.map fun name => (name, flags)).Sublist heard := by
  induction hcalls with
  | nil h => exact ⟨[], (List.append_nil _).symm, .slnil⟩
  | @cons name names h mid h' turn kept rest ih =>
    obtain ⟨later, hlater, hnames⟩ := ih
    have hgrows : Grows (h.hear n name flags) (exec (call maxDepth n name flags) h).2 :=
      hear_grows_call (grows_call (maxDepth - 1)) n name flags h
    rw [turn] at hgrows
    obtain ⟨between, hbetween⟩ := hgrows
    refine ⟨(name, flags) :: (between ++ later), ?_, (hnames.trans (List.sublist_append_right _ _)).cons_cons _⟩
    rw [hlater, ← hbetween, hear]
    simp

/-- The listeners of a store that keeps its flags are called with them in turn. -/
theorem exec_turns (hcalls : Calls n flags names h h') (hflags : h.flagsOf n = some flags) :
    exec (names.forM fun name => do call maxDepth n name (← store n).flags) h = (.ok (), h') := by
  induction hcalls with
  | nil h => rfl
  | @cons name names h mid h' turn kept rest ih =>
    obtain ⟨st, hst, rfl⟩ := Option.map_eq_some_iff.1 hflags
    have hturn : exec (do call maxDepth n name (← store n).flags) h = (.ok (), mid) := by
      rw [exec_bind_of_ok (exec_store_of_some hst)]
      exact turn
    exact (exec_bind_of_ok hturn).trans (ih (kept.trans hflags))

end Calls

/-- Listeners that only take note can be called at any time. -/
theorem exists_calls {names : List String} (hplain : ∀ name, (h.listener name).action = none) :
    ∃ h', Calls n flags names h h' := by
  induction names generalizing h with
  | nil => exact ⟨h, .nil h⟩
  | cons name names ih =>
    have hplain' : ∀ other, ((h.hear n name flags).listener other).action = none := by
      intro other
      rw [action_hear]
      exact hplain other
    obtain ⟨h', hrest⟩ := ih hplain'
    exact ⟨h', .cons (exec_call_of_plain (hplain name)) rfl hrest⟩

/-! ## Updates -/

/-- Where the file can be read and written, or there is none to write, flags are put in force, and kept under a sound
name. -/
theorem exec_save_of_writable (hst : h.stores[n]? = some st)
    (hfile : ∀ path, st.path = some path → Store.Writable h.files path ∧ Store.Legible h.files path) (flags : Flags) :
    ∃ files log, exec (save n (some flags)) h =
        (.ok (), { h with stores := h.stores.set n { st with flags }, files, log := h.log ++ log }) ∧
      ∀ path, st.path = some path → st.collection.Sound → Store.Keeps files path st.collection flags := by
  rcases Option.eq_none_or_eq_some st.path with hpath | ⟨path, hpath⟩
  · refine ⟨h.files, [], exec_save hst (Store.persist_of_none hpath _), fun path hsome => ?_⟩
    rw [hpath] at hsome
    cases hsome
  · obtain ⟨hwritable, hlegible⟩ := hfile path hpath
    obtain ⟨⟨old, log⟩, hold⟩ := Store.exists_payloadAt_iff.2 hlegible
    obtain ⟨files, hwrite, -, hkept⟩ := Store.write_saved hold hwritable st.collection flags
    have hpersist : { st with flags := (some flags).getD st.flags }.persist h.files = .ok ((.ok (), files), log) := by
      rw [Store.persist_of_payloadAt hpath hold, Option.getD_some, hwrite]
    refine ⟨files, log, exec_save hst hpersist, fun path' hsome hsound => ?_⟩
    obtain rfl : path = path' := Option.some.inj (hpath.symm.trans hsome)
    exact (hkept hsound).1

theorem flagsOf_of_set (hst : h.stores[n]? = some st) (hstores : h'.stores = h.stores.set n { st with flags }) :
    h'.flagsOf n = some flags := by
  rw [flagsOf, stores_of_set hst _ hstores, if_pos rfl, Option.map_some]

/-- After a save the listeners have their turns. -/
theorem exec_apply_of_calls {saved : Hub} (hst : h.stores[n]? = some st)
    (hsave : exec (save n (some flags)) h = (.ok (), saved)) (hsaved : saved.stores = h.stores.set n { st with flags })
    (hcalls : Calls n flags st.listeners saved h') : exec (apply n flags) h = (.ok (), h') := by
  have hst' : saved.stores[n]? = some { st with flags } := by rw [stores_of_set hst _ hsaved, if_pos rfl]
  rw [apply, applyWith, exec_bind_of_ok hsave, notifyWith, exec_bind_of_ok (exec_store_of_some hst')]
  exact hcalls.exec_turns (flagsOf_of_set hst hsaved)

/-- A store on a file that can be read and written, which nobody listens to, is updated. -/
theorem exec_update_unheard {changes : List (String × Json)} {fit : List (Flag × Bool)} {path : Path}
    (hst : h.stores[n]? = some st) (hfit : checkChanges changes = .ok fit) (hpath : st.path = some path)
    (hnobody : st.listeners = []) (hwritable : Store.Writable h.files path) (hlegible : Store.Legible h.files path)
    (hsound : st.collection.Sound) :
    ∃ h', exec (update n changes) h = (.ok (st.flags.setAll fit), h') ∧
      h'.stores = h.stores.set n { st with flags := st.flags.setAll fit } ∧
      Store.Keeps h'.files path st.collection (st.flags.setAll fit) := by
  have hfile : ∀ p, st.path = some p → Store.Writable h.files p ∧ Store.Legible h.files p := by
    intro p hp
    obtain rfl : path = p := Option.some.inj (hpath.symm.trans hp)
    exact ⟨hwritable, hlegible⟩
  obtain ⟨files, log, hsave, hkeeps⟩ := exec_save_of_writable hst hfile (st.flags.setAll fit)
  refine ⟨{ h with stores := h.stores.set n { st with flags := st.flags.setAll fit }, files, log := h.log ++ log },
    ?_, rfl, hkeeps path hpath hsound⟩
  rw [exec_update_of_ok hst hfit]
  refine exec_bind_of_ok (exec_apply_of_calls hst hsave rfl ?_)
  rw [hnobody]
  exact .nil _

/-- **Changes are checked before anything is done.** If one of them is unfit, wherever it stands, the update is
refused and nothing happens at all. If all are fit and no name comes twice, their order does not matter. Where the
file can be read and written, or there is none, the new flags are the old ones with the values that were named.
They are kept in the file, under a sound name, before the listeners are called with them, one after another; unless one of these fails
or changes the store, the update gives the new flags, and all listeners have heard them in their order. -/
theorem update_checks_first (hst : h.stores[n]? = some st) (changes : List (String × Json)) :
    ((∃ c ∈ changes, ¬ Fit c) → ∃ e, exec (update n changes) h = (.error (.change e), h)) ∧
      ((∀ c ∈ changes, Fit c) → (Named.names changes).Nodup →
        (∀ others, others.Perm changes → exec (update n others) h = exec (update n changes) h) ∧
        ((∀ path, st.path = some path → Store.Writable h.files path ∧ Store.Legible h.files path) →
          ∃ flags files log,
            (∀ f b, (f.name, .bool b) ∈ changes → flags.get f = b) ∧
            (∀ f, f.name ∉ Named.names changes → flags.get f = st.flags.get f) ∧
            (∀ path, st.path = some path → st.collection.Sound → Store.Keeps files path st.collection flags) ∧
            ∀ h', Calls n flags st.listeners
                { h with stores := h.stores.set n { st with flags }, files, log := h.log ++ log } h' →
              exec (update n changes) h = (.ok flags, h') ∧ h'.flagsOf n = some flags ∧
                ∃ heard, h'.events = h.events ++ heard ∧
                  (st.listeners.map fun name => (name, flags)).Sublist heard)) := by
  refine ⟨?_, fun hall hnames => ?_⟩
  · rintro ⟨c, hc, hunfit⟩
    obtain ⟨e, herror⟩ := exists_error_of_unfit hc hunfit
    exact ⟨e, exec_update_of_error herror⟩
  obtain ⟨fit, hok, hfit⟩ := exists_checkChanges_of_fit hall
  refine ⟨fun others hperm => ?_, fun hfile => ?_⟩
  · obtain ⟨fit', hok', hfit'⟩ := exists_checkChanges_of_fit fun c hc => hall c (hperm.mem_iff.1 hc)
    rw [exec_update_of_ok hst hok, exec_update_of_ok hst hok', setAll_of_perm hnames hperm hfit hfit']
  · have hget := get_setAll_of_asChange hnames hfit st.flags
    obtain ⟨files, log, hsave, hkeeps⟩ := exec_save_of_writable hst hfile (st.flags.setAll fit)
    refine ⟨st.flags.setAll fit, files, log, fun f b hmem => ?_, fun f hnot => ?_, hkeeps, fun h' hcalls => ⟨?_, ?_, ?_⟩⟩
    · rw [hget, (Named.find?_eq_some_iff hnames).2 hmem]
      rfl
    · rw [hget, Named.find?_eq_none hnot]
      rfl
    · rw [exec_update_of_ok hst hok]
      exact exec_bind_of_ok (exec_apply_of_calls hst hsave rfl hcalls)
    · exact hcalls.flagsOf_eq.trans (flagsOf_of_set hst rfl)
    · exact hcalls.exists_events

/-- A store whose file is not there yet, with a listener that comes twice. -/
def heardTwice : Hub where
  files := Files.bare
  stores := [⟨some ⟨"/", ["s.json"]⟩, "main", {}, {}, ["a", "b", "a"]⟩]

theorem update_heardTwice :
    (∃ e, exec (update 0 [("show_headers", .bool false), ("show_classes", .int 1)]) heardTwice =
        (.error (.change e), heardTwice)) ∧
      ∃ flags h', exec (update 0 [("show_headers", .bool false), ("show_classes", .bool false)]) heardTwice =
          (.ok flags, h') ∧
        flags.get .headers = false ∧ flags.get .functions = true ∧
        [("a", flags), ("b", flags), ("a", flags)].Sublist h'.events := by
  have hst : heardTwice.stores[0]? = some ⟨some ⟨"/", ["s.json"]⟩, "main", {}, {}, ["a", "b", "a"]⟩ := rfl
  have hwritable : Store.Writable Files.bare ⟨"/", ["s.json"]⟩ := by
    rw [Store.Writable, Store.writeFile, exec_bind_of_ok (Files.exec_makeDirs_of_directory (by decide +kernel)),
      Files.exec_write_of_free Files.locate_bare Files.free_bare]
  have hlegible : Store.Legible Files.bare ⟨"/", ["s.json"]⟩ := by
    have hread : Files.bare.read ⟨"/", ["s.json"]⟩ = .error .notFound := by decide +kernel
    refine ⟨by decide, fun bytes hbytes => ?_⟩
    rw [hread] at hbytes
    cases hbytes
  refine ⟨(update_checks_first hst _).1 ⟨("show_classes", .int 1), by simp, ?_⟩, ?_⟩
  · rintro ⟨c, hc⟩
    cases (congrArg Prod.snd hc : Json.int 1 = .bool c.2)
  · have hfit : ∀ c ∈ [("show_headers", Json.bool false), ("show_classes", .bool false)], Fit c :=
      List.forall_mem_cons.2 ⟨⟨(.headers, false), rfl⟩, List.forall_mem_singleton.2 ⟨(.classes, false), rfl⟩⟩
    obtain ⟨-, hupdate⟩ := (update_checks_first hst _).2 hfit (by decide)
    obtain ⟨flags, files, log, hnamed, hothers, -, hcalled⟩ := hupdate fun path hpath => by
      cases hpath
      exact ⟨hwritable, hlegible⟩
    obtain ⟨hrun, -, heard, hevents, hsub⟩ := hcalled _ (exists_calls fun _ => rfl).choose_spec
    refine ⟨flags, _, hrun, hnamed .headers false (by simp [Flag.name]), hothers .functions (by decide), ?_⟩
    rw [hevents]
    exact hsub

/-- A store whose file was overwritten with what is no text. -/
def overwritten : Hub where
  files := Store.noText
  stores := [⟨some ⟨"/", ["s.json"]⟩, "main", {}, {}, ["a"]⟩]

/-- The change is fit and the file could be written, but it is not, and the listener is not called. -/
theorem update_overwritten :
    Fit ("show_headers", .bool false) ∧ Store.Writable overwritten.files ⟨"/", ["s.json"]⟩ ∧
      ∃ h', exec (update 0 [("show_headers", .bool false)]) overwritten =
          (.error (.content (.encoding ⟨0, [0xFF], .start⟩)), h') ∧
        h'.files = overwritten.files ∧ h'.events = [] := by
  have hread : overwritten.files.read ⟨"/", ["s.json"]⟩ = .ok [0xFF] := by decide +kernel
  have hhome : overwritten.files.HasHome := by unfold Files.HasHome; decide +kernel
  have hst : overwritten.stores[0]? = some ⟨some ⟨"/", ["s.json"]⟩, "main", {}, {}, ["a"]⟩ := rfl
  refine ⟨⟨(.headers, false), rfl⟩, Store.writable_of_read hhome hread, _, exec_update_of_save_error hst rfl
    (exec_save_of_content_error hst (Store.persist_of_error rfl Store.payloadAt_noText _)), rfl, rfl⟩

end Hub

end Landmarks
