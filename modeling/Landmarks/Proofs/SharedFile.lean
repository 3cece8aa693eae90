import Landmarks.Proofs.HubOperations
import Landmarks.Proofs.SettingsFile

/-!
# Stores on one file

Every save reads the whole file, changes it and writes it back, for any number of stores.

* `HubStep.At` : opening, loading, saving, applying and updating on one path.
* `Hub.saving`, `Hub.lastSaved` : what a step saves, and what each store saved last in a run.
* `Hub.Ready`, `Hub.Kept` : the file can be read and written, and keeps what each store saved last.
* `Hub.Ready.step` : a step leaves it so, the latter if no two stores have the same collection.
* `Hub.stores_apart` : after a run, the file keeps what each store saved last, and loading gives it.
-/

namespace Landmarks

/-- A step of stores on one path that neither has nor calls listeners. The names of their collections read back as
they are. -/
def HubStep.At (path : Path) : HubStep → Prop
  | .openStore p _ collection _ => p = some path ∧ collection.Sound
  | .load _ => True
  | .save _ _ => True
  | .apply _ _ => True
  | .update _ _ => True
  | _ => False

namespace Hub

/-- The number of the store that a step makes save, and the flags it is to save. -/
def saving (h : Hub) : HubStep → Option (Nat × Flags)
  | .save name flags => do
    let n ← Named.find? h.names name
    let st ← h.stores[n]?
    return (n, flags.getD st.flags)
  | .apply name flags => do
    let n ← Named.find? h.names name
    return (n, flags)
  | .update name changes => do
    let n ← Named.find? h.names name
    let st ← h.stores[n]?
    let fit ← (checkChanges changes).toOption
    return (n, st.flags.setAll fit)
  | _ => none

/-- What each store saved last, after a step that makes one of them save. -/
def noteSaved (last : Nat → Option Flags) : Option (Nat × Flags) → Nat → Option Flags
  | none => last
  | some (n, flags) => fun k => if k = n then some flags else last k

/-- What each store saved last in a run; `last` is what it was before. -/
def lastSaved (h : Hub) (last : Nat → Option Flags) : List HubStep → Nat → Option Flags
  | [] => last
  | s :: rest => (h.step s).2.lastSaved (noteSaved last (h.saving s)) rest

/-- The collections of the stores, in the order of their numbers. -/
def collections (h : Hub) : List Str := h.stores.map (·.collection)

/-- The file can be written, and read if there are stores; nobody listens to them. -/
structure Ready (path : Path) (h : Hub) : Prop where
  writable : Store.Writable h.files path
  readable : h.stores ≠ [] → ∃ fields log, Store.payloadAt h.files path = .ok (fields, log)
  plain : ∀ st ∈ h.stores, st.path = some path ∧ st.listeners = []
  sound : ∀ st ∈ h.stores, st.collection.Sound
  numbers : ∀ name n, Named.find? h.names name = some n → n < h.stores.length

/-- The file keeps what each store saved last. -/
def Kept (path : Path) (h : Hub) (last : Nat → Option Flags) : Prop :=
  ∀ n flags, last n = some flags →
    ∃ collection, h.collections[n]? = some collection ∧ Store.Keeps h.files path collection flags

/-- What a step does that makes one store save, or none. -/
structure Moves (path : Path) (h h' : Hub) (saved : Option (Nat × Flags)) : Prop where
  ready : Ready path h'
  grows : h.collections <+: h'.collections
  kept : h.collections.Nodup → ∀ last, Kept path h last → Kept path h' (noteSaved last saved)

variable {path : Path} {h h' : Hub} {n : Nat} {st : Store String}

theorem map_collection_set (hst : h.stores[n]? = some st) (flags : Flags) :
    (h.stores.set n { st with flags }).map (·.collection) = h.collections := by
  obtain ⟨hn, hst⟩ := List.getElem?_eq_some_iff.1 hst
  rw [List.map_set, ← hst]
  have hsame : h.stores[n].collection = (h.stores.map (·.collection)).get ⟨n, by simpa using hn⟩ := by simp
  rw [collections, hsame]
  exact List.set_getElem_self _

namespace Ready

theorem exists_store (hR : Ready path h) {name : String} (hn : Named.find? h.names name = some n) :
    ∃ st, h.stores[n]? = some st :=
  ⟨_, List.getElem?_eq_getElem (hR.numbers name n hn)⟩

/-- What was heard and logged does not matter. -/
theorem moves_of_same (hR : Ready path h) (hfiles : h'.files = h.files) (hstores : h'.stores = h.stores)
    (hnames : h'.names = h.names) : Moves path h h' none where
  ready := {
    writable := hfiles ▸ hR.writable
    readable := by
      rw [hfiles, hstores]
      exact hR.readable
    plain := hstores ▸ hR.plain
    sound := hstores ▸ hR.sound
    numbers := by
      rw [hnames, hstores]
      exact hR.numbers }
  grows := by rw [collections, collections, hstores]
  kept _ last hK := by
    rw [Kept, hfiles, collections, hstores]
    exact hK

/-- The flags in force do not matter. -/
theorem setFlags (hR : Ready path h) (hst : h.stores[n]? = some st) (flags : Flags) :
    Moves path h { h with stores := h.stores.set n { st with flags } } none where
  ready := {
    writable := hR.writable
    readable := fun hne => hR.readable fun hnil => hne (by simp [hnil])
    plain := by
      intro st' hst'
      rcases List.mem_or_eq_of_mem_set hst' with hmem | rfl
      · exact hR.plain st' hmem
      · exact hR.plain st (List.mem_of_getElem? hst)
    sound := by
      intro st' hst'
      rcases List.mem_or_eq_of_mem_set hst' with hmem | rfl
      · exact hR.sound st' hmem
      · exact hR.sound st (List.mem_of_getElem? hst)
    numbers := by
      intro name k hk
      rw [List.length_set]
      exact hR.numbers name k hk }
  grows := (map_collection_set hst flags).symm ▸ List.prefix_rfl
  kept _ last hK := by
    rw [Kept, collections, map_collection_set hst]
    exact hK

end Ready

theorem Moves.trans {h'' : Hub} {saved : Option (Nat × Flags)} (h1 : Moves path h h' none)
    (h2 : Moves path h' h'' saved) (hsame : h'.collections = h.collections) : Moves path h h'' saved where
  ready := h2.ready
  grows := h1.grows.trans h2.grows
  kept hnodup last hK := h2.kept (hsame ▸ hnodup) last (h1.kept hnodup last hK)

namespace Ready

/-! ## Opening and loading -/

theorem openStore (hR : Ready path h) (name : String) {collection : Str} (hsound : collection.Sound) (defaults : Flags) :
    Moves path h (exec (Hub.openStore (some path) name collection defaults) h).2 none := by
  rcases hopen : Store.openAt h.files (some path) collection defaults with e | ⟨st, log⟩
  · rw [exec_openStore_of_error hopen]
    exact hR.moves_of_same rfl rfl rfl
  · obtain ⟨hpayload, hplain⟩ := Store.openAt_eq_ok hopen
    rw [exec_openStore_of_ok hopen]
    have hgrow : (h.stores ++ [st]).map (·.collection) = h.collections ++ [st.collection] := by simp [collections]
    refine ⟨⟨hR.writable, fun _ => hpayload, fun st' hst' => ?_, fun st' hst' => ?_, fun other k hk => ?_⟩, ?_,
      fun _ last hK k flags hk => ?_⟩
    · rcases List.mem_append.1 hst' with hmem | hmem
      · exact hR.plain st' hmem
      · rw [List.mem_singleton.1 hmem]
        exact hplain
    · rcases List.mem_append.1 hst' with hmem | hmem
      · exact hR.sound st' hmem
      · rw [List.mem_singleton.1 hmem, (Store.fields_of_openAt hopen).1]
        exact hsound
    · rw [List.length_append, List.length_singleton]
      by_cases hname : other = name
      · rw [hname, Named.find?_put_self] at hk
        cases hk
        omega
      · rw [Named.find?_put_of_ne _ hname] at hk
        have := hR.numbers other k hk
        omega
    · exact ⟨[st.collection], hgrow.symm⟩
    · obtain ⟨c, hc, hkeeps⟩ := hK k flags hk
      refine ⟨c, ?_, hkeeps⟩
      rw [collections, hgrow]
      exact List.getElem?_append_left (List.getElem?_eq_some_iff.1 hc).1 ▸ hc

theorem load (hR : Ready path h) (n : Nat) : Moves path h (exec (Hub.load n) h).2 none := by
  cases hst : h.stores[n]? with
  | none =>
    rw [Hub.load, exec_bind_of_error (exec_store_of_none hst)]
    exact hR.moves_of_same rfl rfl rfl
  | some st =>
    rcases hload : st.load h.files with e | ⟨flags, log⟩
    · rw [exec_load_of_error hst hload]
      exact hR.moves_of_same rfl rfl rfl
    · rw [exec_load_of_ok hst hload]
      have hset := hR.setFlags hst flags
      exact hset.trans (hset.ready.moves_of_same rfl rfl rfl) (map_collection_set hst flags)

/-! ## Saving -/

/-- A save changes the file for one collection only. -/
theorem save (hR : Ready path h) (hst : h.stores[n]? = some st) (flags : Option Flags) :
    ∃ h', exec (Hub.save n flags) h = (.ok (), h') ∧
      h'.stores = h.stores.set n { st with flags := flags.getD st.flags } ∧
      Moves path h h' (some (n, flags.getD st.flags)) := by
  have hmem := List.mem_of_getElem? hst
  obtain ⟨old, log, hold⟩ := hR.readable (List.ne_nil_of_mem hmem)
  obtain ⟨files, hwrite, hwritable, hkept⟩ := Store.write_saved hold hR.writable st.collection (flags.getD st.flags)
  obtain ⟨hkeeps, hothers⟩ := hkept (hR.sound st hmem)
  have hpersist : Store.persist h.files { st with flags := flags.getD st.flags } = .ok ((.ok (), files), log) := by
    rw [Store.persist_of_payloadAt (hR.plain st hmem).1 hold, hwrite]
  refine ⟨_, exec_save hst hpersist, rfl, ?_⟩
  have hcollections := map_collection_set hst (flags.getD st.flags)
  have hown : h.collections[n]? = some st.collection := by
    rw [collections, List.getElem?_map, hst]
    rfl
  obtain ⟨hready, hgrows, -⟩ := hR.setFlags hst (flags.getD st.flags)
  refine ⟨⟨hwritable, fun _ => ?_, hready.plain, hready.sound, hready.numbers⟩, hgrows, fun hnodup last hK k kept hk => ?_⟩
  · obtain ⟨fields, -, -, hpayload, -⟩ := hkeeps.payloadAt_eq
    exact ⟨fields, [], hpayload⟩
  · rw [collections, hcollections]
    by_cases hkn : k = n
    · subst hkn
      simp only [noteSaved, if_true] at hk
      cases hk
      exact ⟨st.collection, hown, hkeeps⟩
    · simp only [noteSaved, if_neg hkn] at hk
      obtain ⟨c, hc, hkept⟩ := hK k kept hk
      refine ⟨c, hc, hothers c kept (fun heq => hkn ?_) hkept⟩
      obtain ⟨hk', hck⟩ := List.getElem?_eq_some_iff.1 hc
      obtain ⟨hn', hcn⟩ := List.getElem?_eq_some_iff.1 hown
      exact (List.Nodup.getElem_inj_iff hnodup).1 (hck.trans (heq.trans hcn.symm))

/-- Nobody is told of what is applied. -/
theorem apply (hR : Ready path h) (hst : h.stores[n]? = some st) (flags : Flags) :
    ∃ h', exec (Hub.apply n flags) h = (.ok (), h') ∧ Moves path h h' (some (n, flags)) := by
  obtain ⟨h', hsave, hstores, hmoves⟩ := hR.save hst (some flags)
  have hst' : h'.stores[n]? = some { st with flags } := by
    rw [hstores]
    exact List.getElem?_set_self (List.getElem?_eq_some_iff.1 hst).1
  have hlisteners : st.listeners = [] := (hR.plain st (List.mem_of_getElem? hst)).2
  refine ⟨h', ?_, hmoves⟩
  rw [Hub.apply, applyWith, exec_bind_of_ok hsave, notifyWith, exec_bind_of_ok (exec_store_of_some hst')]
  simp only [hlisteners]
  rfl

theorem update (hR : Ready path h) (hst : h.stores[n]? = some st) {changes : List (String × Json)}
    {fit : List (Flag × Bool)} (hfit : checkChanges changes = .ok fit) :
    ∃ h', exec (Hub.update n changes) h = (.ok (st.flags.setAll fit), h') ∧
      Moves path h h' (some (n, st.flags.setAll fit)) := by
  obtain ⟨h', happly, hmoves⟩ := hR.apply hst (st.flags.setAll fit)
  refine ⟨h', ?_, hmoves⟩
  rw [exec_update_of_ok hst hfit]
  exact exec_bind_of_ok happly

/-! ## Steps and runs -/

/-- An operation on the store of a name moves the hub as it does for every store; if the name denotes
none, nothing happens. -/
theorem named (hR : Ready path h) {name : String} {f : Nat → Op (Option Flags)}
    {saved : Nat → Option (Nat × Flags)}
    (hf : ∀ n st, h.stores[n]? = some st → Moves path h (exec (f n) h).2 (saved n)) :
    Moves path h (exec (number name >>= f) h).2 (Named.find? h.names name >>= saved) := by
  cases hn : Named.find? h.names name with
  | none =>
    rw [exec_bind_of_error (exec_number_of_none hn)]
    exact hR.moves_of_same rfl rfl rfl
  | some n =>
    obtain ⟨st, hst⟩ := hR.exists_store hn
    rw [exec_bind_of_ok (exec_number_of_some hn)]
    exact hf n st hst

theorem perform (hR : Ready path h) {s : HubStep} (hs : s.At path) :
    Moves path h (exec (Hub.perform s) h).2 (h.saving s) := by
  cases s with
  | openStore p name collection defaults =>
    obtain ⟨rfl, hsound⟩ : p = some path ∧ collection.Sound := hs
    rw [Hub.perform, exec_bind_pure_state]
    exact hR.openStore name hsound defaults
  | load name =>
    have hnothing : h.saving (.load name) = Named.find? h.names name >>= fun _ => none := by
      simp [saving]
    rw [hnothing]
    refine hR.named fun n st hst => ?_
    rw [exec_bind_pure_state]
    exact hR.load n
  | save name flags =>
    refine hR.named fun n st hst => ?_
    obtain ⟨h', hsave, -, hmoves⟩ := hR.save hst flags
    rw [exec_bind_pure_state, hsave]
    simpa [hst] using hmoves
  | apply name flags =>
    refine hR.named fun n st hst => ?_
    obtain ⟨h', happly, hmoves⟩ := hR.apply hst flags
    rw [exec_bind_pure_state, happly]
    exact hmoves
  | update name changes =>
    refine hR.named fun n st hst => ?_
    rw [exec_bind_pure_state]
    cases hfit : checkChanges changes with
    | error e =>
      rw [exec_update_of_error hfit]
      simpa [hst, Except.toOption] using hR.moves_of_same rfl rfl rfl
    | ok fit =>
      obtain ⟨h', hupdate, hmoves⟩ := hR.update hst hfit
      rw [hupdate]
      simpa [hst, Except.toOption] using hmoves
  | subscribe name listener token action => exact absurd hs id
  | unsubscribe token => exact absurd hs id
  | notify name => exact absurd hs id

theorem step (hR : Ready path h) {s : HubStep} (hs : s.At path) : Moves path h (h.step s).2 (h.saving s) := by
  have hclear : Moves path h { h with events := [], log := [] } none := hR.moves_of_same rfl rfl rfl
  exact hclear.trans (hclear.ready.perform hs) rfl

theorem grows_run {steps : List HubStep} (hR : Ready path h) (hsteps : ∀ s ∈ steps, s.At path) :
    h.collections <+: (h.run steps).collections := by
  induction steps generalizing h with
  | nil => exact List.prefix_rfl
  | cons s rest ih =>
    have hmoves := hR.step (hsteps s List.mem_cons_self)
    exact hmoves.grows.trans (ih hmoves.ready fun t ht => hsteps t (List.mem_cons_of_mem s ht))

/-- What the file keeps along a run, if no two of the stores at its end have the same collection. -/
theorem kept_run {steps : List HubStep} (hR : Ready path h) (hsteps : ∀ s ∈ steps, s.At path)
    (hnodup : (h.run steps).collections.Nodup) {last : Nat → Option Flags} (hK : Kept path h last) :
    Ready path (h.run steps) ∧ Kept path (h.run steps) (h.lastSaved last steps) := by
  induction steps generalizing h last with
  | nil => exact ⟨hR, hK⟩
  | cons s rest ih =>
    have hgrows := hR.grows_run hsteps
    have hmoves := hR.step (hsteps s List.mem_cons_self)
    exact ih hmoves.ready (fun t ht => hsteps t (List.mem_cons_of_mem s ht)) hnodup
      (hmoves.kept (hnodup.sublist hgrows.sublist) last hK)

end Ready

/-- Stores on one file do not disturb each other: after a run from any content of a file that can be
written, the file keeps just what each store saved last, and loading or opening again gives it. -/
theorem stores_apart {files : Files} (hwritable : Store.Writable files path) {steps : List HubStep}
    (hsteps : ∀ s ∈ steps, s.At path) (hnodup : (({ files } : Hub).run steps).collections.Nodup) {flags : Flags}
    (hlast : ({ files } : Hub).lastSaved (fun _ => none) steps n = some flags) :
    ∃ st, (({ files } : Hub).run steps).stores[n]? = some st ∧
      Store.Keeps (({ files } : Hub).run steps).files path st.collection flags ∧
      (exec (load n) (({ files } : Hub).run steps)).1 = .ok flags ∧
      ∀ defaults, Store.openAt (({ files } : Hub).run steps).files (some path) st.collection defaults =
        .ok (({ path := some path, collection := st.collection, defaults, flags } : Store String), []) := by
  have hstart : Ready path { files } :=
    ⟨hwritable, fun hne => absurd rfl hne, fun st hst => (by cases hst), fun st hst => (by cases hst),
      fun name k hk => (by cases hk)⟩
  have hnothing : Kept path { files } (fun _ => none) := fun k kept hk => by cases hk
  obtain ⟨hR, hK⟩ := hstart.kept_run hsteps hnodup hnothing
  obtain ⟨collection, hcollection, hkeeps⟩ := hK n flags hlast
  rw [collections, List.getElem?_map, Option.map_eq_some_iff] at hcollection
  obtain ⟨st, hst, rfl⟩ := hcollection
  have hload := Store.load_of_keeps (hR.plain st (List.mem_of_getElem? hst)).1 hkeeps
  refine ⟨st, hst, hkeeps, ?_, Store.openAt_of_keeps hkeeps⟩
  rw [exec_load_of_ok hst hload]

/-- A file of another version, whose content counts for nothing. -/
def oldFile : Files :=
  ⟨.directory [("s.json", .file (Utf8.encode "\x7b\"version\": 2\x7d".toList))], ⟨"/", []⟩⟩

/-- Two stores that save in turn. -/
def inTurn : List HubStep :=
  [.openStore (some ⟨"/", ["s.json"]⟩) "main" "a" {}, .openStore (some ⟨"/", ["s.json"]⟩) "other" "b" {},
   .update "main" [("show_classes", .bool false)], .apply "other" { headers := false }]

/-- The first store finds its flags, though the other one saved after it. -/
theorem stores_apart_in_turn :
    Store.Writable oldFile ⟨"/", ["s.json"]⟩ ∧ (∀ s ∈ inTurn, s.At ⟨"/", ["s.json"]⟩) ∧
      (({ files := oldFile } : Hub).run inTurn).collections = ["a", "b"] ∧
      (exec (load 0) (({ files := oldFile } : Hub).run inTurn)).1 = .ok { classes := false } := by
  have hwritable : Store.Writable oldFile ⟨"/", ["s.json"]⟩ := by
    unfold Store.Writable
    decide +kernel
  have hsteps : ∀ s ∈ inTurn, s.At ⟨"/", ["s.json"]⟩ := by
    simp [inTurn, HubStep.At]
  have hcollections : (({ files := oldFile } : Hub).run inTurn).collections = ["a", "b"] := by decide +kernel
  have hlast : ({ files := oldFile } : Hub).lastSaved (fun _ => none) inTurn 0 = some { classes := false } := by
    decide +kernel
  obtain ⟨st, -, -, hload, -⟩ := stores_apart hwritable hsteps (by rw [hcollections]; decide) hlast
  exact ⟨hwritable, hsteps, hcollections, hload⟩

end Hub

end Landmarks
