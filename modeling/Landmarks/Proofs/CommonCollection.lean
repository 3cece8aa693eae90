import Landmarks.Proofs.Changes
import Landmarks.Proofs.SharedFile

/-!
# Stores of one collection

A store changes its own copy of the flags and writes all of them. What other stores of the same collection
wrote since it read the file is not in its copy.

* `View` : flags as they were in force at first, with the changes made since.
* `Ledger` : the view of each store of a run, and that of the file. A store takes over the view of the file
  when it is opened or loads, and the file takes over the view of a store that updates.
* `Ledger.current` : the stores that know what the file holds; `Ledger.UpToDate` : only such stores update.
* `Ledger.Tracks` : the flags of each store and those in the file are those of its view; every step keeps it so.
* `Hub.last_known_update` : what the file holds after every run.
-/

namespace Landmarks

/-- A step of stores on one path and of one collection with a sound name: opening, loading, and updating by fit
changes. -/
def HubStep.Shares (path : Path) (collection : Str) : HubStep → Prop
  | .openStore p _ c _ => p = some path ∧ c = collection ∧ c.Sound
  | .load _ => True
  | .update _ changes => ∀ c ∈ changes, Fit c
  | _ => False

theorem HubStep.Shares.at {path : Path} {collection : Str} {s : HubStep} (hs : s.Shares path collection) :
    s.At path := by
  cases s with
  | openStore p name c defaults => exact ⟨hs.1, hs.2.2⟩
  | load name => trivial
  | update name changes => trivial
  | _ => exact absurd hs id

/-- Where flags come from: those in force at first, and the changes made to them since, in order. -/
structure View where
  base : Flags
  changes : List (Flag × Bool) := []

/-- The flags of a view. -/
def View.flags (v : View) : Flags := v.base.setAll v.changes

/-- A view with more changes. -/
def View.then (v : View) (more : List (Flag × Bool)) : View := { v with changes := v.changes ++ more }

theorem View.flags_then (v : View) (more : List (Flag × Bool)) : (v.then more).flags = v.flags.setAll more :=
  List.foldl_append

/-- What the stores of a run know: the view of each, that of the file once a store has updated, the stores
that know what the file holds, and all changes of the run in order. -/
structure Ledger where
  views : List View := []
  file : Option View := none
  current : List Nat := []
  all : List (Flag × Bool) := []

namespace Ledger

/-- A store is opened with some flags. It goes by what the file holds, or by these flags. -/
def opens (l : Ledger) (flags : Flags) : Ledger :=
  { l with views := l.views ++ [l.file.getD { base := flags }], current := l.views.length :: l.current }

/-- A store loads what the file holds. -/
def loads (l : Ledger) (n : Nat) : Ledger :=
  { l with views := l.views.modify n l.file.getD, current := n :: l.current }

/-- A store adds changes to its view and writes it. Only this store knows then what the file holds. -/
def updates (l : Ledger) (n : Nat) (v : View) (fit : List (Flag × Bool)) : Ledger :=
  { views := l.views.set n (v.then fit), file := some (v.then fit), current := [n], all := l.all ++ fit }

/-- What a step does to what is known. -/
def step (l : Ledger) (h : Hub) : HubStep → Ledger
  | .openStore path _ collection defaults =>
    match Store.openAt (ι := String) h.files path collection defaults with
    | .ok (st, _) => l.opens st.flags
    | .error _ => l
  | .load name =>
    match Named.find? h.names name with
    | some n => l.loads n
    | none => l
  | .update name changes =>
    match Named.find? h.names name with
    | some n =>
      match l.views[n]?, checkChanges changes with
      | some v, .ok fit => l.updates n v fit
      | _, _ => l
    | none => l
  | _ => l

/-- What is known after some steps. -/
def run (l : Ledger) (h : Hub) : List HubStep → Ledger
  | [] => l
  | s :: rest => (l.step h s).run (h.step s).2 rest

/-- A step that updates no store, or one that knows what the file holds. -/
def Informed (l : Ledger) (h : Hub) : HubStep → Prop
  | .update name _ => ∀ n ∈ Named.find? h.names name, n ∈ l.current
  | _ => True

/-- Only stores update that know what the file holds. -/
def UpToDate (l : Ledger) (h : Hub) : List HubStep → Prop
  | [] => True
  | s :: rest => l.Informed h s ∧ (l.step h s).UpToDate (h.step s).2 rest

instance (l : Ledger) (h : Hub) : DecidablePred (l.Informed h)
  | .update name _ => inferInstanceAs (Decidable (∀ n ∈ Named.find? h.names name, n ∈ l.current))
  | .openStore .. | .load _ | .save .. | .apply .. | .subscribe .. | .unsubscribe _ | .notify _ =>
    inferInstanceAs (Decidable True)

instance decidableUpToDate (l : Ledger) (h : Hub) : DecidablePred (l.UpToDate h)
  | [] => inferInstanceAs (Decidable True)
  | s :: rest => @instDecidableAnd _ _ _ (decidableUpToDate (l.step h s) (h.step s).2 rest)

theorem run_append (l : Ledger) (h : Hub) (before after : List HubStep) :
    l.run h (before ++ after) = (l.run h before).run (h.run before) after := by
  induction before generalizing l h with
  | nil => rfl
  | cons s rest ih => exact ih _ _

theorem upToDate_append {l : Ledger} {h : Hub} {before after : List HubStep} :
    l.UpToDate h (before ++ after) ↔ l.UpToDate h before ∧ (l.run h before).UpToDate (h.run before) after := by
  induction before generalizing l h with
  | nil => exact (iff_of_eq (true_and _)).symm
  | cons s rest ih => exact (and_congr_right fun _ => ih).trans and_assoc.symm

variable {path : Path} {collection : Str} {files : Files} {l : Ledger} {h : Hub} {n : Nat}

/-- A view that starts from what the file held at first over the defaults of one of the stores, and has no
changes but those of the run. -/
structure Founded (path : Path) (collection : Str) (files : Files) (l : Ledger) (h : Hub) (v : View) : Prop where
  base : ∃ st ∈ h.stores, ∀ f, v.base.get f = (Store.storedFlag? files path collection f).getD (st.defaults.get f)
  changes : v.changes.Sublist l.all

/-- The flags of the stores and of the file are those of their views. Before the first update the file is as
it was, and what the stores would load is what they have. -/
structure Tracks (path : Path) (collection : Str) (files : Files) (l : Ledger) (h : Hub) : Prop where
  ready : Hub.Ready path h
  same : ∀ st ∈ h.stores, st.collection = collection
  length : l.views.length = h.stores.length
  flags : ∀ (n : Nat) (st : Store String) (v : View), h.stores[n]? = some st → l.views[n]? = some v → st.flags = v.flags
  kept : ∀ v, l.file = some v → Store.Keeps h.files path collection v.flags
  untouched : l.file = none → l.all = [] ∧ h.files = files ∧
    ∀ st ∈ h.stores, ∃ log, st.load files = .ok (st.flags, log)
  founded : ∀ v, v ∈ l.views ∨ l.file = some v → Founded path collection files l h v
  current : ∀ m ∈ l.current, l.file = none ∨ l.views[m]? = l.file

/-- A view stays founded while stores are added and changes made. -/
theorem Founded.mono {l' : Ledger} {h' : Hub} {v : View} (hv : Founded path collection files l h v)
    (hstores : ∀ st ∈ h.stores, ∃ st' ∈ h'.stores, st'.defaults = st.defaults) (hall : l.all <+: l'.all) :
    Founded path collection files l' h' v := by
  obtain ⟨⟨st, hst, hbase⟩, hchanges⟩ := hv
  obtain ⟨st', hst', hdefaults⟩ := hstores st hst
  exact ⟨⟨st', hst', hdefaults ▸ hbase⟩, hchanges.trans hall.sublist⟩

theorem exists_defaults_set {st : Store String} (hst : h.stores[n]? = some st) (flags : Flags) :
    ∀ other ∈ h.stores, ∃ st' ∈ h.stores.set n { st with flags }, st'.defaults = other.defaults := by
  intro other hother
  obtain ⟨m, hm⟩ := List.mem_iff_getElem?.1 hother
  by_cases hmn : n = m
  · subst hmn
    obtain rfl : st = other := Option.some.inj (hst.symm.trans hm)
    exact ⟨_, List.mem_of_getElem? (List.getElem?_set_self (List.getElem?_eq_some_iff.1 hst).1), rfl⟩
  · exact ⟨other, List.mem_of_getElem? ((List.getElem?_set_ne hmn).trans hm), rfl⟩

namespace Tracks

variable {h' : Hub} {st : Store String}

theorem opens (ht : l.Tracks path collection files h) {defaults : Flags} {log : List Record}
    (hopen : Store.openAt h.files (some path) collection defaults = .ok (st, log)) (hready : Hub.Ready path h')
    (hstores : h'.stores = h.stores ++ [st]) (hfiles : h'.files = h.files) :
    (l.opens st.flags).Tracks path collection files h' := by
  obtain ⟨hcollection, hdefaults⟩ := Store.fields_of_openAt hopen
  have hstays : ∀ other ∈ h.stores, ∃ st' ∈ h'.stores, st'.defaults = other.defaults := fun other hother =>
    ⟨other, hstores ▸ List.mem_append_left _ hother, rfl⟩
  -- What the file holds is what was loaded.
  have hview : st.flags = (l.file.getD { base := st.flags }).flags := by
    cases hfile : l.file with
    | none => rfl
    | some v =>
      rw [Store.openAt_of_keeps (ht.kept v hfile)] at hopen
      cases hopen
      rfl
  constructor
  case ready => exact hready
  case same =>
    intro other hother
    rw [hstores] at hother
    rcases List.mem_append.1 hother with hother | hother
    · exact ht.same other hother
    · rw [List.mem_singleton.1 hother]
      exact hcollection
  case length =>
    rw [hstores, Ledger.opens, List.length_append, List.length_append, ht.length]
    rfl
  case flags =>
    intro m other v hm hv
    rw [hstores] at hm
    by_cases hlt : m < h.stores.length
    · rw [List.getElem?_append_left hlt] at hm
      rw [Ledger.opens, List.getElem?_append_left (ht.length ▸ hlt)] at hv
      exact ht.flags m other v hm hv
    · obtain ⟨hm', -⟩ := List.getElem?_eq_some_iff.1 hm
      obtain rfl : m = h.stores.length := by
        rw [List.length_append, List.length_singleton] at hm'
        omega
      rw [List.getElem?_concat_length] at hm
      rw [Ledger.opens, ← ht.length, List.getElem?_concat_length] at hv
      cases hm
      cases hv
      exact hview
  case kept =>
    intro v hv
    rw [hfiles]
    exact ht.kept v hv
  case untouched =>
    intro hnone
    obtain ⟨hall, hsame, hload⟩ := ht.untouched hnone
    refine ⟨hall, hfiles.trans hsame, fun other hother => ?_⟩
    rw [hstores] at hother
    rcases List.mem_append.1 hother with hother | hother
    · exact hload other hother
    · rw [List.mem_singleton.1 hother, ← hsame]
      exact ⟨log, Store.load_of_openAt hopen hopen⟩
  case founded =>
    intro v hv
    have hold : v ∈ l.views ∨ l.file = some v → Founded path collection files (l.opens st.flags) h' v := fun hv =>
      (ht.founded v hv).mono hstays List.prefix_rfl
    rcases hv with hv | hv
    · rcases List.mem_append.1 hv with hv | hv
      · exact hold (.inl hv)
      · rw [List.mem_singleton.1 hv]
        cases hfile : l.file with
        | some w => exact (ht.founded w (.inr hfile)).mono hstays List.prefix_rfl
        | none =>
          refine ⟨⟨st, hstores ▸ List.mem_append_right _ (List.mem_singleton.2 rfl), fun f => ?_⟩, List.nil_sublist _⟩
          rw [hdefaults, ← (ht.untouched hfile).2.1]
          exact Store.get_openAt hopen f
    · exact hold (.inr hv)
  case current =>
    intro m hm
    rcases Option.eq_none_or_eq_some l.file with hfile | ⟨w, hfile⟩
    · exact .inl hfile
    · refine .inr ?_
      rcases List.mem_cons.1 hm with rfl | hm
      · change (l.views ++ [l.file.getD { base := st.flags }])[l.views.length]? = l.file
        rw [List.getElem?_concat_length, hfile]
        rfl
      · have hcurrent := (ht.current m hm).resolve_left (by rw [hfile]; exact Option.some_ne_none w)
        have hlt := (List.getElem?_eq_some_iff.1 (hcurrent.trans hfile)).1
        exact (List.getElem?_append_left hlt).trans hcurrent

theorem loads (ht : l.Tracks path collection files h) (hst : h.stores[n]? = some st) {flags : Flags} {log : List Record}
    (hload : st.load h.files = .ok (flags, log)) (hready : Hub.Ready path h')
    (hstores : h'.stores = h.stores.set n { st with flags }) (hfiles : h'.files = h.files) :
    (l.loads n).Tracks path collection files h' := by
  have hmem := List.mem_of_getElem? hst
  have hn := (List.getElem?_eq_some_iff.1 hst).1
  -- Before the first update nothing new is loaded.
  have hflags : ∀ v, l.views[n]? = some v → flags = (l.file.getD v).flags := by
    intro v hv
    cases hfile : l.file with
    | some w =>
      rw [Store.load_of_keeps (ht.ready.plain st hmem).1 (ht.same st hmem ▸ ht.kept w hfile)] at hload
      cases hload
      rfl
    | none =>
      obtain ⟨-, hsame, hagain⟩ := ht.untouched hfile
      obtain ⟨log', hload'⟩ := hagain st hmem
      rw [hsame, hload'] at hload
      cases hload
      exact ht.flags n st v hst hv
  have hviews : ∀ m, (l.loads n).views[m]? = if n = m then l.views[m]?.map l.file.getD else l.views[m]? := by
    intro m
    rw [Ledger.loads, List.getElem?_modify]
    split <;> cases l.views[m]? <;> rfl
  constructor
  case ready => exact hready
  case same =>
    intro other hother
    rw [hstores] at hother
    rcases List.mem_or_eq_of_mem_set hother with hother | rfl
    · exact ht.same other hother
    · exact ht.same st hmem
  case length =>
    rw [hstores, Ledger.loads, List.length_modify, List.length_set, ht.length]
  case flags =>
    intro m other v hm hv
    rw [Hub.stores_of_set hst _ hstores] at hm
    rw [hviews] at hv
    by_cases hmn : m = n
    · subst hmn
      rw [if_pos rfl] at hm hv
      obtain ⟨w, hw, rfl⟩ := Option.map_eq_some_iff.1 hv
      cases hm
      exact hflags w hw
    · rw [if_neg hmn] at hm
      rw [if_neg (Ne.symm hmn)] at hv
      exact ht.flags m other v hm hv
  case kept =>
    intro v hv
    rw [hfiles]
    exact ht.kept v hv
  case untouched =>
    intro hnone
    obtain ⟨hall, hsame, hagain⟩ := ht.untouched hnone
    refine ⟨hall, hfiles.trans hsame, fun other hother => ?_⟩
    rw [hstores] at hother
    rcases List.mem_or_eq_of_mem_set hother with hother | rfl
    · exact hagain other hother
    · rw [← hsame]
      exact ⟨log, hload⟩
  case founded =>
    intro v hv
    have hold : ∀ w, w ∈ l.views ∨ l.file = some w → Founded path collection files (l.loads n) h' w := fun w hw =>
      (ht.founded w hw).mono (hstores ▸ exists_defaults_set hst flags) List.prefix_rfl
    rcases hv with hv | hv
    · obtain ⟨m, hm⟩ := List.mem_iff_getElem?.1 hv
      rw [hviews] at hm
      split_ifs at hm with hmn
      · obtain ⟨w, hw, rfl⟩ := Option.map_eq_some_iff.1 hm
        cases hfile : l.file with
        | none => exact hold w (.inl (List.mem_of_getElem? hw))
        | some u => exact hold u (.inr hfile)
      · exact hold v (.inl (List.mem_of_getElem? hm))
    · exact hold v (.inr hv)
  case current =>
    intro m hm
    rcases Option.eq_none_or_eq_some l.file with hfile | ⟨w, hfile⟩
    · exact .inl hfile
    · refine .inr ?_
      rw [hviews]
      obtain ⟨v, hv⟩ : ∃ v, l.views[n]? = some v := ⟨_, List.getElem?_eq_getElem (ht.length ▸ hn)⟩
      split_ifs with hmn
      · subst hmn
        rw [hv, Ledger.loads, hfile]
        rfl
      · rcases List.mem_cons.1 hm with rfl | hm
        · exact absurd rfl hmn
        · exact (ht.current m hm).resolve_left (by rw [hfile]; exact Option.some_ne_none w)

theorem updates (ht : l.Tracks path collection files h) (hst : h.stores[n]? = some st) {v : View}
    (hv : l.views[n]? = some v) {fit : List (Flag × Bool)} (hready : Hub.Ready path h')
    (hstores : h'.stores = h.stores.set n { st with flags := st.flags.setAll fit })
    (hkeeps : Store.Keeps h'.files path collection (st.flags.setAll fit)) :
    (l.updates n v fit).Tracks path collection files h' := by
  have hflags : st.flags.setAll fit = (v.then fit).flags := by rw [View.flags_then, ht.flags n st v hst hv]
  have hgrows : l.all <+: (l.updates n v fit).all := List.prefix_append _ _
  have hold : ∀ w, w ∈ l.views → Founded path collection files (l.updates n v fit) h' w := fun w hw =>
    (ht.founded w (.inl hw)).mono (hstores ▸ exists_defaults_set hst _) hgrows
  have hnew : Founded path collection files (l.updates n v fit) h' (v.then fit) := by
    obtain ⟨hbase, -⟩ := hold v (List.mem_of_getElem? hv)
    exact ⟨hbase, (ht.founded v (.inl (List.mem_of_getElem? hv))).changes.append (List.Sublist.refl fit)⟩
  constructor
  case ready => exact hready
  case same =>
    intro other hother
    rw [hstores] at hother
    rcases List.mem_or_eq_of_mem_set hother with hother | rfl
    · exact ht.same other hother
    · exact ht.same st (List.mem_of_getElem? hst)
  case length =>
    rw [hstores, Ledger.updates, List.length_set, List.length_set, ht.length]
  case flags =>
    intro m other w hm hw
    rw [Hub.stores_of_set hst _ hstores] at hm
    by_cases hmn : m = n
    · subst hmn
      rw [Ledger.updates, List.getElem?_set_self (List.getElem?_eq_some_iff.1 hv).1] at hw
      rw [if_pos rfl] at hm
      cases hm
      cases hw
      exact hflags
    · rw [if_neg hmn] at hm
      rw [Ledger.updates, List.getElem?_set_ne (Ne.symm hmn)] at hw
      exact ht.flags m other w hm hw
  case kept =>
    intro w hw
    cases hw
    rw [← hflags]
    exact hkeeps
  case untouched =>
    intro hnone
    cases hnone
  case founded =>
    intro w hw
    rcases hw with hw | hw
    · rcases List.mem_or_eq_of_mem_set hw with hw | rfl
      · exact hold w hw
      · exact hnew
    · cases hw
      exact hnew
  case current =>
    intro m hm
    rw [List.mem_singleton.1 hm]
    exact .inr (List.getElem?_set_self (List.getElem?_eq_some_iff.1 hv).1)

theorem of_same (ht : l.Tracks path collection files h) (hready : Hub.Ready path h') (hstores : h'.stores = h.stores)
    (hfiles : h'.files = h.files) : l.Tracks path collection files h' where
  ready := hready
  same := hstores ▸ ht.same
  length := hstores ▸ ht.length
  flags := hstores ▸ ht.flags
  kept := hfiles ▸ ht.kept
  untouched := by
    rw [hstores, hfiles]
    exact ht.untouched
  founded v hv := (ht.founded v hv).mono (fun st hst => ⟨st, hstores ▸ hst, rfl⟩) List.prefix_rfl
  current := ht.current

theorem legible (ht : l.Tracks path collection files h) (hst : st ∈ h.stores) : Store.Legible h.files path := by
  obtain ⟨fields, log, hpayload⟩ := ht.ready.readable (List.ne_nil_of_mem hst)
  exact Store.exists_payloadAt_iff.1 ⟨_, hpayload⟩

theorem perform (ht : l.Tracks path collection files h) {s : HubStep} (hs : s.Shares path collection) :
    (l.step h s).Tracks path collection files (exec (Hub.perform s) h).2 := by
  have hready : Hub.Ready path (exec (Hub.perform s) h).2 := (ht.ready.perform hs.at).ready
  cases s with
  | openStore p name c defaults =>
    obtain ⟨rfl, rfl, -⟩ := hs
    rw [Hub.perform, exec_bind_pure_state] at hready ⊢
    rw [Ledger.step]
    cases hopen : Store.openAt h.files (some path) c defaults with
    | error e =>
      rw [Hub.exec_openStore_of_error hopen] at hready ⊢
      exact ht.of_same hready rfl rfl
    | ok found =>
      rw [Hub.exec_openStore_of_ok hopen] at hready ⊢
      exact ht.opens hopen hready rfl rfl
  | load name =>
    rw [Hub.perform] at hready ⊢
    rw [Ledger.step]
    cases hn : Named.find? h.names name with
    | none =>
      rw [exec_bind_of_error (Hub.exec_number_of_none hn)] at hready ⊢
      exact ht.of_same hready rfl rfl
    | some n =>
      obtain ⟨st, hst⟩ := ht.ready.exists_store hn
      have hmem := List.mem_of_getElem? hst
      obtain ⟨⟨flags, log⟩, hload⟩ := Store.exists_load_iff.2 fun p hp =>
        Option.some.inj ((ht.ready.plain st hmem).1.symm.trans hp) ▸ ht.legible hmem
      rw [exec_bind_of_ok (Hub.exec_number_of_some hn), exec_bind_pure_state, Hub.exec_load_of_ok hst hload] at hready ⊢
      exact ht.loads hst hload hready rfl rfl
  | update name changes =>
    rw [Hub.perform] at hready ⊢
    rw [Ledger.step]
    cases hn : Named.find? h.names name with
    | none =>
      rw [exec_bind_of_error (Hub.exec_number_of_none hn)] at hready ⊢
      exact ht.of_same hready rfl rfl
    | some n =>
      obtain ⟨st, hst⟩ := ht.ready.exists_store hn
      have hmem := List.mem_of_getElem? hst
      obtain ⟨v, hv⟩ : ∃ v, l.views[n]? = some v :=
        ⟨_, List.getElem?_eq_getElem (ht.length ▸ (List.getElem?_eq_some_iff.1 hst).1)⟩
      obtain ⟨fit, hfit, -⟩ := exists_checkChanges_of_fit hs
      obtain ⟨written, hupdate, hstores, hkeeps⟩ := Hub.exec_update_unheard hst hfit
        (ht.ready.plain st hmem).1 (ht.ready.plain st hmem).2 ht.ready.writable (ht.legible hmem)
        (ht.ready.sound st hmem)
      rw [exec_bind_of_ok (Hub.exec_number_of_some hn), exec_bind_pure_state, hupdate] at hready ⊢
      dsimp only
      rw [hv, hfit]
      exact ht.updates hst hv hready hstores (ht.same st hmem ▸ hkeeps)
  | _ => exact absurd hs id

theorem step (ht : l.Tracks path collection files h) {s : HubStep} (hs : s.Shares path collection) :
    (l.step h s).Tracks path collection files (h.step s).2 := by
  have hclear : Hub.Moves path h { h with events := [], log := [] } none := ht.ready.moves_of_same rfl rfl rfl
  exact (ht.of_same hclear.ready rfl rfl).perform hs

theorem run (ht : l.Tracks path collection files h) {steps : List HubStep} (hsteps : ∀ s ∈ steps, s.Shares path collection) :
    (l.run h steps).Tracks path collection files (h.run steps) := by
  induction steps generalizing l h with
  | nil => exact ht
  | cons s rest ih =>
    exact ih (ht.step (hsteps s List.mem_cons_self)) fun t hmem => hsteps t (List.mem_cons_of_mem s hmem)

/-! ## Stores that know what the file holds -/

/-- If a store that knows what the file holds updates, the file goes by all changes. -/
theorem whole_step (ht : l.Tracks path collection files h) (hwhole : ∀ v, l.file = some v → v.changes = l.all)
    {s : HubStep} (hs : s.Shares path collection) (hinformed : l.Informed h s) :
    ∀ v, (l.step h s).file = some v → v.changes = (l.step h s).all := by
  cases s with
  | openStore p name c defaults =>
    rw [Ledger.step]
    split <;> exact hwhole
  | load name =>
    rw [Ledger.step]
    split <;> exact hwhole
  | update name changes =>
    rw [Ledger.step]
    cases hn : Named.find? h.names name with
    | none => exact hwhole
    | some n =>
      dsimp only
      split
      · rename_i v fit hv hfit
        rintro _ ⟨⟩
        change v.changes ++ fit = l.all ++ fit
        rcases ht.current n (hinformed n hn) with hfile | hfile
        · have hnothing := (ht.untouched hfile).1
          have hchanges := (ht.founded v (.inl (List.mem_of_getElem? hv))).changes
          rw [hnothing] at hchanges ⊢
          rw [List.sublist_nil.1 hchanges]
        · rw [hwhole v (hfile.symm.trans hv)]
      · exact hwhole
  | _ => exact absurd hs id

theorem whole_run (ht : l.Tracks path collection files h) (hwhole : ∀ v, l.file = some v → v.changes = l.all)
    {steps : List HubStep} (hsteps : ∀ s ∈ steps, s.Shares path collection) (hcurrent : l.UpToDate h steps) :
    ∀ v, (l.run h steps).file = some v → v.changes = (l.run h steps).all := by
  induction steps generalizing l h with
  | nil => exact hwhole
  | cons s rest ih =>
    have hs := hsteps s List.mem_cons_self
    exact ih (ht.step hs) (ht.whole_step hwhole hs hcurrent.1) (fun t hmem => hsteps t (List.mem_cons_of_mem s hmem))
      hcurrent.2

end Tracks

theorem tracks_empty (hwritable : Store.Writable files path) : Tracks path collection files {} { files } where
  ready := ⟨hwritable, fun hne => absurd rfl hne, fun st hst => (by cases hst), fun st hst => (by cases hst),
    fun name k hk => (by cases hk)⟩
  same _ hst := absurd hst List.not_mem_nil
  length := rfl
  flags _ _ _ hst := by cases hst
  kept _ hv := by cases hv
  untouched _ := ⟨rfl, rfl, fun _ hst => absurd hst List.not_mem_nil⟩
  founded v hv := by
    rcases hv with hv | hv
    · exact absurd hv List.not_mem_nil
    · cases hv
  current _ hm := absurd hm List.not_mem_nil

end Ledger

namespace Hub

/-- **The last update that its store knew of.** Stores of one collection are opened, loaded and updated on a file
that can be written, in any order. If none was updated, the file is as it was. Else it keeps the flags of the store
that updated last: each flag has the value of the last change to it in the view of that store, or else what the file
held at first over the defaults of one of the stores. That view has changes of the run in their order, but only
those that the file went by when the store read it, and its own. It has all of them if no store updates that has
not read or written the file since another one updated; so then each flag has the value that the last change to
it in the run gave. -/
theorem last_known_update {path : Path} {collection : Str} {files : Files} (hwritable : Store.Writable files path)
    {steps : List HubStep} (hsteps : ∀ s ∈ steps, s.Shares path collection) :
    let h := ({ files } : Hub).run steps
    let l := Ledger.run {} { files } steps
    (l.file = none → l.all = [] ∧ h.files = files) ∧
    ∀ v, l.file = some v →
      Store.Keeps h.files path collection v.flags ∧
      (∀ f, v.flags.get f = (lastFor f v.changes).getD (v.base.get f)) ∧
      (∃ st ∈ h.stores, ∀ f, v.base.get f = (Store.storedFlag? files path collection f).getD (st.defaults.get f)) ∧
      v.changes.Sublist l.all ∧
      (Ledger.UpToDate {} { files } steps →
        ∀ f, v.flags.get f = (lastFor f l.all).getD (v.base.get f)) := by
  intro h l
  have hstart : Ledger.Tracks path collection files {} { files } := Ledger.tracks_empty hwritable
  have ht := hstart.run hsteps
  refine ⟨fun hnone => ⟨(ht.untouched hnone).1, (ht.untouched hnone).2.1⟩, fun v hv => ?_⟩
  obtain ⟨hbase, hchanges⟩ := ht.founded v (.inr hv)
  have hget : ∀ f, v.flags.get f = (lastFor f v.changes).getD (v.base.get f) := v.base.get_setAll v.changes
  refine ⟨ht.kept v hv, hget, hbase, hchanges, fun hcurrent f => ?_⟩
  rw [hget, hstart.whole_run (fun v hv => by cases hv) hsteps hcurrent v hv]

/-! ## Two stores -/

theorem names_load (h : Hub) (name : String) : (exec (perform (.load name)) h).2.names = h.names := by
  rw [perform]
  cases hn : Named.find? h.names name with
  | none => rw [exec_bind_of_error (exec_number_of_none hn)]
  | some n =>
    rw [exec_bind_of_ok (exec_number_of_some hn), exec_bind_pure_state]
    cases hst : h.stores[n]? with
    | none => rw [load, exec_bind_of_error (exec_store_of_none hst)]
    | some st =>
      cases hload : st.load h.files with
      | error e => rw [exec_load_of_error hst hload]
      | ok found => rw [exec_load_of_ok hst hload]

/-- A store that loads and then updates adds its changes to what the file goes by. -/
theorem run_load_update {l : Ledger} {h : Hub} {name : String} {n : Nat} {v : View} {changes : List (String × Json)}
    {fit : List (Flag × Bool)} (hn : Named.find? h.names name = some n) (hv : l.views[n]? = some v)
    (hfit : checkChanges changes = .ok fit) :
    l.run h [.load name, .update name changes] = (l.loads n).updates n (l.file.getD v) fit ∧
      l.UpToDate h [.load name, .update name changes] := by
  have hloads : l.step h (.load name) = l.loads n := by rw [Ledger.step, hn]
  have hn' : Named.find? (h.step (.load name)).2.names name = some n := by
    change Named.find? (exec (perform (.load name)) { h with events := [], log := [] }).2.names name = _
    rw [names_load, hn]
  have hview : (l.loads n).views[n]? = some (l.file.getD v) := by
    rw [Ledger.loads, List.getElem?_modify_eq, hv]
    rfl
  refine ⟨?_, trivial, fun m hm => ?_, trivial⟩
  · rw [Ledger.run, Ledger.run, Ledger.run, hloads, Ledger.step, hn']
    dsimp only
    rw [hview, hfit]
  · rw [hn'] at hm
    cases hm
    rw [hloads]
    exact List.mem_cons_self

/-- Two stores of one collection read the same file, and one of them updates. -/
def firstUpdate : List HubStep :=
  [.openStore (some ⟨"/", ["s.json"]⟩) "main" "a" {}, .openStore (some ⟨"/", ["s.json"]⟩) "other" "a" {},
   .update "main" [("show_headers", .bool false)]]

/-- The other one updates too, after what is given. -/
def bothUpdate (between : List HubStep) : List HubStep :=
  firstUpdate ++ (between ++ [.update "other" [("show_classes", .bool false)]])

theorem writable_oldFile : Store.Writable oldFile ⟨"/", ["s.json"]⟩ := by
  unfold Store.Writable
  decide +kernel

theorem shares_bothUpdate {between : List HubStep} (hbetween : ∀ s ∈ between, s.Shares ⟨"/", ["s.json"]⟩ "a") :
    ∀ s ∈ bothUpdate between, s.Shares ⟨"/", ["s.json"]⟩ "a" := by
  have hheaders : Fit ("show_headers", .bool false) := ⟨(.headers, false), rfl⟩
  have hclasses : Fit ("show_classes", .bool false) := ⟨(.classes, false), rfl⟩
  rw [bothUpdate, List.forall_mem_append, List.forall_mem_append]
  refine ⟨?_, hbetween, ?_⟩
  · simp [firstUpdate, HubStep.Shares, hheaders]
  · simp [HubStep.Shares, hclasses]

/-- The second store reads the file between the updates, so both of them last. -/
theorem last_known_update_read_between :
    Store.Writable oldFile ⟨"/", ["s.json"]⟩ ∧ (∀ s ∈ bothUpdate [.load "other"], s.Shares ⟨"/", ["s.json"]⟩ "a") ∧
      Ledger.UpToDate {} { files := oldFile } (bothUpdate [.load "other"]) ∧
      ∃ flags, Store.Keeps (({ files := oldFile } : Hub).run (bothUpdate [.load "other"])).files ⟨"/", ["s.json"]⟩ "a" flags ∧
        flags.get .headers = false ∧ flags.get .classes = false := by
  have hsteps : ∀ s ∈ bothUpdate [.load "other"], s.Shares ⟨"/", ["s.json"]⟩ "a" :=
    shares_bothUpdate fun s hs => List.mem_singleton.1 hs ▸ trivial
  obtain ⟨hcurrent, hnumber, hall, hview⟩ : Ledger.UpToDate {} { files := oldFile } firstUpdate ∧
      Named.find? (({ files := oldFile } : Hub).run firstUpdate).names "other" = some 1 ∧
      (Ledger.run {} { files := oldFile } firstUpdate).all = [(.headers, false)] ∧
      (Ledger.run {} { files := oldFile } firstUpdate).views[1]?.isSome := by decide +kernel
  obtain ⟨v, hv⟩ := Option.isSome_iff_exists.1 hview
  have hfit : checkChanges [("show_classes", .bool false)] = .ok [(.classes, false)] := rfl
  obtain ⟨hrun, hknows⟩ := run_load_update hnumber hv hfit
  have hcurrent' : Ledger.UpToDate {} { files := oldFile } (bothUpdate [.load "other"]) :=
    Ledger.upToDate_append.2 ⟨hcurrent, hknows⟩
  have hrun' : Ledger.run {} { files := oldFile } (bothUpdate [.load "other"]) = _ :=
    (Ledger.run_append {} { files := oldFile } firstUpdate _).trans hrun
  obtain ⟨hkeeps, -, -, -, hget⟩ := (last_known_update writable_oldFile hsteps).2 _ (congrArg Ledger.file hrun')
  have hflags := hget hcurrent'
  rw [hrun', Ledger.updates, Ledger.loads, hall] at hflags
  exact ⟨writable_oldFile, hsteps, hcurrent', _, hkeeps, hflags .headers, hflags .classes⟩

/-- Without that the first update is lost: no later one is about headers, yet the file has them shown again. -/
theorem update_lost :
    (Ledger.run {} { files := oldFile } (bothUpdate [])).all = [(.headers, false), (.classes, false)] ∧
      ∃ flags, Store.Keeps (({ files := oldFile } : Hub).run (bothUpdate [])).files ⟨"/", ["s.json"]⟩ "a" flags ∧
        flags.get .headers = true := by
  have hsteps : ∀ s ∈ bothUpdate [], s.Shares ⟨"/", ["s.json"]⟩ "a" := shares_bothUpdate (List.forall_mem_nil _)
  have hstart : Ledger.Tracks ⟨"/", ["s.json"]⟩ "a" oldFile {} { files := oldFile } :=
    Ledger.tracks_empty writable_oldFile
  obtain ⟨hall, hshown⟩ :
      (Ledger.run {} { files := oldFile } (bothUpdate [])).all = [(.headers, false), (.classes, false)] ∧
        ((Ledger.run {} { files := oldFile } (bothUpdate [])).file.map fun v => v.flags.get .headers) = some true := by
    decide +kernel
  obtain ⟨v, hv, hheaders⟩ := Option.map_eq_some_iff.1 hshown
  exact ⟨hall, v.flags, (hstart.run hsteps).kept v hv, hheaders⟩

end Hub

end Landmarks
