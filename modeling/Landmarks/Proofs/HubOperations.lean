import Landmarks.Proofs.Operation
import Landmarks.Settings.Hub

/-!
# What the operations on stores do

One lemma for each operation, in terms of the state alone; what is proved of stores rests on these.

* `Hub.run` : the stores after some steps.
* `exec_store_eq_ok`, `exec_number_eq_ok` : what is looked up is there, and nothing changes.
* `exec_openStore_of_ok`, `exec_load_of_ok` : what is read from the file is put in force.
* `exec_save` : flags are put in force and written.
* `exec_update_of_error`, `exec_update_of_ok` : changes are refused, or applied to the flags in force.
* `exec_subscribe`, `exec_unsubscribe_of_some` : a listener is added or taken out.
* `exec_save_eq_ok`, `exec_unsubscribe_eq_ok` : what has happened if these succeed.
-/

namespace Landmarks.Hub

/-- The stores after some steps. -/
def run (h : Hub) : List HubStep → Hub
  | [] => h
  | s :: rest => (h.step s).2.run rest

variable {h h' : Hub} {n : Nat}

theorem exec_store_of_some {st : Store String} (hst : h.stores[n]? = some st) :
    exec (store n) h = (.ok st, h) := by
  rw [store, exec_get_bind, hst, exec_pure]

theorem exec_store_of_none (hst : h.stores[n]? = none) : exec (store n) h = (.error .noSuchName, h) := by
  rw [store, exec_get_bind, hst, exec_throw]

theorem exec_store_eq_ok {st : Store String} (hrun : exec (store n) h = (.ok st, h')) :
    h.stores[n]? = some st ∧ h = h' := by
  cases hst : h.stores[n]? with
  | none =>
    rw [exec_store_of_none hst] at hrun
    cases hrun
  | some st' =>
    rw [exec_store_of_some hst] at hrun
    cases hrun
    exact ⟨rfl, rfl⟩

theorem exec_number_of_some {name : String} (hn : Named.find? h.names name = some n) :
    exec (number name) h = (.ok n, h) := by
  rw [number, exec_get_bind, hn, exec_pure]

theorem exec_number_of_none {name : String} (hn : Named.find? h.names name = none) :
    exec (number name) h = (.error .noSuchName, h) := by
  rw [number, exec_get_bind, hn, exec_throw]

theorem exec_number_eq_ok {name : String} (hrun : exec (number name) h = (.ok n, h')) :
    Named.find? h.names name = some n ∧ h = h' := by
  cases hn : Named.find? h.names name with
  | none =>
    rw [exec_number_of_none hn] at hrun
    cases hrun
  | some m =>
    rw [exec_number_of_some hn] at hrun
    cases hrun
    exact ⟨rfl, rfl⟩

theorem exec_openStore_of_ok {path : Option Path} {name : String} {collection : Str} {defaults : Flags} {st : Store String}
    {log : List Record} (hopen : Store.openAt h.files path collection defaults = .ok (st, log)) :
    exec (openStore path name collection defaults) h =
      (.ok (), { h with stores := h.stores ++ [st]
                        names := Named.put name h.stores.length h.names
                        log := h.log ++ log }) := by
  rw [openStore, exec_get_bind, hopen]
  rfl

theorem exec_openStore_of_error {path : Option Path} {name : String} {collection : Str} {defaults : Flags} {e : ContentError}
    (hopen : Store.openAt (ι := String) h.files path collection defaults = .error e) :
    exec (openStore path name collection defaults) h = (.error (.content e), h) := by
  rw [openStore, exec_get_bind, hopen]
  rfl

theorem exec_load_of_ok {st : Store String} {flags : Flags} {log : List Record} (hst : h.stores[n]? = some st)
    (hload : st.load h.files = .ok (flags, log)) :
    exec (load n) h =
      (.ok flags, { h with stores := h.stores.set n { st with flags }
                           log := h.log ++ log }) := by
  rw [load, exec_bind_of_ok (exec_store_of_some hst), exec_get_bind, hload]
  rfl

theorem exec_load_of_error {st : Store String} {e : ContentError} (hst : h.stores[n]? = some st)
    (hload : st.load h.files = .error e) : exec (load n) h = (.error (.content e), h) := by
  rw [load, exec_bind_of_ok (exec_store_of_some hst), exec_get_bind, hload]
  rfl

/-- Flags are in force before they are written. -/
theorem exec_save {old : Store String} {flags : Option Flags} {written : Except FileError Unit} {files : Files}
    {log : List Record} (hold : h.stores[n]? = some old)
    (hpersist : { old with flags := flags.getD old.flags }.persist h.files = .ok ((written, files), log)) :
    exec (save n flags) h =
      (match written with
        | .ok () => .ok ()
        | .error e => .error (.file e),
      { h with stores := h.stores.set n { old with flags := flags.getD old.flags }
               files
               log := h.log ++ log }) := by
  rw [save, exec_bind_of_ok (exec_store_of_some hold)]
  simp only [setStore, say, exec_modify_bind, exec_get_bind, hpersist, readable]
  cases written <;> rfl

theorem exec_save_of_content_error {old : Store String} {flags : Option Flags} {e : ContentError}
    (hold : h.stores[n]? = some old)
    (hpersist : { old with flags := flags.getD old.flags }.persist h.files = .error e) :
    exec (save n flags) h =
      (.error (.content e), { h with stores := h.stores.set n { old with flags := flags.getD old.flags } }) := by
  rw [save, exec_bind_of_ok (exec_store_of_some hold)]
  simp only [setStore, exec_modify_bind, exec_get_bind, hpersist, readable]
  rfl

theorem exec_save_eq_ok {flags : Option Flags} (hrun : exec (save n flags) h = (.ok (), h')) :
    ∃ old files log, h.stores[n]? = some old ∧
      { old with flags := flags.getD old.flags }.persist h.files = .ok ((.ok (), files), log) ∧
      h' = { h with stores := h.stores.set n { old with flags := flags.getD old.flags }
                    files
                    log := h.log ++ log } := by
  cases hold : h.stores[n]? with
  | none =>
    rw [save, exec_bind_of_error (exec_store_of_none hold)] at hrun
    cases hrun
  | some old =>
    rcases hpersist : { old with flags := flags.getD old.flags }.persist h.files with
      e | ⟨⟨e | ⟨⟩, files⟩, log⟩
    · rw [exec_save_of_content_error hold hpersist] at hrun
      cases hrun
    · rw [exec_save hold hpersist] at hrun
      cases hrun
    · rw [exec_save hold hpersist] at hrun
      cases hrun
      exact ⟨old, files, log, rfl, hpersist, rfl⟩

/-- Nothing happens if a change is unfit. -/
theorem exec_update_of_error {changes : List (String × Json)} {e : ChangeError} (hunfit : checkChanges changes = .error e) :
    exec (update n changes) h = (.error (.change e), h) := by
  rw [update, updateWith, hunfit]
  rfl

/-- Changes that are fit are applied to the flags in force. -/
theorem exec_update_of_ok {changes : List (String × Json)} {fit : List (Flag × Bool)} {st : Store String}
    (hst : h.stores[n]? = some st) (hfit : checkChanges changes = .ok fit) :
    exec (update n changes) h =
      exec (do apply n (st.flags.setAll fit); return st.flags.setAll fit) h := by
  rw [update, updateWith, hfit]
  exact exec_bind_of_ok (exec_store_of_some hst)

theorem exec_apply_of_save_error {flags : Flags} {e : SettingsError}
    (hsave : exec (save n (some flags)) h = (.error e, h')) : exec (apply n flags) h = (.error e, h') := by
  rw [apply, applyWith, exec_bind_of_error hsave]

/-- Changes that cannot be saved fail as saving does. -/
theorem exec_update_of_save_error {changes : List (String × Json)} {fit : List (Flag × Bool)} {st : Store String}
    {e : SettingsError} (hst : h.stores[n]? = some st) (hfit : checkChanges changes = .ok fit)
    (hsave : exec (save n (some (st.flags.setAll fit))) h = (.error e, h')) :
    exec (update n changes) h = (.error e, h') := by
  rw [exec_update_of_ok hst hfit, exec_bind_of_error (exec_apply_of_save_error hsave)]

theorem exec_subscribe {st : Store String} (hst : h.stores[n]? = some st) (listener token : String)
    (action : Option Action) :
    exec (subscribe n listener token action) h =
      (.ok (), { h with
        stores := h.stores.set n (st.subscribe listener)
        listeners := Named.put listener ((Named.find? h.listeners listener).getD { action }) h.listeners
        tokens := Named.put token (n, listener) h.tokens }) := by
  rw [subscribe, exec_bind_of_ok (exec_store_of_some hst)]
  rfl

theorem exec_unsubscribe_of_none {token : String} (htoken : Named.find? h.tokens token = none) :
    exec (unsubscribe token) h = (.error .noSuchName, h) := by
  rw [unsubscribe, exec_get_bind, htoken, exec_throw]

theorem exec_unsubscribe_of_some {token listener : String} {st : Store String}
    (htoken : Named.find? h.tokens token = some (n, listener)) (hst : h.stores[n]? = some st) :
    exec (unsubscribe token) h = (.ok (), { h with stores := h.stores.set n (st.unsubscribe listener) }) := by
  rw [unsubscribe, exec_get_bind, htoken]
  exact exec_bind_of_ok (exec_store_of_some hst)

theorem exec_unsubscribe_eq_ok {token : String} (hrun : exec (unsubscribe token) h = (.ok (), h')) :
    ∃ k name st, h.stores[k]? = some st ∧
      h' = { h with stores := h.stores.set k (st.unsubscribe name) } := by
  rw [unsubscribe, exec_get_bind] at hrun
  cases htoken : Named.find? h.tokens token with
  | none =>
    rw [htoken] at hrun
    cases hrun
  | some place =>
    obtain ⟨k, name⟩ := place
    rw [htoken] at hrun
    obtain ⟨st, mid, hst, hset⟩ := exec_bind_eq_ok.1 hrun
    obtain ⟨hk, rfl⟩ := exec_store_eq_ok hst
    rw [setStore, exec_modify] at hset
    cases hset
    exact ⟨k, name, st, hk, rfl⟩

end Landmarks.Hub
