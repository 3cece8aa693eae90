import Landmarks.Rule.Chain
import Landmarks.Settings.Store

/-!
# Stores with listeners that act

* `Hub` : stores over common files, the listeners of all of them, and what happened so far.
* `Action` : what a listener does after it has taken note of a change. It may fail, take back a
  subscription, or change a store, which calls listeners again before the first call is over.
* `Hub.save`, `Hub.apply`, `Hub.update`, `Hub.notify` and the others : the operations. What was done
  before a failure stays done.
* `HubStep`, `Hub.step` : the operations as data, on stores that are named.
-/

namespace Landmarks

/-- What a listener does. -/
inductive Reaction
  | fail (fault : Fault)
  | unsubscribe (token : String)
  | update (store : String) (changes : List (String × Json))

/-- What a listener does whenever it is called, or only the first time. -/
structure Action where
  reaction : Reaction
  once : Bool

/-- A listener, and the flags it was given so far with the number of the store that gave them. -/
structure Listener where
  action : Option Action := none
  heard : List (Nat × Flags) := []

/-- Why an operation on stores failed. -/
inductive SettingsError
  | change (error : ChangeError)
  | content (error : ContentError)
  | file (error : FileError)
  | listener (fault : Fault)
  | noSuchName
  | tooDeep

/-- Stores over common files. A store has a number; a name denotes the store opened last under it. -/
structure Hub where
  files : Files
  stores : List (Store String) := []
  names : Named Nat := []
  listeners : Named Listener := []
  tokens : Named (Nat × String) := []
  events : List (String × Flags) := []
  log : List Record := []

/-- An operation on stores. -/
abbrev Hub.Op := ExceptT SettingsError (StateM Hub)

namespace Hub

/-- Take note of records. -/
def say (records : List Record) : Op Unit := modify fun h => { h with log := h.log ++ records }

/-- The number of the store with a name. -/
def number (name : String) : Op Nat := do
  match Named.find? (← get).names name with
  | some n => return n
  | none => throw .noSuchName

/-- The store with a number. -/
def store (n : Nat) : Op (Store String) := do
  match (← get).stores[n]? with
  | some st => return st
  | none => throw .noSuchName

/-- Replace the store with a number. -/
def setStore (n : Nat) (st : Store String) : Op Unit :=
  modify fun h => { h with stores := h.stores.set n st }

/-- Something that may fail because the file of a store cannot be read at all. -/
def readable {α : Type} (r : Except ContentError α) : Op α :=
  match r with
  | .ok a => return a
  | .error e => throw (.content e)

/-- Open a store under a name. -/
def openStore (path : Option Path) (name : String) (collection : Str) (defaults : Flags) : Op Unit := do
  let (st, log) ← readable (Store.openAt (← get).files path collection defaults)
  say log
  modify fun h =>
    { h with stores := h.stores ++ [st], names := Named.put name h.stores.length h.names }

/-- Read the stored flags again and put them in force. -/
def load (n : Nat) : Op Flags := do
  let st ← store n
  let (flags, log) ← readable (st.load (← get).files)
  say log
  setStore n { st with flags }
  return flags

/-- Put flags in force, if some are given, and write them. The flags are in force even if they cannot
be written. -/
def save (n : Nat) (flags : Option Flags) : Op Unit := do
  let old ← store n
  let st := { old with flags := flags.getD old.flags }
  setStore n st
  let ((written, files), log) ← readable (st.persist (← get).files)
  say log
  modify fun h => { h with files }
  match written with
  | .ok () => return
  | .error e => throw (.file e)

/-- Call the listeners that a store has now, each with the flags in force when its turn comes. -/
def notifyWith (call : Nat → String → Flags → Op Unit) (n : Nat) : Op Unit := do
  (← store n).listeners.forM fun listener => do call n listener (← store n).flags

/-- Write flags and tell the listeners. -/
def applyWith (call : Nat → String → Flags → Op Unit) (n : Nat) (flags : Flags) : Op Unit := do
  save n (some flags)
  notifyWith call n

/-- Change flags by name, write them and tell the listeners. Nothing happens if a change is unfit. -/
def updateWith (call : Nat → String → Flags → Op Unit) (n : Nat) (changes : List (String × Json)) :
    Op Flags := do
  match checkChanges changes with
  | .error e => throw (.change e)
  | .ok fit =>
    let flags := (← store n).flags.setAll fit
    applyWith call n flags
    return flags

/-- Take back a subscription; nothing happens if the listener is not in the list. -/
def unsubscribe (token : String) : Op Unit := do
  match Named.find? (← get).tokens token with
  | some (n, listener) => setStore n ((← store n).unsubscribe listener)
  | none => throw .noSuchName

/-- The listener with a name; one that nobody subscribed does nothing. -/
def listener (h : Hub) (name : String) : Listener := (Named.find? h.listeners name).getD {}

/-- A listener takes note of the flags that a store gives it. -/
def hear (n : Nat) (name : String) (flags : Flags) (h : Hub) : Hub :=
  let l := h.listener name
  { h with events := h.events ++ [(name, flags)]
           listeners := Named.put name { l with heard := l.heard ++ [(n, flags)] } h.listeners }

/-- A listener is called by a store: it takes note of the flags and then acts. `depth` bounds how often
calls are nested. -/
def call : (depth : Nat) → (n : Nat) → String → Flags → Op Unit
  | 0, _, _, _ => throw .tooDeep
  | depth + 1, n, name, flags => do
    let l := (← get).listener name
    modify (hear n name flags)
    match l.action with
    | none => return
    | some action =>
      if action.once && !l.heard.isEmpty then return
      match action.reaction with
      | .fail fault => throw (.listener fault)
      | .unsubscribe token => unsubscribe token
      | .update storeName changes =>
        let n ← number storeName
        let _ ← updateWith (call depth) n changes
        return

/-- Tell the listeners of a store the flags in force. -/
def notify (n : Nat) : Op Unit := notifyWith (call maxDepth) n

/-- Write flags and tell the listeners. -/
def apply (n : Nat) (flags : Flags) : Op Unit := applyWith (call maxDepth) n flags

/-- Change flags by name, write them and tell the listeners. -/
def update (n : Nat) (changes : List (String × Json)) : Op Flags :=
  updateWith (call maxDepth) n changes

/-- Subscribe a listener under a token. A listener that is known keeps its action. -/
def subscribe (n : Nat) (listener token : String) (action : Option Action) : Op Unit := do
  setStore n ((← store n).subscribe listener)
  modify fun h =>
    let known := (Named.find? h.listeners listener).getD { action }
    { h with listeners := Named.put listener known h.listeners
             tokens := Named.put token (n, listener) h.tokens }

end Hub

/-- What is done with stores, which are named. -/
inductive HubStep
  | openStore (path : Option Path) (store : String) (collection : Str) (defaults : Flags)
  | load (store : String)
  | save (store : String) (flags : Option Flags)
  | apply (store : String) (flags : Flags)
  | update (store : String) (changes : List (String × Json))
  | subscribe (store listener token : String) (action : Option Action)
  | unsubscribe (token : String)
  | notify (store : String)

namespace Hub

/-- Do a step; reading and changing flags give the flags. -/
def perform : HubStep → Op (Option Flags)
  | .openStore path name collection defaults => do
    openStore path name collection defaults
    return none
  | .load name => do return some (← load (← number name))
  | .save name flags => do
    save (← number name) flags
    return none
  | .apply name flags => do
    apply (← number name) flags
    return none
  | .update name changes => do return some (← update (← number name) changes)
  | .subscribe name listener token action => do
    subscribe (← number name) listener token action
    return none
  | .unsubscribe token => do
    unsubscribe token
    return none
  | .notify name => do
    notify (← number name)
    return none

/-- Do a step with nothing heard and logged before it. -/
def step (h : Hub) (s : HubStep) : Except SettingsError (Option Flags) × Hub :=
  (perform s).run { h with events := [], log := [] }

end Hub

end Landmarks
