import Landmarks.Scan
import Landmarks.Settings.Store

/-!
# Overlays

An overlay belongs to one document. It scans the document anew on every trigger and publishes the
markers; an overlay that is attached to the settings store also does so when the settings change.

* `Buffer` : the text of a document, which may be out of reach, and the receiver of its markers,
  which may refuse them after it took note of them.
* `Overlay` : the rule set and the flags of a document, and the markers published last.
* `Publication` : markers as an overlay handed them to its receiver.
* `Desk` : overlays that share a store and its files, with all that was published. What was done before a
  failure stays done.
* `Desk.openOverlay`, `Desk.refresh`, `Desk.update`, `Desk.dispose` and the others : the operations. New flags are
  written before the overlays are told of them.
* `DeskStep`, `Desk.step` : the operations as data, on overlays named by ids.
-/

namespace Landmarks

/-- What makes an overlay scan its document. -/
inductive Trigger
  | textChanged
  | layoutChanged
  | trackSpanChanged
  | settingsChanged
  deriving DecidableEq, Repr

namespace Trigger

/-- All triggers. -/
def all : List Trigger := [textChanged, layoutChanged, trackSpanChanged, settingsChanged]

/-- The name of a trigger. -/
def name : Trigger → String
  | textChanged => "text_changed"
  | layoutChanged => "layout_changed"
  | trackSpanChanged => "track_span_changed"
  | settingsChanged => "settings_changed"

/-- The trigger of a name. -/
def ofName? (s : String) : Option Trigger := all.find? fun t => t.name == s

end Trigger

/-- The host's side of an overlay: a text, and the failures of its supply and of the receiver. -/
structure Buffer where
  text : List Char
  broken : Option Fault := none
  refusal : Option Fault := none

/-- The state of an overlay. `attached` says that it still has a subscription to take back. -/
structure Overlay where
  id : String
  mode : Mode
  flags : Flags
  markers : List Marker := []
  attached : Bool := false
  disposed : Bool := false

/-- Markers that the overlay with a number handed to its receiver. -/
structure Publication where
  overlay : Nat
  id : String
  markers : List Marker
  deriving DecidableEq, Repr

/-- Why an operation on overlays failed. -/
inductive DeskError
  | change (error : ChangeError)
  | content (error : ContentError)
  | file (error : FileError)
  | refused (fault : Fault)
  | noSuchOverlay
  | unknownTrigger (name : String)

/-- What is said of a name that is no trigger. -/
def unknownTriggerMessage (name : String) : String :=
  Text.quoteString name ++ " is not a valid ScanTrigger"

/-- Overlays that share a store over some files. Each has a number; an id denotes the overlay, and the buffer, that
was opened last under it. -/
structure Desk where
  files : Files
  store : Store Nat
  overlays : List (Overlay × Buffer) := []
  names : Named Nat := []
  bufferNames : Named Nat := []
  publications : List Publication := []
  log : List Record := []

/-- An operation on overlays. -/
abbrev Desk.Op := ExceptT DeskError (StateM Desk)

namespace Desk

/-- What was published, under the ids of the overlays. -/
def published (d : Desk) : List (String × List Marker) := d.publications.map fun p => (p.id, p.markers)

/-- A desk around a store that has no listeners yet. -/
def ofStore (files : Files) (st : Store Nat) : Desk := { files, store := { st with listeners := [] } }

/-- The number under a name. -/
def number (names : Named Nat) (id : String) : Op Nat :=
  match Named.find? names id with
  | some n => return n
  | none => throw .noSuchOverlay

/-- The overlay with a number. -/
def overlay (n : Nat) : Op (Overlay × Buffer) := do
  match (← get).overlays[n]? with
  | some o => return o
  | none => throw .noSuchOverlay

/-- Change the overlay with a number. -/
def modifyOverlay (n : Nat) (f : Overlay → Overlay) : Op Unit :=
  modify fun d => { d with overlays := d.overlays.modify n fun (o, b) => (f o, b) }

/-- Change the buffer with a number. -/
def modifyBuffer (n : Nat) (f : Buffer → Buffer) : Op Unit :=
  modify fun d => { d with overlays := d.overlays.modify n fun (o, b) => (o, f b) }

/-- The markers of a buffer, none if its text is out of reach; and the log of the scan. -/
def scanBuffer (o : Overlay) (b : Buffer) (trigger : Trigger) : List Marker × List Record :=
  match b.broken with
  | some fault =>
    let text := "Error updating overlay after " ++ trigger.name ++ ": " ++ fault.message
    ([], [.warning "overlay" text])
  | none => (Document.ofText b.text).scan o.mode o.flags

/-- Scan the document and publish its markers; a disposed overlay does nothing. -/
def refresh (n : Nat) (trigger : Trigger) : Op Unit := do
  let (o, b) ← overlay n
  if o.disposed then return
  let (markers, log) := scanBuffer o b trigger
  modifyOverlay n fun o => { o with markers }
  modify fun d =>
    { d with log := d.log ++ log, publications := d.publications ++ [⟨n, o.id, markers⟩] }
  match b.refusal with
  | some fault => throw (.refused fault)
  | none => return

/-- New flags for an overlay. -/
def settingsChanged (n : Nat) (flags : Flags) : Op Unit := do
  modifyOverlay n fun o => { o with flags }
  refresh n .settingsChanged

/-- Put flags in force and write them. The flags are in force even if they cannot be written. -/
def save (flags : Flags) : Op Unit := do
  modify fun d => { d with store := { d.store with flags } }
  let d ← get
  match d.store.persist d.files with
  | .error e => throw (.content e)
  | .ok ((written, files), log) =>
    modify fun d => { d with files, log := d.log ++ log }
    match written with
    | .ok () => return
    | .error e => throw (.file e)

/-- Tell the attached overlays the flags in force, in order. -/
def notify : Op Unit := do
  (← get).store.listeners.forM fun n => do settingsChanged n (← get).store.flags

/-- Write flags and tell the attached overlays. -/
def apply (flags : Flags) : Op Unit := do
  save flags
  notify

/-- Change flags by name. Nothing happens if a change is unfit. -/
def update (changes : List (String × Json)) : Op Unit := do
  match checkChanges changes with
  | .error e => throw (.change e)
  | .ok fit => apply ((← get).store.flags.setAll fit)

/-- Open an overlay: it takes the given flags, or those of the store it is attached to, subscribes, and
publishes for the first time. The id denotes it only if that does not fail. -/
def openOverlay (id : String) (mode : Mode) (buffer : Buffer) (attach : Bool) (flags : Option Flags) :
    Op Unit := do
  let d ← get
  let n := d.overlays.length
  let inForce := if attach then d.store.flags else {}
  let o : Overlay := { id, mode, flags := flags.getD inForce, attached := attach }
  set { d with overlays := d.overlays ++ [(o, buffer)]
               bufferNames := Named.put id n d.bufferNames
               store := if attach then d.store.subscribe n else d.store }
  refresh n .textChanged
  modify fun d => { d with names := Named.put id n d.names }

/-- Scan on a trigger given by name. -/
def refreshNamed (n : Nat) (trigger : String) : Op Unit :=
  match Trigger.ofName? trigger with
  | some t => refresh n t
  | none => throw (.unknownTrigger trigger)

/-- Take an overlay out of use and its subscription back. -/
def dispose (n : Nat) : Op Unit := do
  let (o, _) ← overlay n
  if o.disposed then return
  if o.attached then modify fun d => { d with store := d.store.unsubscribe n }
  modifyOverlay n fun o => { o with attached := false, disposed := true }

end Desk

/-- What a host does with overlays, which it names by their ids. -/
inductive DeskStep
  | openOverlay (id : String) (mode : Mode) (buffer : Buffer) (attach : Bool) (flags : Option Flags)
  | setText (id : String) (text : List Char)
  | setBroken (id : String) (fault : Option Fault)
  | setRefusal (id : String) (fault : Option Fault)
  | refresh (id : String) (trigger : String)
  | settingsChanged (id : String) (flags : Flags)
  | update (changes : List (String × Json))
  | apply (flags : Flags)
  | dispose (id : String)
  /-- Someone else changes the files. -/
  | setFiles (files : Files)

namespace Desk

/-- The number of the overlay with an id. -/
def overlayNumber (id : String) : Op Nat := do number (← get).names id

/-- The number of the buffer with an id. -/
def bufferNumber (id : String) : Op Nat := do number (← get).bufferNames id

/-- Do a step. -/
def perform : DeskStep → Op Unit
  | .openOverlay id mode buffer attach flags => openOverlay id mode buffer attach flags
  | .setText id text => do modifyBuffer (← bufferNumber id) fun b => { b with text }
  | .setBroken id broken => do modifyBuffer (← bufferNumber id) fun b => { b with broken }
  | .setRefusal id refusal => do modifyBuffer (← bufferNumber id) fun b => { b with refusal }
  | .refresh id trigger => do refreshNamed (← overlayNumber id) trigger
  | .settingsChanged id flags => do settingsChanged (← overlayNumber id) flags
  | .update changes => update changes
  | .apply flags => apply flags
  | .dispose id => do dispose (← overlayNumber id)
  | .setFiles files => modify fun d => { d with files }

/-- Do a step with nothing published and logged before it. -/
def step (d : Desk) (s : DeskStep) : Except DeskError Unit × Desk :=
  (perform s).run { d with publications := [], log := [] }

end Desk

end Landmarks
