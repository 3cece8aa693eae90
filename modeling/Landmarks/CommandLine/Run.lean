import Landmarks.CommandLine.Arguments
import Landmarks.CommandLine.Assignment
import Landmarks.CommandLine.Report
import Landmarks.CommandLine.Sources
import Landmarks.Config
import Landmarks.Encoding.Basic
import Landmarks.Logging
import Landmarks.Scan
import Landmarks.Settings.Store

/-!
# Running a command

* `Session` : the files and the log of a run.
* `RunError` : why a run ends early. Most causes end it with a status and a message; those for which
  `RunError.exit?` gives none are failures of the surroundings that the program does not handle.
* `Serving` : what the service is started with.
* `run` : a run of the program, `Outcome` : all that can be seen of it.
-/

namespace Landmarks.CommandLine

open Text (quoteString)

/-- Why a run ends early. -/
inductive RunError
  | usage (title : String) (error : UsageError)
  | noConfigPath
  | load (error : LoadError)
  | place (error : PlaceError)
  | settingsContent (error : ContentError)
  | settingsFile (error : FileError)
  | scan (error : FileError) (path : Path)
  | assignment (error : AssignmentError)
  | change (error : ChangeError)

/-- The status and the message with which a run ends, if the program handles the cause. -/
def RunError.exit? : RunError → Option (Nat × String)
  | usage title e => some (2, title ++ ": error: " ++ e.message)
  | load (.config e) => some (1, e.message)
  | scan e path =>
    e.code?.map fun code =>
      (1, "scrollmarks scan failed: [Errno " ++ toString code ++ "] " ++ e.reason ++ ": " ++
        quoteString path.text)
  | assignment e => some (1, e.message)
  | change e => some (1, e.message)
  | noConfigPath | load _ | place _ | settingsContent _ | settingsFile _ => none

/-- What is said of a cause that the program does not handle. -/
def RunError.failureText : RunError → String
  | noConfigPath => "no path of a configuration"
  | load e => e.message
  | place e => e.message
  | settingsContent e => e.message
  | settingsFile e => e.reason
  | scan e _ => e.reason
  | _ => ""

/-- What the service is started with. -/
structure Serving where
  host : Option String
  port : Option Int
  store : Store Empty
  csharp : List String

/-- The files and the log of a run. -/
structure Session where
  files : Files
  log : List Record := []

/-- A part of a run. What was done before it ends early stays done. -/
abbrev Session.Op := ExceptT RunError (StateM Session)

namespace Session

/-- Take note of records. -/
def say (records : List Record) : Op Unit := modify fun s => { s with log := s.log ++ records }

/-- Something that may fail. -/
def attempt {ε α : Type} (cause : ε → RunError) (r : Except ε α) : Op α :=
  match r with
  | .ok a => return a
  | .error e => throw (cause e)

/-- The configuration of a path, and the store that it names. -/
def start (homes : String → Option String) (path : Option String) : Op (Config × Store Empty) := do
  let host : Host := ⟨(← get).files, homes⟩
  let some path := path | throw .noConfigPath
  let config ← attempt .load (Config.load host (Path.ofString path))
  let settings ← attempt .place (config.settingsPath host)
  let opened := Store.openAt host.files (some settings) config.collection config.flags
  let (store, log) ← attempt .settingsContent opened
  say log
  return (config, store)

/-- What there is to say before a file is scanned. -/
def announce (c : Config) (language : Option Mode) (p : Path) : Mode × List Record :=
  let scanning (mode : Mode) : Record :=
    .debug "cli" ("Scanning " ++ p.text ++ " as " ++ mode.name)
  match language with
  | some mode => (mode, [scanning mode])
  | none =>
    let mode := Mode.detect c.csharp p
    if isKnownSource c.csharp c.clike p then (mode, [scanning mode])
    else
      let text := "No language registered for " ++ p.text ++ "; using C-like rules"
      (mode, [.info "cli" text, scanning mode])

/-- The markers of a file. -/
def scanFile (c : Config) (language : Option Mode) (flags : Flags) (p : Path) : Op (List Marker) := do
  let (mode, log) := announce c language p
  say log
  let bytes ← attempt (.scan · p) ((← get).files.read p)
  let (markers, log) := (Document.ofText (Encoding.utf8.decode bytes)).scan mode flags
  say log
  return markers

/-- The markers of the files that a path stands for, after those of other paths. -/
def scanPath (c : Config) (language : Option Mode) (flags : Flags) (results : Results) (p : Path) :
    Op Results := do
  let known := isKnownSource c.csharp c.clike
  let paths ← attempt (.scan · p) (expandPath (← get).files known p)
  paths.foldlM (fun results p => do
    return Named.put p.text (← scanFile c language flags p) results) results

/-- Change the flags of a store by assignments and write them. -/
def assign (store : Store Empty) (assignments : List (Option String)) : Op Flags := do
  let texts := assignments.map fun a => a.map String.toList
  let named ← attempt .assignment (Assignment.parseAll texts)
  let changes := named.map fun (name, b) => (name, Json.bool b)
  let flags := store.flags.setAll (← attempt .change (checkChanges changes))
  let saved : Store Empty := { store with flags }
  let ((written, files), log) ← attempt .settingsContent (saved.persist (← get).files)
  say log
  modify fun s => { s with files }
  attempt .settingsFile written
  return flags

/-- Do what is asked: what is printed, and what the service is started with. -/
def perform (homes : String → Option String) (i : Invocation) : Op (List Char × Option Serving) := do
  let a := i.arguments
  let (config, store) ← start homes a.config
  match i.command with
  | .serve => return ([], some ⟨a.host, a.port, store, config.csharp⟩)
  | .scan =>
    let flags := store.flags.setAll a.overrides
    let results ← (i.paths.map Path.ofString).foldlM (scanPath config a.language flags) []
    return (if a.json then jsonText results else table results, none)
  | .settings =>
    let flags ← if a.assignments.isEmpty then pure store.flags else assign store a.assignments
    return (flagLines flags, none)

end Session

/-- All that can be seen of a run: how it ended, what was printed, the log as it is shown, and the
files after it. -/
structure Outcome where
  ending : Except RunError (Option Serving)
  printed : List Char
  shown : String
  files : Files

/-- Run the program with a command line. -/
def run (host : Host) (argv : List String) : Outcome :=
  match Invocation.parse argv with
  | .error (.help title g) => ⟨.ok none, helpText title g, "", host.files⟩
  | .error (.usage title e) => ⟨.error (.usage title e), [], "", host.files⟩
  | .ok i =>
    let (result, session) := (Session.perform host.homes i).run { files := host.files }
    let shown := consoleText i.arguments.verbose session.log
    match result with
    | .error e => ⟨.error e, [], shown, session.files⟩
    | .ok (printed, serving) => ⟨.ok serving, printed, shown, session.files⟩

/-- The status with which a run ends, if the program chooses it. -/
def Outcome.status? (o : Outcome) : Option Nat :=
  match o.ending with
  | .ok _ => some 0
  | .error e => e.exit?.map (·.1)

/-- The messages of a run: the log, and the message of an early end. -/
def Outcome.messages (o : Outcome) : String :=
  match o.ending with
  | .ok _ => o.shown
  | .error e =>
    match e.exit? with
    | some (_, text) => o.shown ++ text ++ "\n"
    | none => o.shown

end Landmarks.CommandLine
