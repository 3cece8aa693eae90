import Landmarks.Log
import Landmarks.Named

/-!
# Where log records go

The package has one logger with a list of handlers. A host may add handlers of its own; the command
line installs a console handler, and a file handler if asked, in place of those it installed before.

* `Handler` : who receives records.
* `Logging` : the level, the handlers, and all that was written.
* `Logging.configure`, `Logging.reset`, `Logging.addHost` : changing the handlers.
* `Logging.log` : a record on its way through the handlers.
* `LoggingStep`, `Logging.step` : the operations as data.
* `consoleLine`, `fileLine` : the written forms of a record; `consoleText` : all that is shown.
-/

namespace Landmarks

/-- A receiver of records. Those of the command line have a level of their own. -/
inductive Handler
  | null
  | host (stream : String)
  | console (stream : String) (level : Level)
  | file (name : String) (level : Level)
  deriving DecidableEq, Repr

/-- Whether the command line installed a handler. -/
def Handler.isInstalled : Handler → Bool
  | .console _ _ | .file _ _ => true
  | .null | .host _ => false

/-- The name of a level with blanks up to seven columns. -/
def paddedLevel (l : Level) : String :=
  String.ofList (l.name.toList ++ List.replicate (7 - l.name.length) ' ')

/-- A record on the console. -/
def consoleLine (r : Record) : String := paddedLevel r.level ++ " " ++ r.logger ++ ": " ++ r.message

/-- The level from which records are shown on the console. -/
def consoleLevel (verbose : Bool) : Level := if verbose then .debug else .info

/-- The records that are shown on the console, one a line. -/
def consoleText (verbose : Bool) (records : List Record) : String :=
  let shown := records.filter fun r => r.level.reaches (consoleLevel verbose)
  String.join (shown.map fun r => consoleLine r ++ "\n")

/-- A record in a log file, behind the time. -/
def fileLine (time : String) (r : Record) : String :=
  time ++ " " ++ r.level.name ++ " " ++ r.logger ++ ": " ++ r.message

/-- The package's logger. Without a level of its own, warnings and above are let through. -/
structure Logging where
  level : Option Level := none
  propagate : Bool := true
  handlers : List Handler := [.null]
  streams : Named String := []
  files : Named String := []

namespace Logging

/-- Add text at the end of what is under a name. -/
def append (name text : String) (entries : Named String) : Named String :=
  Named.put name ((Named.find? entries name).getD "" ++ text) entries

/-- Without the handlers of the command line, and open to the host again. -/
def reset (l : Logging) : Logging :=
  { l with level := none, propagate := true, handlers := l.handlers.filter (!·.isInstalled) }

/-- With handlers of the command line in place of those installed before. -/
def configure (l : Logging) (stream : String) (verbose : Bool) (file : Option String) : Logging :=
  let level := consoleLevel verbose
  let l := l.reset
  { l with
    level := some level
    propagate := false
    handlers := l.handlers ++ [.console stream level] ++ file.toList.map (.file · level)
    streams := append stream "" l.streams
    files := file.toList.foldl (fun files name => append name "" files) l.files }

/-- With a handler of the host. -/
def addHost (l : Logging) (stream : String) : Logging :=
  { l with handlers := l.handlers ++ [.host stream], streams := append stream "" l.streams }

/-- A record reaches a handler. -/
def handle (time : String) (r : Record) (l : Logging) (h : Handler) : Logging :=
  match h with
  | .null => l
  | .host stream => { l with streams := append stream (r.message ++ "\n") l.streams }
  | .console stream level =>
    if r.level.reaches level then
      { l with streams := append stream (consoleLine r ++ "\n") l.streams }
    else l
  | .file name level =>
    if r.level.reaches level then { l with files := append name (fileLine time r ++ "\n") l.files }
    else l

/-- A record at a time; one below the level goes nowhere. -/
def log (l : Logging) (time : String) (r : Record) : Logging :=
  if r.level.reaches (l.level.getD .warning) then l.handlers.foldl (handle time r) l else l

end Logging

/-- What is done with the logger. -/
inductive LoggingStep
  | configure (stream : String) (verbose : Bool) (file : Option String)
  | reset
  | addHost (stream : String)
  | log (time : String) (record : Record)

/-- Do a step. -/
def Logging.step (l : Logging) : LoggingStep → Logging
  | .configure stream verbose file => l.configure stream verbose file
  | .reset => l.reset
  | .addHost stream => l.addHost stream
  | .log time record => l.log time record

end Landmarks
