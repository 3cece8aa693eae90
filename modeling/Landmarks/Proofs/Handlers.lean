import Landmarks.Logging
import Mathlib.Data.List.Induction
import Mathlib.Data.List.Perm.Basic

/-!
# Who receives log records

The command line and the host share one list of handlers. Whatever order they come in, the command line
takes back only what it installed itself, and a record is written once for each handler that stands.

* `Setup`, `standing?` : what the command line asked for last, unless a reset followed.
* `Handler.writes` : what a handler writes of a record, and where (`Destination`).
* `LoggingStep.due` : what a step has to write, said without the list of handlers.
* `Logging.Tracks` : the handlers are those of the host and of the standing set-up; every step keeps it so.
* `Logging.run_handlers` : the handlers after every run, and what any further step writes.
-/

namespace Landmarks

/-- What the command line asks of the logger. -/
structure Setup where
  stream : String
  verbose : Bool
  file : Option String

namespace Setup

/-- The level from which records are let through. -/
def level (u : Setup) : Level := consoleLevel u.verbose

/-- The handlers of a set-up: the console, and the file if there is one. -/
def handlers (u : Setup) : List Handler :=
  .console u.stream u.level :: u.file.toList.map (.file · u.level)

end Setup

/-- A place that texts are written to. -/
inductive Destination
  | stream (name : String)
  | file (name : String)
  deriving DecidableEq

/-- All that is written to one place, in order. -/
def writtenTo (d : Destination) (writes : List (Destination × String)) : String :=
  String.join ((writes.filter (·.1 == d)).map (·.2))

namespace LoggingStep

/-- The stream of the handler that the host adds. -/
def host? : LoggingStep → Option String
  | .addHost stream => some stream
  | _ => none

/-- Whether a step is one of the command line that changes its handlers. -/
def setsUp : LoggingStep → Bool
  | .configure _ _ _ | .reset => true
  | .addHost _ | .log _ _ => false

/-- What the command line asks for. -/
def setup? : LoggingStep → Option Setup
  | .configure stream verbose file => some { stream, verbose, file }
  | _ => none

/-- What a step has to write, given the streams of the host's handlers and the set-up that stands: a
record of sufficient level, once for each handler of the host, once on the console and once in the file. -/
def due (hosts : List String) (setup : Option Setup) : LoggingStep → List (Destination × String)
  | .log time r =>
    if r.level.reaches (setup.elim .warning Setup.level) then
      hosts.map (fun s => (.stream s, r.message ++ "\n")) ++ setup.toList.flatMap fun u =>
        (.stream u.stream, consoleLine r ++ "\n") ::
          u.file.toList.map fun f => (.file f, fileLine time r ++ "\n")
    else []
  | _ => []

end LoggingStep

/-- The streams of the handlers that the host adds in a run, in order. -/
def hostStreams (steps : List LoggingStep) : List String := steps.filterMap LoggingStep.host?

/-- What the command line asked for last in a run, unless a reset followed. -/
def standing? (steps : List LoggingStep) : Option Setup :=
  (steps.reverse.find? LoggingStep.setsUp).bind LoggingStep.setup?

theorem standing?_concat (steps : List LoggingStep) (step : LoggingStep) :
    standing? (steps ++ [step]) = if step.setsUp then step.setup? else standing? steps := by
  rw [standing?, List.reverse_concat, List.find?_cons]
  by_cases h : step.setsUp = true <;> simp [h, standing?]

theorem hostStreams_concat (steps : List LoggingStep) (step : LoggingStep) :
    hostStreams (steps ++ [step]) = hostStreams steps ++ step.host?.toList := by
  rw [hostStreams, List.filterMap_append, hostStreams]
  cases step <;> rfl

theorem writtenTo_append (d : Destination) (a b : List (Destination × String)) :
    writtenTo d (a ++ b) = writtenTo d a ++ writtenTo d b := by
  simp [writtenTo]

theorem writtenTo_nil (d : Destination) : writtenTo d [] = "" := rfl

theorem writtenTo_singleton (d e : Destination) (text : String) :
    writtenTo d [(e, text)] = if e = d then text else "" := by
  by_cases h : e = d <;> simp [writtenTo, h]

/-- What a handler writes of a record that reaches it. -/
def Handler.writes (time : String) (r : Record) : Handler → List (Destination × String)
  | .null => []
  | .host stream => [(.stream stream, r.message ++ "\n")]
  | .console stream level =>
    if r.level.reaches level then [(.stream stream, consoleLine r ++ "\n")] else []
  | .file name level => if r.level.reaches level then [(.file name, fileLine time r ++ "\n")] else []

@[simp] theorem Handler.isInstalled_null : Handler.null.isInstalled = false := rfl

@[simp] theorem Handler.isInstalled_host (stream : String) : (Handler.host stream).isInstalled = false := rfl

@[simp] theorem Handler.isInstalled_console (stream : String) (level : Level) :
    (Handler.console stream level).isInstalled = true := rfl

@[simp] theorem Handler.isInstalled_file (name : String) (level : Level) :
    (Handler.file name level).isInstalled = true := rfl

namespace Logging

/-- All that has been written to a place. -/
def text (l : Logging) : Destination → String
  | .stream name => (Named.find? l.streams name).getD ""
  | .file name => (Named.find? l.files name).getD ""

/-- A logger after some steps. -/
def run (l : Logging) (steps : List LoggingStep) : Logging := steps.foldl Logging.step l

theorem run_concat (l : Logging) (steps : List LoggingStep) (step : LoggingStep) :
    l.run (steps ++ [step]) = (l.run steps).step step := by
  rw [run, List.foldl_concat, run]

/-! ## What is written -/

theorem getD_find?_append (name other added : String) (entries : Named String) :
    (Named.find? (append name added entries) other).getD "" =
      (Named.find? entries other).getD "" ++ if name = other then added else "" := by
  by_cases h : name = other
  · subst h
    simp [append]
  · rw [append, Named.find?_put_of_ne _ (Ne.symm h), if_neg h, String.append_empty]

theorem text_append_stream (l : Logging) (name added : String) (d : Destination) :
    text { l with streams := append name added l.streams } d =
      l.text d ++ writtenTo d [(.stream name, added)] := by
  cases d with
  | stream other => simp [text, getD_find?_append, writtenTo_singleton]
  | file other => simp [text, writtenTo_singleton]

theorem text_append_file (l : Logging) (name added : String) (d : Destination) :
    text { l with files := append name added l.files } d =
      l.text d ++ writtenTo d [(.file name, added)] := by
  cases d with
  | stream other => simp [text, writtenTo_singleton]
  | file other => simp [text, getD_find?_append, writtenTo_singleton]

theorem text_handle (time : String) (r : Record) (l : Logging) (h : Handler) (d : Destination) :
    (l.handle time r h).text d = l.text d ++ writtenTo d (h.writes time r) := by
  cases h with
  | null => simp [handle, Handler.writes, writtenTo_nil]
  | host stream => exact text_append_stream l stream _ d
  | console stream level =>
    rw [handle, Handler.writes]
    split
    · exact text_append_stream l stream _ d
    · simp [writtenTo_nil]
  | file name level =>
    rw [handle, Handler.writes]
    split
    · exact text_append_file l name _ d
    · simp [writtenTo_nil]

theorem text_foldl_handle (time : String) (r : Record) (d : Destination) (hs : List Handler) (l : Logging) :
    (hs.foldl (handle time r) l).text d = l.text d ++ writtenTo d (hs.flatMap (Handler.writes time r)) := by
  induction hs generalizing l with
  | nil => simp [writtenTo_nil]
  | cons h hs ih =>
    rw [List.foldl_cons, ih, text_handle, List.flatMap_cons, writtenTo_append, String.append_assoc]

theorem text_reset (l : Logging) (d : Destination) : l.reset.text d = l.text d := by
  cases d <;> rfl

theorem text_addHost (l : Logging) (stream : String) (d : Destination) :
    (l.addHost stream).text d = l.text d := by
  have happend := text_append_stream { l with handlers := l.handlers ++ [.host stream] } stream "" d
  rw [addHost, happend, writtenTo_singleton, ite_self, String.append_empty]
  rfl

theorem text_configure (l : Logging) (stream : String) (verbose : Bool) (file : Option String)
    (d : Destination) : (l.configure stream verbose file).text d = l.text d := by
  cases file <;> cases d <;> simp [configure, reset, text, getD_find?_append]

/-! ## Who stands in the list -/

theorem handle_handlers (time : String) (r : Record) (l : Logging) (h : Handler) :
    (l.handle time r h).handlers = l.handlers ∧ (l.handle time r h).level = l.level := by
  cases h with
  | null | host => exact ⟨rfl, rfl⟩
  | console | file =>
    rw [handle]
    split <;> exact ⟨rfl, rfl⟩

theorem log_handlers (l : Logging) (time : String) (r : Record) :
    (l.log time r).handlers = l.handlers ∧ (l.log time r).level = l.level := by
  rw [log]
  split
  · refine List.foldlRecOn (motive := fun m => m.handlers = l.handlers ∧ m.level = l.level)
      l.handlers (handle time r) ⟨rfl, rfl⟩ ?_
    intro m hm h _
    rw [(handle_handlers time r m h).1, (handle_handlers time r m h).2]
    exact hm
  · exact ⟨rfl, rfl⟩

/-- The handlers and the level of a logger are those of the host's streams and of a set-up. -/
structure Tracks (l : Logging) (hosts : List String) (setup : Option Setup) : Prop where
  level : l.level = setup.map Setup.level
  own : l.handlers.filter (!·.isInstalled) = .null :: hosts.map .host
  installed : l.handlers.filter (·.isInstalled) = setup.toList.flatMap Setup.handlers

namespace Tracks

variable {l : Logging} {hosts : List String} {setup : Option Setup}

theorem reset (h : Tracks l hosts setup) : Tracks l.reset hosts none where
  level := rfl
  own := by rw [← h.own]; simp [Logging.reset]
  installed := by simp [Logging.reset]

theorem configure (h : Tracks l hosts setup) (stream : String) (verbose : Bool) (file : Option String) :
    Tracks (l.configure stream verbose file) hosts (some { stream, verbose, file }) where
  level := rfl
  own := by
    rw [← h.reset.own]
    cases file <;> simp [Logging.configure]
  installed := by
    have hnone : l.reset.handlers.filter (·.isInstalled) = [] := h.reset.installed
    cases file <;>
      simp [Logging.configure, List.filter_append, hnone, Setup.handlers, Setup.level,
        -List.filter_eq_nil_iff]

theorem addHost (h : Tracks l hosts setup) (stream : String) :
    Tracks (l.addHost stream) (hosts ++ [stream]) setup where
  level := h.level
  own := by simp [Logging.addHost, h.own]
  installed := by simp [Logging.addHost, h.installed]

theorem log (h : Tracks l hosts setup) (time : String) (r : Record) : Tracks (l.log time r) hosts setup := by
  obtain ⟨hhandlers, hlevel⟩ := log_handlers l time r
  exact ⟨hlevel ▸ h.level, hhandlers ▸ h.own, hhandlers ▸ h.installed⟩

/-- The handlers of a set-up have its level, so they hold back no record that the logger lets through. -/
theorem writes_setup {r : Record} {u : Setup} (hr : r.level.reaches u.level = true) (time : String) :
    u.handlers.flatMap (Handler.writes time r) =
      (.stream u.stream, consoleLine r ++ "\n") ::
        u.file.toList.map fun f => (Destination.file f, fileLine time r ++ "\n") := by
  cases hfile : u.file <;> simp [Setup.handlers, Handler.writes, hr, hfile]

/-- The level that a record has to reach, with a set-up or without one. -/
theorem threshold (h : Tracks l hosts setup) : l.level.getD .warning = setup.elim .warning Setup.level := by
  rw [h.level]
  cases setup <;> rfl

/-- What the handlers write of a record is what is due, in the order of the list. -/
theorem perm_due (h : Tracks l hosts setup) (time : String) {r : Record}
    (hr : r.level.reaches (l.level.getD .warning) = true) :
    (l.handlers.flatMap (Handler.writes time r)).Perm (LoggingStep.due hosts setup (.log time r)) := by
  rw [h.threshold] at hr
  have hhosts : (Handler.null :: hosts.map .host).flatMap (Handler.writes time r) =
      hosts.map fun s => (Destination.stream s, r.message ++ "\n") := by
    rw [List.flatMap_cons, List.flatMap_map, List.map_eq_flatMap]
    rfl
  have hsetup : (setup.toList.flatMap Setup.handlers).flatMap (Handler.writes time r) =
      setup.toList.flatMap fun u => (.stream u.stream, consoleLine r ++ "\n") ::
        u.file.toList.map fun f => (Destination.file f, fileLine time r ++ "\n") := by
    cases setup with
    | none => rfl
    | some u => simpa using writes_setup hr time
  have hsplit := (List.filter_append_perm (!·.isInstalled) l.handlers).symm.flatMap_right (Handler.writes time r)
  simp only [Bool.not_not] at hsplit
  rw [List.flatMap_append, h.own, h.installed, hhosts, hsetup] at hsplit
  rw [LoggingStep.due, if_pos hr]
  exact hsplit

/-- A step keeps the account, and writes what is due by it and nothing else. -/
theorem step (h : Tracks l hosts setup) (s : LoggingStep) :
    Tracks (l.step s) (hosts ++ s.host?.toList) (if s.setsUp then s.setup? else setup) ∧
      ∃ written, written.Perm (s.due hosts setup) ∧ ∀ d, (l.step s).text d = l.text d ++ writtenTo d written := by
  have hsilent : ∀ {l' : Logging}, (∀ d, l'.text d = l.text d) →
      ∃ written : List (Destination × String), written.Perm [] ∧
        ∀ d, l'.text d = l.text d ++ writtenTo d written := by
    intro l' hsame
    refine ⟨[], .nil, fun d => ?_⟩
    rw [hsame d, writtenTo_nil, String.append_empty]
  cases s with
  | configure stream verbose file =>
    refine ⟨?_, hsilent (text_configure l stream verbose file)⟩
    show Tracks (l.configure stream verbose file) (hosts ++ []) _
    rw [List.append_nil]
    exact h.configure stream verbose file
  | reset =>
    refine ⟨?_, hsilent (text_reset l)⟩
    show Tracks l.reset (hosts ++ []) _
    rw [List.append_nil]
    exact h.reset
  | addHost stream => exact ⟨h.addHost stream, hsilent (text_addHost l stream)⟩
  | log time r =>
    constructor
    · show Tracks (l.log time r) (hosts ++ []) setup
      rw [List.append_nil]
      exact h.log time r
    · by_cases hr : r.level.reaches (l.level.getD .warning) = true
      · refine ⟨_, h.perm_due time hr, fun d => ?_⟩
        rw [Logging.step, Logging.log, if_pos hr, text_foldl_handle]
      · rw [Logging.step, Logging.log, if_neg hr, LoggingStep.due, ← h.threshold, if_neg hr]
        exact hsilent fun _ => rfl

theorem run (streams files : Named String) (steps : List LoggingStep) :
    Tracks (Logging.run { streams, files } steps) (hostStreams steps) (standing? steps) := by
  induction steps using List.reverseRecOn with
  | nil => exact ⟨rfl, rfl, rfl⟩
  | append_singleton steps step ih =>
    rw [run_concat, hostStreams_concat, standing?_concat]
    exact (ih.step step).1

end Tracks

end Logging

end Landmarks
