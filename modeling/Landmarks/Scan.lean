import Landmarks.Document
import Landmarks.Log
import Landmarks.Rule.Chain

/-!
# Scanning

* `Feed` : lines as they arrive; the supply may break off.
* `scanWith` : the markers of a feed by the given rules, and the log of the scan. A line whose
  classification fails is skipped, and a broken feed ends the scan with what it gave.
* `scan` : the markers of a document by the rules of a language.
-/

namespace Landmarks

/-- Lines in order, and the failure that comes after them, if the supply breaks off. -/
structure Feed where
  lines : List Line
  broken : Option Fault := none

/-- The lines of a document. -/
def Document.feed (d : Document) : Feed := { lines := d.lines }

/-- The markers of some lines, and a warning for each line whose classification failed. -/
def scanLines (rules : List Rule) (flags : Flags) : List Line → List Marker × List Record
  | [] => ([], [])
  | l :: rest =>
    match scanLines rules flags rest with
    | (markers, log) =>
      match classifyWith rules flags l.text with
      | .ok (some m) => ({ m with offset := l.start, line := l.number } :: markers, log)
      | .ok none => (markers, log)
      | .error fault =>
        (markers, .warning "pipeline" s!"Skipping line {l.number}: {fault.message}" :: log)

/-- The record that ends a scan. -/
def scanSummary (mode : Mode) (broken : Option Fault) (count : Nat) : Record :=
  match broken with
  | some fault =>
    let text := fault.message
    .warning "pipeline" s!"Scan aborted after {count} markers: {text}"
  | none =>
    let name := mode.name
    .debug "pipeline" s!"Scan produced {count} markers ({name})"

/-- The markers of a feed and the log of the scan. -/
def scanWith (rules : List Rule) (mode : Mode) (feed : Feed) (flags : Flags) :
    List Marker × List Record :=
  match scanLines rules flags feed.lines with
  | (markers, log) => (markers, log ++ [scanSummary mode feed.broken markers.length])

/-- The markers of a document and the log of the scan. -/
def Document.scan (d : Document) (mode : Mode) (flags : Flags) : List Marker × List Record :=
  scanWith mode.rules mode d.feed flags

/-- The markers of a text. -/
def scan (mode : Mode) (flags : Flags) (text : List Char) : List Marker :=
  ((Document.ofText text).scan mode flags).1

end Landmarks
