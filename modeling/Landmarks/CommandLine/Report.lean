import Landmarks.CommandLine.Options
import Landmarks.Flags
import Landmarks.Json.Printer
import Landmarks.Marker.Json

/-!
# What the commands print

* `row` : a marker as a row of a table: its line, its kind and its name in columns.
* `table`, `jsonText` : the markers of some files.
* `flagLines` : the flags, one a line; `helpText` : a summary of the options.
-/

namespace Landmarks.CommandLine

/-- The markers of files, each file once. -/
abbrev Results := Named (List Marker)

/-- Blanks before a text up to a width. -/
def padLeft (width : Nat) (cs : List Char) : List Char :=
  List.replicate (width - cs.length) ' ' ++ cs

/-- Blanks behind a text up to a width. -/
def padRight (width : Nat) (cs : List Char) : List Char :=
  cs ++ List.replicate (width - cs.length) ' '

/-- A marker as a row: six columns for the line, two blanks, sixteen columns for the kind, a blank and
the name. -/
def row (m : Marker) : List Char :=
  padLeft 6 (toString m.line).toList ++ [' ', ' '] ++ padRight 16 m.kind.name.toList ++ [' '] ++ m.name

/-- The rows of some markers, each ended by a line feed. -/
def rows (ms : List Marker) : List Char := ms.flatMap fun m => row m ++ ['\n']

/-- The markers of files as a table. If there are several files, each has its name above its rows. -/
def table (results : Results) : List Char :=
  results.flatMap fun (file, ms) =>
    (if 1 < results.length then file.toList ++ [':', '\n'] else []) ++ rows ms

/-- The markers of files as a JSON object. -/
def jsonText (results : Results) : List Char :=
  let fields := results.map fun (file, ms) => (file, Json.arr (ms.map Marker.toJson))
  (Json.obj fields).pretty.toList ++ ['\n']

/-- The help for the program or a command: the options, and what is expected besides them. -/
def helpText (title : String) (g : Grammar) : List Char :=
  let option (o : Opt) : String :=
    " [" ++ o.title ++ (if o.takesValue then " VALUE]" else "]")
  let operands := (g.operands.title?.toList).map fun what => " " ++ what
  ("usage: " ++ title ++ String.join (g.options.map option ++ operands) ++ "\n").toList

/-- The flags, one a line. -/
def flagLines (flags : Flags) : List Char :=
  flags.toList.flatMap fun (f, b) =>
    f.name.toList ++ " = ".toList ++ (if b then "true" else "false").toList ++ ['\n']

end Landmarks.CommandLine
