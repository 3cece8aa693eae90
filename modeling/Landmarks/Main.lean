import Landmarks.CommandLine.Run
import Landmarks.Service.Http

/-!
# The program

The files that a run may look at are gathered into a tree first, the run itself is
`CommandLine.run`, and a settings file that it changed is written back. The service takes requests
from standard input and replies on standard output.
-/

namespace Landmarks.Program

open CommandLine Service

/-- What is at a place on the disk; what cannot be read counts as missing. Directories are read to
the bottom if `deep`, except those that are never entered. -/
partial def readEntry (deep : Bool) (path : String) : IO (Option Entry) := do
  try
    let here ← IO.FS.realPath path
    if !(← here.isDir) then
      return some (.file (← IO.FS.readBinFile path).toList)
    let mut entries := []
    if deep then
      for e in ← here.readDir do
        unless excludedDirectories.contains e.fileName do
          if let some entry ← readEntry deep (path ++ "/" ++ e.fileName) then
            entries := (e.fileName, entry) :: entries
    return some (.directory entries)
  catch _ => return none

/-- With what is at a path and on the way to it. -/
def gather (deep : Bool) (files : Files) (p : Path) : IO Files := do
  let parts := (files.cwd.join p).parts
  let mut tree := files.tree
  for n in List.range (parts.length + 1) do
    let place := Path.dropUps (parts.take n)
    let last := n == parts.length
    if (tree.find? place).isNone || (deep && last) then
      match ← readEntry (deep && last) (Path.text ⟨"/", place⟩) with
      | some entry => tree := tree.put place entry
      | none => break
  return { files with tree }

/-- With what the configuration of a path depends on. -/
def gatherConfig (homes : String → Option String) (files : Files) (path : String) : IO Files := do
  match (Path.ofString path).expandHome homes with
  | .error _ => return files
  | .ok p =>
    let name : Path := ⟨"", [Config.fileName]⟩
    [p, p.join name, p.parent.join name].foldlM (gather false) files

/-- The settings file of a run. -/
def settingsFile? (host : Host) (a : Arguments) : Option Path :=
  match Config.load host (Path.ofString (a.config.getD ".")) with
  | .ok c => (c.settingsPath host).toOption
  | .error _ => none

/-- All files that a run may look at. -/
def gatherAll (homes : String → Option String) (cwd : Path) (i : Invocation) : IO Files := do
  let files ← gatherConfig homes ⟨.empty, cwd⟩ (i.arguments.config.getD ".")
  let files ← (settingsFile? ⟨files, homes⟩ i.arguments).toList.foldlM (gather false) files
  (i.paths.map Path.ofString).foldlM (gather true) files

/-- Write a file back if a run changed it. -/
def writeBack (before after : Files) (p : Path) : IO Unit := do
  match before.read p, after.read p with
  | .ok old, .ok new => unless old == new do write new
  | .error _, .ok new => write new
  | _, .error _ => return
where
  /-- Write a file with its directory made before. -/
  write (content : List UInt8) : IO Unit := do
    IO.FS.createDirAll p.parent.text
    IO.FS.writeBinFile p.text ⟨content.toArray⟩

/-- The lines before the body of a request. -/
partial def readHead (input : IO.FS.Stream) (lines : List String) : IO (List String) := do
  let line ← input.getLine
  if line.trimAscii.isEmpty then return lines.reverse
  readHead input (line :: lines)

/-- Reply to requests until the input ends. -/
partial def serve (app : App) (files : IO Files) (verbose : Bool) : IO Unit := do
  let input ← IO.getStdin
  let output ← IO.getStdout
  match Head.ofLines? (← readHead input []) with
  | none => return
  | some head =>
    let body := (← input.read head.length.toUSize).toList
    let (reply, log) := app.respond (← files) head.method head.target body
    output.putStr reply.message
    output.flush
    IO.eprint (consoleText verbose log)
    serve app files verbose

/-- The homes of users as far as they are known. -/
def homes : IO (String → Option String) := do
  let home ← IO.getEnv "HOME"
  return fun user => if user.isEmpty then home else none

/-- Run the program; the result is its status. -/
def execute (argv : List String) : IO UInt32 := do
  let homes ← homes
  let cwd := Path.ofString (← IO.currentDir).toString
  let before ← match Invocation.parse argv with
    | .ok i => gatherAll homes cwd i
    | .error _ => pure ⟨.empty, cwd⟩
  let o := run ⟨before, homes⟩ argv
  IO.print (String.ofList o.printed)
  IO.eprint o.messages
  match Invocation.parse argv, o.ending with
  | .ok i, .ok none =>
    (settingsFile? ⟨before, homes⟩ i.arguments).toList.forM (writeBack before o.files)
  | .ok i, .ok (some s) =>
    serve (.ofStore s.store s.csharp) (gatherAll homes cwd i) i.arguments.verbose
  | _, .error e => unless e.exit?.isSome do IO.eprintln e.failureText
  | _, _ => return 0
  return (o.status?.getD 1).toUInt32

end Landmarks.Program

/-- The entry point. -/
def main (argv : List String) : IO UInt32 := Landmarks.Program.execute argv
