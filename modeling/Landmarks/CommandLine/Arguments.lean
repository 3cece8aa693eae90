import Landmarks.CommandLine.Word

/-!
# Reading a command line

* `Arguments` : what the options say.
* `readWords` : the words that follow the program or a command, read from left to right.
* `Invocation.parse` : a command with its arguments.
-/

namespace Landmarks.CommandLine

/-- What the options of a command say; of several for one thing, the last counts. An option whose value
is the divider is given without a value. -/
structure Arguments where
  verbose : Bool := false
  config : Option String := some "."
  language : Option Mode := none
  json : Bool := false
  overrides : List (Flag × Bool) := []
  assignments : List (Option String) := []
  host : Option String := some "127.0.0.1"
  port : Option Int := some 8000

/-- Why a command line leads to no command: it asks for help, or it is wrong. The title says who
noticed it. -/
inductive Refusal
  | help (title : String) (grammar : Grammar)
  | usage (title : String) (error : UsageError)

/-- Why some words cannot be read. -/
inductive Halt
  | help
  | usage (error : UsageError)

/-- The value of an option in its word; the divider is none. -/
def valueOf? (text : String) : Option String := if text == Word.divider.text then none else some text

/-- With an option under one of its names; options that take no value ignore it. -/
def Arguments.give (a : Arguments) (o : Opt) (name : String) (value : Option String) :
    Except Halt Arguments :=
  match o with
  | .help => .error .help
  | .verbose => .ok { a with verbose := true }
  | .config => .ok { a with config := value }
  | .language =>
    match value with
    | none => .ok { a with language := none }
    | some word =>
      match Mode.all.find? fun m => m.name == word with
      | some m => .ok { a with language := some m }
      | none => .error (.usage (.unknownLanguage word))
  | .json => .ok { a with json := true }
  | .flag f => .ok { a with overrides := a.overrides ++ [(f, name == "--" ++ flagWord f)] }
  | .set => .ok { a with assignments := a.assignments ++ [value] }
  | .host => .ok { a with host := value }
  | .port =>
    match value with
    | none => .ok { a with port := none }
    | some word =>
      match Number.readInteger 10 word.toList with
      | .ok i => .ok { a with port := some i }
      | .error _ => .error (.usage (.notInteger .port word))

/-- What was read so far: the operands, once there are any, and the words that have no place. -/
structure Reading where
  arguments : Arguments
  operands : Option (List String) := none
  extras : List String := []

namespace Reading

/-- With an option. -/
def give (r : Reading) (o : Opt) (name : String) (value : Option String) : Except Halt Reading := do
  return { r with arguments := ← r.arguments.give o name value }

/-- With options that have no value. -/
def giveAll (r : Reading) (flags : List (Opt × String)) : Except Halt Reading :=
  flags.foldlM (fun r (o, name) => r.give o name none) r

/-- With words that stand together between options. The first such words are the paths, less the
divider, if paths are expected; others have no place. -/
def place (r : Reading) (operands : Operands) (run : List Word) : Reading :=
  let isOperand : Word → Bool
    | .operand _ => true
    | _ => false
  if operands == .paths && r.operands.isNone && run.any isOperand then
    { r with operands := some ((run.filter isOperand).map Word.text) }
  else { r with extras := r.extras ++ run.map Word.text }

end Reading

/-- The options in a word. -/
def optionsOf (g : Grammar) (o : Opt) (name : String) (attached : Option (List Char)) :
    Except Halt (List (Opt × String) × Ending) :=
  match attached with
  | none => .ok ([], .last o name)
  | some a =>
    match unbundle g.options o name a with
    | .ok r => .ok r
    | .error e => .error (.usage e)

/-- Read words from left to right; `run` are the words since the last option. -/
def readFrom (g : Grammar) (run : List Word) (r : Reading) : List Word → Except Halt Reading
  | [] => .ok (r.place g.operands run)
  | .operand text :: words =>
    if g.operands == .command then
      .ok { r with operands := some (text :: words.map Word.text) }
    else readFrom g (run ++ [.operand text]) r words
  | .divider :: words =>
    if g.operands == .command && !words.isEmpty then
      .ok { r with operands := some (Word.divider.text :: words.map Word.text) }
    else readFrom g (run ++ [.divider]) r words
  | .unknown text :: words =>
    let r := r.place g.operands run
    readFrom g [] { r with extras := r.extras ++ [text] } words
  | .option _ o name attached :: words => do
    let r := r.place g.operands run
    let (flags, ending) ← optionsOf g o name attached
    match ending with
    | .valued o name value =>
      let r ← r.giveAll flags
      readFrom g [] (← r.give o name (valueOf? value)) words
    | .last o name =>
      if o.takesValue then
        match words with
        | .operand value :: words =>
          let r ← r.giveAll flags
          readFrom g [] (← r.give o name (some value)) words
        | _ => .error (.usage (.missingValue o))
      else
        let r ← r.giveAll flags
        readFrom g [] (← r.give o name none) words

/-- Read the words that follow the program or a command. -/
def readWords (g : Grammar) (start : Arguments) (argv : List String) : Except Halt Reading := do
  let words ← match classifyAll g.options argv with
    | .ok words => .ok words
    | .error e => .error (.usage e)
  let r ← readFrom g [] { arguments := start } words
  match g.operands.title?, r.operands with
  | some what, none => .error (.usage (.missingOperands what))
  | _, _ => .ok r

/-- A halt that someone noticed. -/
def Halt.refuse (title : String) (g : Grammar) : Halt → Refusal
  | help => .help title g
  | usage e => .usage title e

/-- What the program is asked to do. -/
structure Invocation where
  command : Command
  arguments : Arguments
  paths : List String

namespace Invocation

/-- Read a command line. -/
def parse (argv : List String) : Except Refusal Invocation := do
  let outer ← (readWords programGrammar {} argv).mapError (Halt.refuse programName programGrammar)
  match outer.operands.getD [] with
  | [] => .error (.usage programName (.missingOperands "command"))
  | word :: words =>
    match Command.ofName? word with
    | none => .error (.usage programName (.unknownCommand word))
    | some command =>
      let inner ← (readWords command.grammar outer.arguments words).mapError
        (Halt.refuse command.title command.grammar)
      match outer.extras ++ inner.extras with
      | [] => .ok { command, arguments := inner.arguments, paths := inner.operands.getD [] }
      | extras => .error (.usage programName (.unrecognized extras))

end Invocation

end Landmarks.CommandLine
