import Landmarks.Flags
import Landmarks.Language
import Landmarks.Named

/-!
# Commands and their options

* `Opt` : the options, each with its spellings.
* `Command` : what the program can be asked to do.
* `Grammar` : the options that may be given at some point, and what is expected besides them.
* `UsageError` : what can be wrong with the words of a command line.
-/

namespace Landmarks.CommandLine

open Text (quoteString)

/-- The options. A flag has two spellings, which set it and clear it. -/
inductive Opt
  | help
  | verbose
  | config
  | language
  | json
  | flag (f : Flag)
  | set
  | host
  | port
  deriving DecidableEq, Repr

/-- The word for a flag in its option. -/
def flagWord : Flag → String
  | .headers => "headers"
  | .functions => "functions"
  | .classes => "classes"
  | .accessSpecifiers => "access-specifiers"
  | .shortenAccessSpecifiers => "shorten-access-specifiers"

namespace Opt

/-- All spellings of an option. -/
def names : Opt → List String
  | help => ["-h", "--help"]
  | verbose => ["-v", "--verbose"]
  | config => ["--config"]
  | language => ["--language"]
  | json => ["--json"]
  | flag f => ["--" ++ flagWord f, "--no-" ++ flagWord f]
  | set => ["--set"]
  | host => ["--host"]
  | port => ["--port"]

/-- Whether an option comes with a value. -/
def takesValue : Opt → Bool
  | help | verbose | json | flag _ => false
  | config | language | set | host | port => true

/-- An option as messages name it. -/
def title (o : Opt) : String := String.intercalate "/" o.names

end Opt

/-- What is expected besides options: nothing, paths that stand together, or a command, to which all
that follows belongs. -/
inductive Operands
  | none
  | paths
  | command
  deriving DecidableEq, Repr

/-- What must not be missing. -/
def Operands.title? : Operands → Option String
  | none => Option.none
  | paths => some "paths"
  | command => some "command"

/-- What the words of a command line may be. -/
structure Grammar where
  options : List Opt
  operands : Operands

/-- What the program can be asked to do. -/
inductive Command
  | scan
  | settings
  | serve
  deriving DecidableEq, Repr

/-- The name of the program. -/
def programName : String := "scrollmarks"

namespace Command

/-- All commands. -/
def all : List Command := [scan, settings, serve]

/-- The name of a command. -/
def name : Command → String
  | scan => "scan"
  | settings => "settings"
  | serve => "serve"

/-- The command of a name. -/
def ofName? (s : String) : Option Command := all.find? fun c => c.name == s

/-- The program and the command, as messages name them. -/
def title (c : Command) : String := programName ++ " " ++ c.name

/-- What may follow a command. -/
def grammar : Command → Grammar
  | scan => ⟨[.help, .verbose, .config, .language, .json] ++ Flag.all.map .flag, .paths⟩
  | settings => ⟨[.help, .verbose, .config, .set], .none⟩
  | serve => ⟨[.help, .verbose, .config, .host, .port], .none⟩

end Command

/-- What may stand before a command. -/
def programGrammar : Grammar := ⟨[.help, .verbose], .command⟩

/-- What is wrong with a command line. -/
inductive UsageError
  | ambiguous (word : String) (options : List String)
  | ignoredValue (option : Opt) (value : String)
  | missingValue (option : Opt)
  | unknownLanguage (value : String)
  | unknownCommand (value : String)
  | notInteger (option : Opt) (value : String)
  | missingOperands (what : String)
  | unrecognized (words : List String)
  deriving DecidableEq, Repr

namespace UsageError

/-- What is said of a value that is not among the allowed ones. -/
def choiceText (value : String) (allowed : List String) : String :=
  "invalid choice: " ++ quoteString value ++ " (choose from " ++
    String.intercalate ", " (allowed.map quoteString) ++ ")"

/-- What is said of an argument. -/
def about (argument text : String) : String := "argument " ++ argument ++ ": " ++ text

/-- What is said of an error. -/
def message : UsageError → String
  | ambiguous word options =>
    "ambiguous option: " ++ word ++ " could match " ++ String.intercalate ", " options
  | ignoredValue o value => about o.title ("ignored explicit argument " ++ quoteString value)
  | missingValue o => about o.title "expected one argument"
  | unknownLanguage value =>
    about (Opt.title .language) (choiceText value (Mode.all.map Mode.name))
  | unknownCommand value => about "command" (choiceText value (Command.all.map Command.name))
  | notInteger o value => about o.title ("invalid int value: " ++ quoteString value)
  | missingOperands what => "the following arguments are required: " ++ what
  | unrecognized words => "unrecognized arguments: " ++ String.intercalate " " words

end UsageError

end Landmarks.CommandLine
