/-!
# Log records

* `Level` : how much a record matters.
* `Record` : a level, the name of the part that speaks, and what it says.
-/

namespace Landmarks

/-- How much a record matters, from the least on. -/
inductive Level
  | debug
  | info
  | warning
  | error
  | critical
  deriving DecidableEq, Repr

namespace Level

/-- The name of a level. -/
def name : Level → String
  | debug => "DEBUG"
  | info => "INFO"
  | warning => "WARNING"
  | error => "ERROR"
  | critical => "CRITICAL"

/-- The weight of a level. -/
def weight : Level → Nat
  | debug => 10
  | info => 20
  | warning => 30
  | error => 40
  | critical => 50

/-- Whether a level is at least another. -/
def reaches (l least : Level) : Bool := least.weight ≤ l.weight

end Level

/-- The name of the package, from which all names of loggers start. -/
def packageName : String := "scrollmarks"

/-- The full name of the logger of a part; the package's own for no part. -/
def loggerName (part : String) : String :=
  if part.isEmpty then packageName else packageName ++ "." ++ part

/-- One message to the log. -/
structure Record where
  level : Level
  logger : String
  message : String
  deriving DecidableEq, Repr

namespace Record

/-- A debugging message of a part. -/
def debug (part message : String) : Record := ⟨.debug, loggerName part, message⟩

/-- An informative message of a part. -/
def info (part message : String) : Record := ⟨.info, loggerName part, message⟩

/-- A warning of a part. -/
def warning (part message : String) : Record := ⟨.warning, loggerName part, message⟩

end Record

end Landmarks
