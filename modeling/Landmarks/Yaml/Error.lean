import Landmarks.Number.Integer
import Landmarks.Text.Quoted

/-!
# What can be wrong with a YAML text

* `Yaml.Error` : a text that is no document, or a scalar that denotes no value of its type.
* `Yaml.Error.message` : what is said of the latter.
-/

namespace Landmarks.Yaml

/-- The part of a date or time that is out of range. -/
inductive DatePart
  | year (value : Nat)
  | month
  | day
  | hour
  | minute
  | second
  | offset (seconds : Int)
  deriving DecidableEq, Repr

/-- Why a text gives no value. -/
inductive Error
  | malformed
  | badCodePoint
  | overflow
  | badInteger (base : Nat) (text : List Char)
  | longNumeral (digits : Nat)
  | longInteger
  | badFloat (text : List Char)
  | badDate (part : DatePart)
  | badBool (text : List Char)
  | emptyNumber
  | noTimestamp
  | notText
  deriving DecidableEq, Repr

/-- A span of time as it is shown: whole days, and the seconds left. -/
def durationText (seconds : Int) : String :=
  let days := seconds / 86400
  let rest := seconds % 86400
  let parts :=
    (if days == 0 then [] else ["days=" ++ toString days]) ++
      (if rest == 0 then [] else ["seconds=" ++ toString rest])
  "datetime.timedelta(" ++ (if parts.isEmpty then "0" else String.intercalate ", " parts) ++ ")"

/-- What is said of a part of a date that is out of range. -/
def DatePart.message : DatePart → String
  | year value => "year " ++ toString value ++ " is out of range"
  | month => "month must be in 1..12"
  | day => "day is out of range for month"
  | hour => "hour must be in 0..23"
  | minute => "minute must be in 0..59"
  | second => "second must be in 0..59"
  | offset seconds =>
    "offset must be a timedelta strictly between -timedelta(hours=24) and timedelta(hours=24), not " ++
      durationText seconds ++ "."

/-- How much of a quoted numeral is shown. -/
def shownNumeral : Nat := 200

/-- What is said of a text that gives no value. -/
def Error.message : Error → String
  | malformed => "malformed document"
  | badCodePoint => "chr() arg not in range(0x110000)"
  | overflow => "number out of range"
  | badInteger base text =>
    "invalid literal for int() with base " ++ toString base ++ ": " ++
      String.ofList ((Text.quote text).take shownNumeral)
  | longNumeral digits => Number.longNumeralText digits
  | longInteger => Number.longIntegerText
  | badFloat text => "could not convert string to float: " ++ String.ofList (Text.quote text)
  | badDate part => part.message
  | badBool text => String.ofList (Text.quote text)
  | emptyNumber => "string index out of range"
  | noTimestamp => "no timestamp"
  | notText => "no text"

end Landmarks.Yaml
