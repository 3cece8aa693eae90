import Landmarks.Named
import Landmarks.Text.Quoted
import Landmarks.Text.YesNo

/-!
# Assignments

* `Assignment.parseAll` : assignments `name=value` of truth values to names; of several to one name
  the last counts.
-/

namespace Landmarks

open Text

/-- Why a text is no assignment. -/
inductive AssignmentError
  | missing
  | noEquals (text : List Char)
  | notBoolean (name value : List Char)
  deriving DecidableEq, Repr

/-- What is said of a text that is no assignment. -/
def AssignmentError.message : AssignmentError → String
  | missing => "Expected NAME=VALUE, got []"
  | noEquals text => "Expected NAME=VALUE, got " ++ String.ofList (quote text)
  | notBoolean name value =>
    "Setting " ++ String.ofList name ++ " expects a boolean, got " ++ String.ofList (quote value)

namespace Assignment

/-- One assignment. -/
def parse (cs : List Char) : Except AssignmentError (String × Bool) :=
  if cs.contains '=' then
    let name := trim (cs.takeWhile (· != '='))
    let value := (cs.dropWhile (· != '=')).drop 1
    match yesNo? value with
    | some b => .ok (String.ofList name, b)
    | none => .error (.notBoolean name value)
  else .error (.noEquals cs)

/-- One assignment, which must be given. -/
def parseGiven : Option (List Char) → Except AssignmentError (String × Bool)
  | some cs => parse cs
  | none => .error .missing

/-- All assignments, or the first error. -/
def parseAll (texts : List (Option (List Char))) : Except AssignmentError (Named Bool) := do
  let assignments ← texts.mapM parseGiven
  return assignments.foldl (fun acc a => Named.put a.1 a.2 acc) []

end Assignment

end Landmarks
