/-!
# Failures

* `Fault` : a failure, with its text.
* `maxDepth` : how deep calls may be nested; `Fault.tooDeep` is the failure of those that go deeper.
-/

namespace Landmarks

/-- A failure of something that the library was given, or of the library itself where it runs out of room. -/
structure Fault where
  message : String
  deriving DecidableEq, Repr

/-- How deep calls may be nested. -/
def maxDepth : Nat := 1000

/-- The failure of calls that are nested too deep. -/
def Fault.tooDeep : Fault := ⟨"maximum recursion depth exceeded"⟩

end Landmarks
