import Landmarks.Json.Basic
import Landmarks.Marker

/-!
# Markers in JSON

* `Marker.toJson` : a marker as an object.
-/

namespace Landmarks

/-- A marker as an object. -/
def Marker.toJson (m : Marker) : Json :=
  .obj [("offset", .int m.offset), ("line", .int m.line), ("kind", .str m.kind.name),
    ("name", .str (String.ofList m.name))]

end Landmarks
