import Landmarks.Encoding.Detect
import Landmarks.Flags
import Landmarks.Json.Reader
import Landmarks.Text.Search

/-!
# Scan requests

* `ScanRequest` : a text, what is known of its language, and changes to the flags for this request.
* `Issue` : what is wrong with a request, where, and the value that it is about.
* `ScanRequest.ofJson` : the request that a value is, or all its issues in the order of the fields.
* `ScanRequest.ofBody` : the request that the bytes of a body hold.
-/

namespace Landmarks.Service

/-- What can be wrong with a value. -/
inductive IssueKind
  | missing
  | notJson
  | notObject
  | notString
  | notText
  | notBoolean
  | noBooleanWord
  deriving DecidableEq, Repr

/-- The name of a kind of issue. -/
def IssueKind.name : IssueKind → String
  | missing => "missing"
  | notJson => "json_invalid"
  | notObject => "model_attributes_type"
  | notString => "string_type"
  | notText => "string_unicode"
  | notBoolean => "bool_type"
  | noBooleanWord => "bool_parsing"

/-- Something wrong at a place in a request, and the value that it is about. -/
structure Issue where
  kind : IssueKind
  place : List String
  value : Json
  deriving Repr

/-- Why a body holds no request: it cannot be read at all, or there are issues. -/
inductive BodyError
  | unreadable
  | invalid (issues : List Issue)
  deriving Repr

/-- What to scan. -/
structure ScanRequest where
  text : String
  language : Option String := none
  path : Option String := none
  overrides : List (Flag × Bool) := []

/-- The words for a truth value, in lower case. -/
def booleanWords : Bool → List String
  | true => ["1", "on", "t", "true", "y", "yes"]
  | false => ["0", "off", "f", "false", "n", "no"]

/-- The truth value that a word denotes; letter case does not matter. -/
def booleanOfWord? (s : String) : Option Bool :=
  let word := s.toList.map Char.toLower
  [true, false].find? fun b => Text.isAny (booleanWords b) word

/-- The truth value that an integer denotes. -/
def booleanOfInt? (i : Int) : Option Bool :=
  if i == 0 then some false else if i == 1 then some true else none

/-- Whether an integer fits into 64 bits. -/
def fits64 (i : Int) : Bool := -0x8000000000000000 ≤ i && i < 0x8000000000000000

/-- Whether an integer lies strictly between the bounds of 64 bits. -/
def isWithin64 (i : Int) : Bool := i.natAbs < 0x8000000000000000

/-- The truth value of a flag; null leaves it alone. -/
def readBoolean : Json → Except IssueKind (Option Bool)
  | .null => .ok none
  | .bool b => .ok (some b)
  | .str s =>
    match s.text? with
    | none => .error .notText
    | some word =>
      match booleanOfWord? word with
      | some b => .ok (some b)
      | none => .error .noBooleanWord
  | .int i =>
    match booleanOfInt? i with
    | some b => .ok (some b)
    | none => .error (if fits64 i then .noBooleanWord else .notBoolean)
  | .float x =>
    match x.toInt? with
    | some i =>
      match booleanOfInt? i with
      | some b => .ok (some b)
      | none => .error (if isWithin64 i then .noBooleanWord else .notBoolean)
    | none => .error .notBoolean
  | .arr _ | .obj _ => .error .notBoolean

/-- The value of a field that must be a string, without halves of pairs. -/
def readString (field : String) (value : Json) : Except (List Issue) String :=
  match value with
  | .str s =>
    match s.text? with
    | some text => .ok text
    | none => .error [⟨.notText, ["body", field], value⟩]
  | _ => .error [⟨.notString, ["body", field], value⟩]

/-- A field that must hold a string. -/
def readText (j : Json) (field : String) : Except (List Issue) String :=
  match j.get? field with
  | none => .error [⟨.missing, ["body", field], j⟩]
  | some value => readString field value

/-- A field that may hold a string. -/
def readOptionalText (j : Json) (field : String) : Except (List Issue) (Option String) :=
  match j.get? field with
  | none | some .null => .ok none
  | some value => (readString field value).map some

/-- Both values, or the issues of both. -/
def both {α β : Type} (a : Except (List Issue) α) (b : Except (List Issue) β) :
    Except (List Issue) (α × β) :=
  match a, b with
  | .ok a, .ok b => .ok (a, b)
  | .error xs, .ok _ => .error xs
  | .ok _, .error ys => .error ys
  | .error xs, .error ys => .error (xs ++ ys)

/-- One flag of a request, as a list of at most one change. -/
def readFlag (j : Json) (f : Flag) : Except (List Issue) (List (Flag × Bool)) :=
  match j.get? f.name with
  | none => .ok []
  | some value =>
    match readBoolean value with
    | .ok b => .ok (b.toList.map fun b => (f, b))
    | .error kind => .error [⟨kind, ["body", "flags", f.name], value⟩]

/-- Some flags of a request. -/
def readFlagList (j : Json) : List Flag → Except (List Issue) (List (Flag × Bool))
  | [] => .ok []
  | f :: fs => (both (readFlag j f) (readFlagList j fs)).map fun r => r.1 ++ r.2

/-- The flags of a request; all fields with other names are left alone. -/
def readOverrides (j : Json) : Except (List Issue) (List (Flag × Bool)) :=
  match j.get? "flags" with
  | none | some .null => .ok []
  | some (.obj fields) => readFlagList (.obj fields) Flag.all
  | some v => .error [⟨.notObject, ["body", "flags"], v⟩]

namespace ScanRequest

/-- The request that a value is. -/
def ofJson (j : Json) : Except (List Issue) ScanRequest :=
  match j with
  | .obj _ => do
    let fields := both (readText j "text") (both (readOptionalText j "language")
      (both (readOptionalText j "path") (readOverrides j)))
    let (text, language, path, overrides) ← fields
    return { text, language, path, overrides }
  | _ => .error [⟨.notObject, ["body"], j⟩]

/-- The request that the bytes of a body hold. -/
def ofBody (body : List Utf8.Byte) : Except BodyError ScanRequest :=
  if body.isEmpty then .error (.invalid [⟨.missing, ["body"], .null⟩])
  else
    match Encoding.decodeDetected? body with
    | none => .error .unreadable
    | some cs =>
      match Json.parse cs with
      | .ok j => (ofJson j).mapError .invalid
      | .error .malformed => .error (.invalid [⟨.notJson, ["body"], .obj []⟩])
      | .error (.longInteger _) => .error .unreadable

end ScanRequest

end Landmarks.Service
