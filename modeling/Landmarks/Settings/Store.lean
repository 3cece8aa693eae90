import Landmarks.Files
import Landmarks.Flags
import Landmarks.Json.Printer
import Landmarks.Json.Reader
import Landmarks.Log
import Landmarks.Yaml.Value

/-!
# The settings store

Flags are kept in a JSON file, which holds several named collections and may hold other data too.

* `Store` : a file, a collection in it, the flags now in force, and who listens to changes.
* `Store.load` : the stored flags; what is missing or unfit keeps its default.
* `Store.persist` : the file with the flags of the store written into it, all else kept.
* `checkChanges` : changes by name, all of which must be fit.
* `Store.subscribe`, `Store.unsubscribe` : the list of listeners.
-/

namespace Landmarks

open Yaml (Value)

/-- Why the file of a store cannot be read at all: its path has a null byte, its bytes are no text, or
it has an integer with too many digits. All other faults make it count as empty. -/
inductive ContentError
  | nullByte
  | encoding (error : Utf8.Error)
  | longInteger (digits : Nat)
  deriving DecidableEq, Repr

/-- What is said of a file that cannot be read at all. -/
def ContentError.message : ContentError → String
  | nullByte => FileError.nullByte.reason
  | encoding e => e.message
  | longInteger digits => Number.longNumeralText digits

/-- Why a change is refused. -/
inductive ChangeError
  | unknown (name : String)
  | notBoolean (name : String) (value : Json)

/-- What is said of a refused change. -/
def ChangeError.message : ChangeError → String
  | unknown name => "Unknown setting: " ++ name
  | notBoolean name value =>
    "Setting " ++ name ++ " expects a boolean, got " ++ (Value.ofJson value).literal

/-- One change by name. -/
def checkChange (change : String × Json) : Except ChangeError (Flag × Bool) :=
  match Flag.ofName? change.1 with
  | none => .error (.unknown change.1)
  | some flag =>
    match change.2 with
    | .bool b => .ok (flag, b)
    | value => .error (.notBoolean change.1 value)

/-- Changes by name, or the first that is unfit. -/
def checkChanges (changes : List (String × Json)) : Except ChangeError (List (Flag × Bool)) :=
  changes.mapM checkChange

/-- The flags as the fields of a JSON object. -/
def Flags.toJson (fs : Flags) : Json := .obj (fs.toList.map fun (f, b) => (f.name, .bool b))

/-- A store whose listeners are named by `ι`. Without a path it is kept in memory only. -/
structure Store (ι : Type) where
  path : Option Path
  collection : Str
  defaults : Flags
  flags : Flags
  listeners : List ι := []

namespace Store

variable {ι : Type}

/-- The version of the file's format. -/
def version : Int := 1

/-- Whether a value is the version; numbers are compared by value, and true counts as one. -/
def isVersion : Json → Bool
  | .int i => i == version
  | .bool b => b
  | .float x => x.toInt? == some version
  | _ => false

/-- What the file of a path holds, and what there is to say about it: nothing, unless it is an object
of the right version. -/
def payloadAt (files : Files) (path : Path) : Except ContentError (Json.Fields × List Record) :=
  let ignoring (what : String) : String := "Ignoring settings file " ++ path.text ++ what
  let unreadable : Record := .debug "settings" ("Unreadable settings file " ++ path.text)
  match files.readText path with
  | .error (.encoding e) => .error (.encoding e)
  | .error (.file .nullByte) => .error .nullByte
  | .error (.file .notFound) => .ok ([], [])
  | .error (.file _) => .ok ([], [unreadable])
  | .ok cs =>
    match Json.parse cs with
    | .error (.longInteger digits) => .error (.longInteger digits)
    | .error .malformed => .ok ([], [unreadable])
    | .ok (.obj fields) =>
      let found := (Named.find? fields "version").getD .null
      if isVersion found then .ok (fields, [])
      else
        let shown := (Value.ofJson found).literal
        let text := ignoring (" with version " ++ shown ++ "; saving will replace it")
        .ok ([], [.warning "settings" text])
    | .ok _ => .ok ([], [.warning "settings" (ignoring ": expected a JSON object")])

/-- What the file of a store holds. -/
def payload (files : Files) (st : Store ι) : Except ContentError (Json.Fields × List Record) :=
  match st.path with
  | none => .ok ([], [])
  | some path => payloadAt files path

/-- The fields of an object; other values have none. -/
def fieldsOf : Option Json → Json.Fields
  | some (.obj fields) => fields
  | _ => []

/-- One stored flag over the flags so far: it counts if it is a truth value. -/
def loadFlag (stored : Json.Fields) (acc : Flags × List Record) (f : Flag) : Flags × List Record :=
  match Named.find? stored f.name with
  | none => acc
  | some (.bool b) => (acc.1.set f b, acc.2)
  | some value =>
    let shown := (Value.ofJson value).literal
    let text := "Ignoring stored setting " ++ f.name ++ "=" ++ shown ++ " (expected a boolean)"
    (acc.1, acc.2 ++ [.warning "settings" text])

/-- The flags of a collection over the defaults. -/
def loadFrom (defaults : Flags) (collection : Str) (payload : Json.Fields) :
    Flags × List Record :=
  let stored := fieldsOf (Named.find? (fieldsOf (Named.find? payload "collections")) collection)
  Flag.all.foldl (loadFlag stored) (defaults, [])

/-- The stored flags, and what there is to say about them. -/
def load (files : Files) (st : Store ι) : Except ContentError (Flags × List Record) := do
  let (fields, log) ← st.payload files
  let (flags, more) := loadFrom st.defaults st.collection fields
  return (flags, log ++ more)

/-- A new store, with the stored flags in force. -/
def openAt (files : Files) (path : Option Path) (collection : Str) (defaults : Flags) :
    Except ContentError (Store ι × List Record) := do
  let st : Store ι := { path, collection, defaults, flags := defaults }
  let (flags, log) ← st.load files
  return ({ st with flags }, log)

/-- What is written: the old fields with the flags under the collection, and the version. -/
def savedFields (collection : Str) (flags : Flags) (old : Json.Fields) : Json.Fields :=
  let collections := Named.put collection flags.toJson (fieldsOf (Named.find? old "collections"))
  Named.put "version" (.int version) (Named.put "collections" (.obj collections) old)

/-- The bytes of the file that holds some fields. -/
def fileBytes (fields : Json.Fields) : List Utf8.Byte :=
  Utf8.encode (Json.obj fields).sortKeys.pretty.toList

/-- Write a file, its directory made before. -/
def writeFile (path : Path) (content : List Utf8.Byte) : Files.Op Unit := do
  Files.makeDirs path.parent
  Files.write path content

/-- Write the flags of the store: how that went, the files after it, and what there is to say about
the old content. -/
def persist (files : Files) (st : Store ι) :
    Except ContentError ((Except FileError Unit × Files) × List Record) :=
  match st.path with
  | none => .ok ((.ok (), files), [])
  | some path => do
    let (old, log) ← payloadAt files path
    let content := fileBytes (savedFields st.collection st.flags old)
    return ((writeFile path content).run files, log)

/-- With one more listener, who comes last. -/
def subscribe (st : Store ι) (listener : ι) : Store ι :=
  { st with listeners := st.listeners ++ [listener] }

/-- Without the first place of a listener in the list, if it has one. -/
def unsubscribe [BEq ι] (st : Store ι) (listener : ι) : Store ι :=
  { st with listeners := st.listeners.erase listener }

end Store

end Landmarks
