import Landmarks.Files
import Landmarks.Flags
import Landmarks.Language
import Landmarks.Text.YesNo
import Landmarks.Yaml.Load

/-!
# Configuration

A project may have a file `.scrollmarks.yml` with default flags, suffixes and the place of the stored
settings.

* `Config` : what the file says, or the defaults.
* `Config.parseFlags` : the section of flags; `asBool?`, `asString?` and `asStrings` read its values.
* `Config.load` : the configuration of a path, which names the file or its directory.
* `Config.settingsPath` : where the settings are stored.
-/

namespace Landmarks

open Text Yaml

/-- Where a program runs: its files and the home directories of users, the current one under the
empty name. -/
structure Host where
  files : Files
  homes : String → Option String

/-- What is wrong with a configuration. -/
inductive ConfigError
  | malformed
  | notMapping
  | unknownFlag (key : String)
  | notBoolean (key : String) (value : Value)

/-- Why there is no configuration. -/
inductive LoadError
  | config (error : ConfigError)
  | unshown (fault : Value.ShowFault)
  | scalar (error : Yaml.Error)
  | read (error : ReadError)
  | home (error : HomeError)

/-- Why there is no place for the settings: it depends on a home directory that is not known, or the
text given for it has halves of pairs, which no path has. -/
inductive PlaceError
  | home (error : HomeError)
  | halves

/-- The collection in which settings are stored unless another is named. -/
def defaultCollection : String := "scrollmarks.FeatureFlags"

/-- A configuration: where it was found, the default flags, the suffixes of each family, and the file
and the collection of the stored settings. The file is missing if what was given for it is no path. -/
structure Config where
  root : Path
  flags : Flags := {}
  csharp : List String := csharpSuffixes
  clike : List String := clikeSuffixes
  settings : Option Path := some ⟨"", [".scrollmarks", "settings.json"]⟩
  collection : Str := defaultCollection

namespace Config

/-- The name of the file. -/
def fileName : String := ".scrollmarks.yml"

end Config

/-- What is said of a configuration. -/
def ConfigError.message : ConfigError → String
  | malformed => "Failed to parse " ++ Config.fileName
  | notMapping => Config.fileName ++ " must contain a mapping at the root"
  | unknownFlag key => "Unknown flag \x27" ++ key ++ "\x27 in " ++ Config.fileName
  | notBoolean key value => "Flag \x27" ++ key ++ "\x27 must be a boolean, got " ++ value.literal

/-- What is said when there is no configuration. -/
def LoadError.message : LoadError → String
  | config e => e.message
  | unshown fault => fault.message
  | scalar e => e.message
  | read e => e.message
  | home e => e.message

/-- What is said when there is no place for the settings. -/
def PlaceError.message : PlaceError → String
  | home e => e.message
  | halves => "surrogates not allowed"

namespace Config

/-- A truth value, or a word for one. -/
def asBool? : Value → Option Bool
  | .bool b => some b
  | .str s => s.chars?.bind yesNo?
  | _ => none

/-- A scalar as text; an integer must not be too long for that. -/
def asString? (v : Value) : Except Yaml.Error (Option Str) :=
  match v with
  | .int i => if Number.isWritable i then .ok (some v.text) else .error .longInteger
  | .str _ | .bool _ | .float _ => .ok (some v.text)
  | _ => .ok none

/-- The scalars of a list as texts; a text by itself is a list of one. -/
def asStrings : Value → Except Yaml.Error (List Str)
  | .str s => .ok [s]
  | .list xs => do return (← xs.mapM asString?).filterMap id
  | .bytes bs => .ok (bs.map fun b => .ofString (toString b.toNat))
  | _ => .ok []

/-- What is wrong with an entry of the section of flags. It cannot be said if a value that belongs to
it cannot be shown. -/
def flagError (v : Value) (e : ConfigError) : LoadError :=
  match v.showFault? maxDepth with
  | none => .config e
  | some fault => .unshown fault

/-- One entry of the section of flags. -/
def parseFlag (key value : Value) : Except LoadError (Flag × Bool) :=
  let name := match key with
    | .str s => s.text?.bind Flag.ofName?
    | _ => none
  match name with
  | none => .error (flagError key (.unknownFlag key.text.shown))
  | some flag =>
    match asBool? value with
    | none => .error (flagError value (.notBoolean flag.name value))
    | some b => .ok (flag, b)

/-- The section of flags: every entry must be a flag with a truth value. -/
def parseFlags (entries : List (Value × Value)) : Except LoadError Flags := do
  let changes ← entries.mapM fun e => parseFlag e.1 e.2
  return Flags.setAll {} changes

/-- The suffixes given under a key, or the usual ones. No path has halves of pairs, so suffixes with such
are left out. -/
def suffixesOf (entries : List (Value × Value)) (key : String) (usual : List String) :
    Except Yaml.Error (List String) :=
  match Value.find? entries key with
  | some v => do return (← asStrings v).filterMap Str.text?
  | none => .ok usual

/-- A text given under a key, unless it is empty. -/
def stringOf? (entries : List (Value × Value)) (key : String) : Except Yaml.Error (Option Str) :=
  match Value.find? entries key with
  | some v => do return (← asString? v).filter (!·.isEmpty)
  | none => .ok none

/-- The configuration with what the sections besides the flags say. -/
def withSections (usual : Config) (languages settings : List (Value × Value)) :
    Except Yaml.Error Config := do
  let csharp ← suffixesOf languages "csharp_suffixes" usual.csharp
  let clike ← suffixesOf languages "clike_suffixes" usual.clike
  let path ← stringOf? settings "path"
  let collection ← stringOf? settings "collection"
  return { usual with
    csharp, clike
    settings := (path.map fun s => s.text?.map Path.ofString).getD usual.settings
    collection := collection.getD usual.collection }

/-- The configuration that a document gives. -/
def ofDocument (root : Path) (d : Yaml.Document) : Except LoadError Config := do
  if d.isMap then
    let flags ← parseFlags (d.sectionEntries "flags")
    (withSections { root, flags } (d.sectionEntries "languages") (d.sectionEntries "settings")).mapError
      .scalar
  else .error (.config .notMapping)

/-- The document that the text of the file holds; a blank text and one that denotes nothing are empty
mappings. -/
def documentOfText (cs : List Char) : Except LoadError Yaml.Document :=
  if (trim cs).isEmpty then .ok .empty
  else
    match Yaml.load cs with
    | .ok none => .ok .empty
    | .ok (some d) =>
      match d.shape d.root with
      | .scalar .null => .ok .empty
      | _ => .ok d
    | .error .malformed => .error (.config .malformed)
    | .error e => .error (.scalar e)

/-- The place of the file for a path that names it, its directory, or another file beside it. -/
def locate (host : Host) (p : Path) : Except LoadError Path := do
  let p ← (p.expandHome host.homes).mapError .home
  let file : Path := ⟨"", [fileName]⟩
  let isDirectory ← (host.files.isDirectory p).mapError fun e => .read (.file e)
  let place :=
    if isDirectory then p.join file
    else if p.name != fileName then p.parent.join file
    else p
  if place.hasNull then .error (.read (.file .nullByte))
  else return Path.resolve host.files.cwd place

/-- The configuration of a path; without a file there, the usual one. -/
def load (host : Host) (p : Path) : Except LoadError Config := do
  let file ← locate host p
  let root := file.parent
  if ← (host.files.holds file).mapError fun e => .read (.file e) then
    let cs ← (host.files.readText file).mapError .read
    ofDocument root (← documentOfText cs)
  else return { root }

/-- Where the settings are stored. -/
def settingsPath (host : Host) (c : Config) : Except PlaceError Path :=
  match c.settings with
  | none => .error .halves
  | some path => (path.expandHome host.homes |>.mapError .home).map c.root.join

end Config

end Landmarks
