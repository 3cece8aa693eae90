/-!
# Display flags

* `Flag` : the five switches, in the order in which they are listed and stored.
* `Flags` : a setting of all five; `Flags.get` and `Flags.set` by flag.
* `Flag.name`, `Flag.ofName?` : the names used in files, on the command line and in requests.
-/

namespace Landmarks

/-- A switch that decides what is shown, or how. -/
inductive Flag
  | headers
  | functions
  | classes
  | accessSpecifiers
  | shortenAccessSpecifiers
  deriving DecidableEq, Repr

namespace Flag

/-- All flags, in order. -/
def all : List Flag := [headers, functions, classes, accessSpecifiers, shortenAccessSpecifiers]

/-- The name of a flag. -/
def name : Flag → String
  | headers => "show_headers"
  | functions => "show_functions"
  | classes => "show_classes"
  | accessSpecifiers => "show_access_specifiers"
  | shortenAccessSpecifiers => "shorten_access_specifiers"

/-- The flag of a name. -/
def ofName? (s : String) : Option Flag := all.find? fun f => f.name == s

theorem mem_all (f : Flag) : f ∈ all := by cases f <;> simp [all]

theorem ofName?_name (f : Flag) : ofName? f.name = some f := by cases f <;> rfl

end Flag

/-- A setting of every flag. Access specifiers are hidden, and shortened when shown, unless something
says otherwise; all else is shown. -/
structure Flags where
  headers : Bool := true
  functions : Bool := true
  classes : Bool := true
  accessSpecifiers : Bool := false
  shortenAccessSpecifiers : Bool := true
  deriving DecidableEq, Repr

namespace Flags

/-- The value of a flag. -/
def get (fs : Flags) : Flag → Bool
  | .headers => fs.headers
  | .functions => fs.functions
  | .classes => fs.classes
  | .accessSpecifiers => fs.accessSpecifiers
  | .shortenAccessSpecifiers => fs.shortenAccessSpecifiers

/-- The same flags with one of them set. -/
def set (fs : Flags) (f : Flag) (value : Bool) : Flags :=
  match f with
  | .headers => { fs with headers := value }
  | .functions => { fs with functions := value }
  | .classes => { fs with classes := value }
  | .accessSpecifiers => { fs with accessSpecifiers := value }
  | .shortenAccessSpecifiers => { fs with shortenAccessSpecifiers := value }

/-- The same flags with some of them set, one after another. -/
def setAll (fs : Flags) (changes : List (Flag × Bool)) : Flags :=
  changes.foldl (fun fs (f, value) => fs.set f value) fs

/-- Every flag with its value, in order. -/
def toList (fs : Flags) : List (Flag × Bool) := Flag.all.map fun f => (f, fs.get f)

@[simp] theorem get_set_self (fs : Flags) (f : Flag) (b : Bool) : (fs.set f b).get f = b := by
  cases f <;> rfl

theorem get_set_of_ne (fs : Flags) {f g : Flag} (h : g ≠ f) (b : Bool) :
    (fs.set f b).get g = fs.get g := by
  cases f <;> cases g <;> first | exact absurd rfl h | rfl

theorem ext_get {fs gs : Flags} (h : ∀ f, fs.get f = gs.get f) : fs = gs := by
  have h1 := h .headers
  have h2 := h .functions
  have h3 := h .classes
  have h4 := h .accessSpecifiers
  have h5 := h .shortenAccessSpecifiers
  cases fs; cases gs; simp_all [get]

end Flags

end Landmarks
