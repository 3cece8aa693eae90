import Landmarks.Config
import Landmarks.Proofs.SourceFiles
import Landmarks.Settings.Store

/-!
# The order in which a directory lists its entries

Nothing that is read through paths depends on it.

* `Entry.Alike` : trees with the same files and directories at the same places.
* `Files.Alike.read`, `Files.Alike.isDirectory` : their files are read alike.
* `Files.Alike.expandPath` : paths stand for the same files in both.
* `Host.Alike.load`, `Files.Alike.openAt` : so do configurations and stores.
-/

namespace Landmarks

open Utf8 (Byte)

namespace Entry

/-- The content of a file; a directory has none. -/
def content? : Entry → Option (List Byte)
  | file content => some content
  | directory _ => none

/-- At every place there is the same file in both, or a directory in both, or nothing in either. -/
def Alike (e e' : Entry) : Prop := ∀ place, (e.find? place).map content? = (e'.find? place).map content?

variable {e e' : Entry}

theorem Alike.find?_cases (h : e.Alike e') (place : List String) :
    (e.find? place = none ∧ e'.find? place = none) ∨
      (∃ content, e.find? place = some (.file content) ∧ e'.find? place = some (.file content)) ∨
      ∃ es es', e.find? place = some (.directory es) ∧ e'.find? place = some (.directory es') := by
  have hplace := h place
  generalize e.find? place = x at hplace ⊢
  generalize e'.find? place = x' at hplace ⊢
  rcases x with _ | content | es <;> rcases x' with _ | content' | es' <;> simp [content?] at hplace
  · exact .inl ⟨rfl, rfl⟩
  · exact .inr (.inl ⟨content, rfl, by rw [hplace]⟩)
  · exact .inr (.inr ⟨es, es', rfl, rfl⟩)

/-- The entries of a directory may be listed in any order. -/
theorem alike_of_perm {es es' : List (String × Entry)} (hperm : es.Perm es') (distinct : (Named.names es).Nodup) :
    (directory es).Alike (directory es') := by
  intro place
  cases place with
  | nil => simp [find?_nil, content?]
  | cons part rest => rw [find?_cons, find?_cons, Named.find?_perm hperm distinct]

theorem Proper.perm {es es' : List (String × Entry)} (h : (Entry.directory es).Proper) (hperm : es.Perm es') :
    (Entry.directory es').Proper := by
  cases h with
  | directory distinct below =>
    exact .directory ((hperm.map _).nodup_iff.1 distinct) fun x hx => below x (hperm.mem_iff.2 hx)

theorem Alike.below (h : e.Alike e') {place : List String} {x x' : Entry} (hx : e.find? place = some x)
    (hx' : e'.find? place = some x') : x.Alike x' := by
  intro rest
  have hrest := h (place ++ rest)
  rwa [find?_append, find?_append, hx, hx'] at hrest

theorem Alike.find?_file (h : e.Alike e') (place : List String) (content : List Byte) :
    e.find? place = some (.file content) ↔ e'.find? place = some (.file content) := by
  rcases h.find?_cases place with ⟨he, he'⟩ | ⟨other, he, he'⟩ | ⟨es, es', he, he'⟩ <;> simp [he, he']

theorem Alike.isSource (h : e.Alike e') {isKnown : Path → Bool} {room : Nat} {top : Path} {place : List String} :
    CommandLine.IsSource isKnown room top e place ↔ CommandLine.IsSource isKnown room top e' place := by
  simp only [CommandLine.isSource_iff, h.find?_file]

/-- The walks below alike directories list the same files in the same order. -/
theorem Alike.sourcesBelow {es es' : List (String × Entry)} (h : (directory es).Alike (directory es'))
    (hproper : (directory es).Proper) (hproper' : (directory es').Proper) (isKnown : Path → Bool) (room : Nat) (top : Path) :
    CommandLine.sourcesBelow isKnown room top (.directory es) = CommandLine.sourcesBelow isKnown room top (.directory es') := by
  obtain ⟨places, hplaces, hordered, hsources⟩ := CommandLine.exists_places isKnown room top hproper rfl
  obtain ⟨places', hplaces', hordered', hsources'⟩ := CommandLine.exists_places isKnown room top hproper' rfl
  have hsame : places = places' := CommandLine.eq_of_precedes hordered hordered' fun place => by
    rw [hsources, hsources', h.isSource]
  rw [hplaces, hplaces', hsame]

end Entry

namespace Files

/-- The same files and directories at the same places, seen from the same working directory. -/
structure Alike (fs fs' : Files) : Prop where
  tree : fs.tree.Alike fs'.tree
  cwd : fs.cwd = fs'.cwd

namespace Alike

variable {fs fs' : Files}

theorem descend (h : fs.Alike fs') : descend fs.tree = descend fs'.tree := by
  funext here part
  unfold Files.descend
  rcases h.tree.find?_cases here with ⟨he, he'⟩ | ⟨content, he, he'⟩ | ⟨es, es', he, he'⟩ <;> rw [he, he']

theorem locate (h : fs.Alike fs') (p : Path) : fs.locate p = fs'.locate p := by
  unfold Files.locate
  rw [h.cwd, h.descend]

/-- What is at a path is the same, but for the order of entries. -/
theorem lookup_cases (h : fs.Alike fs') (p : Path) :
    (∃ err, fs.lookup p = .error err ∧ fs'.lookup p = .error err) ∨
      (∃ content, fs.lookup p = .ok (.file content) ∧ fs'.lookup p = .ok (.file content)) ∨
      ∃ place es es', fs.tree.find? place = some (.directory es) ∧ fs'.tree.find? place = some (.directory es') ∧
        fs.lookup p = .ok (.directory es) ∧ fs'.lookup p = .ok (.directory es') := by
  have hlocate := h.locate p
  cases hplace : fs'.locate p with
  | error err =>
    rw [hplace] at hlocate
    exact .inl ⟨err, lookup_of_error hlocate, lookup_of_error hplace⟩
  | ok place =>
    rw [hplace] at hlocate
    rcases h.tree.find?_cases place with ⟨he, he'⟩ | ⟨content, he, he'⟩ | ⟨es, es', he, he'⟩
    · exact .inl ⟨.notFound, lookup_of_none hlocate he, lookup_of_none hplace he'⟩
    · exact .inr (.inl ⟨content, lookup_eq_ok_iff.2 ⟨place, hlocate, he⟩, lookup_eq_ok_iff.2 ⟨place, hplace, he'⟩⟩)
    · exact .inr (.inr ⟨place, es, es', he, he', lookup_eq_ok_iff.2 ⟨place, hlocate, he⟩,
        lookup_eq_ok_iff.2 ⟨place, hplace, he'⟩⟩)

theorem read (h : fs.Alike fs') (p : Path) : fs.read p = fs'.read p := by
  unfold Files.read
  rcases h.lookup_cases p with ⟨err, he, he'⟩ | ⟨content, he, he'⟩ | ⟨place, es, es', -, -, he, he'⟩
  · rw [he, he']
  · rw [he, he']
  · rw [he, he']
    rfl

theorem isDirectory (h : fs.Alike fs') (p : Path) : fs.isDirectory p = fs'.isDirectory p := by
  unfold Files.isDirectory Files.test
  rcases h.lookup_cases p with ⟨err, he, he'⟩ | ⟨content, he, he'⟩ | ⟨place, es, es', -, -, he, he'⟩
  · rw [he, he']
  · rw [he, he']
  · rw [he, he']
    rfl

theorem holds (h : fs.Alike fs') (p : Path) : fs.holds p = fs'.holds p := by
  unfold Files.holds Files.test
  rcases h.lookup_cases p with ⟨err, he, he'⟩ | ⟨content, he, he'⟩ | ⟨place, es, es', -, -, he, he'⟩ <;> rw [he, he']

theorem readText (h : fs.Alike fs') (p : Path) : fs.readText p = fs'.readText p := by
  unfold Files.readText
  rw [h.read]

/-- A path stands for the same files in the same order. -/
theorem expandPath (h : fs.Alike fs') (hproper : fs.tree.Proper) (hproper' : fs'.tree.Proper) (isKnown : Path → Bool)
    (p : Path) : CommandLine.expandPath fs isKnown p = CommandLine.expandPath fs' isKnown p := by
  unfold CommandLine.expandPath
  rcases h.lookup_cases p with ⟨err, he, he'⟩ | ⟨content, he, he'⟩ | ⟨place, es, es', hes, hes', he, he'⟩
  · rw [he, he']
  · rw [he, he']
  · rw [he, he']
    dsimp only
    rw [(h.tree.below hes hes').sourcesBelow (hproper.find? hes) (hproper'.find? hes')]

theorem payloadAt (h : fs.Alike fs') (path : Path) : Store.payloadAt fs path = Store.payloadAt fs' path := by
  unfold Store.payloadAt
  rw [h.readText]

theorem openAt {ι : Type} (h : fs.Alike fs') (path : Option Path) (collection : Str) (defaults : Flags) :
    Store.openAt (ι := ι) fs path collection defaults = Store.openAt fs' path collection defaults := by
  have hpayload : ∀ st : Store ι, st.payload fs = st.payload fs' := by
    intro st
    unfold Store.payload
    cases st.path with
    | none => rfl
    | some path => exact h.payloadAt path
  simp only [Store.openAt, Store.load, hpayload]

end Alike

end Files

/-- The same files and directories at the same places, and the same home directories. -/
structure Host.Alike (host host' : Host) : Prop where
  files : host.files.Alike host'.files
  homes : host.homes = host'.homes

theorem Host.Alike.load {host host' : Host} (h : host.Alike host') (p : Path) : Config.load host p = Config.load host' p := by
  unfold Config.load Config.locate
  simp only [h.homes, h.files.isDirectory, h.files.cwd, h.files.holds, h.files.readText]

theorem Host.Alike.settingsPath {host host' : Host} (h : host.Alike host') (c : Config) :
    c.settingsPath host = c.settingsPath host' := by
  unfold Config.settingsPath
  rw [h.homes]

end Landmarks
