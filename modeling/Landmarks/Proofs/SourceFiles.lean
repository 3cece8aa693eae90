import Landmarks.CommandLine.Sources
import Landmarks.Proofs.FileContents
import Landmarks.Proofs.JsonReadable
import Mathlib.Data.List.Sort

/-!
# The source files below a directory

* `Entry.Proper` : no two entries of a directory have the same name.
* `Precedes` : the order of places below a directory, its own entries first.
* `IsSource` : a file with a known suffix that no excluded directory is on the way to. Its directory must have a
  path that is short enough to be listed.
* `exists_places` : the walk below a directory lists just these, in order.
* `eq_of_precedes` : there is only one list of them in order.
-/

namespace Landmarks

/-! ## Trees -/

namespace Entry

/-- No two entries of a directory have the same name, here and everywhere below. -/
inductive Proper : Entry → Prop
  | file (content : List Utf8.Byte) : Proper (.file content)
  | directory {entries : List (String × Entry)} (distinct : (Named.names entries).Nodup)
      (below : ∀ x ∈ entries, Proper x.2) : Proper (.directory entries)

theorem find?_cons {entries : List (String × Entry)} (part : String) (rest : List String) :
    (directory entries).find? (part :: rest) = (Named.find? entries part).bind fun e => e.find? rest := by
  rw [find?]
  cases Named.find? entries part <;> rfl

theorem find?_append (e : Entry) (place rest : List String) :
    e.find? (place ++ rest) = (e.find? place).bind fun below => below.find? rest := by
  induction place generalizing e with
  | nil => rw [List.nil_append, find?_nil, Option.bind_some]
  | cons part place ih =>
    cases e with
    | file content => simp [find?]
    | directory entries =>
      rw [List.cons_append, find?_cons, find?_cons, Option.bind_assoc]
      simp only [ih]

theorem Proper.find? {e below : Entry} (h : e.Proper) {place : List String} (hfound : e.find? place = some below) :
    below.Proper := by
  induction place generalizing e with
  | nil =>
    rw [find?_nil] at hfound
    exact Option.some.inj hfound ▸ h
  | cons part place ih =>
    cases h with
    | file content => simp [Entry.find?] at hfound
    | directory distinct below =>
      rw [find?_cons] at hfound
      obtain ⟨e, he, hrest⟩ := Option.bind_eq_some_iff.1 hfound
      exact ih (below _ ((Named.find?_eq_some_iff distinct).1 he)) hrest

end Entry

namespace CommandLine

/-! ## Order -/

/-- The order of places below a directory: its own entries by name, then what is below the others, by the names
of these and in each of them in the same way. -/
inductive Precedes : List String → List String → Prop
  | own {a b : String} (h : a < b) : Precedes [a] [b]
  | deeper (a b c : String) (rest : List String) : Precedes [a] (b :: c :: rest)
  | apart {a b : String} (h : a < b) (c d : String) (rest rest' : List String) : Precedes (a :: c :: rest) (b :: d :: rest')
  | within (a : String) {p q : List String} (h : Precedes p q) : Precedes (a :: p) (a :: q)

theorem Precedes.asymm {p q : List String} (h : Precedes p q) : ¬ Precedes q p := by
  induction h with
  | own h =>
    rintro (h' | _ | _ | ⟨_, ⟨⟩⟩)
    exact String.lt_asymm h h'
  | deeper a b c rest => rintro (_ | _ | _ | ⟨_, ⟨⟩⟩)
  | apart h c d rest rest' =>
    rintro (_ | _ | ⟨h', _⟩ | _)
    · exact String.lt_asymm h h'
    · exact String.lt_irrefl _ h
  | within a h ih =>
    rintro (_ | _ | ⟨h', _⟩ | ⟨_, h'⟩)
    · cases h
    · cases h
    · exact String.lt_irrefl _ h'
    · exact ih h'

/-- Places in order are determined by what they are. -/
theorem eq_of_precedes {ps qs : List (List String)} (hps : ps.Pairwise Precedes) (hqs : qs.Pairwise Precedes)
    (hsame : ∀ place, place ∈ ps ↔ place ∈ qs) : ps = qs := by
  have hnodup : ∀ {places : List (List String)}, places.Pairwise Precedes → places.Nodup := by
    refine fun h => h.imp fun hab heq => hab.asymm ?_
    rwa [heq] at hab ⊢
  refine List.Perm.eq_of_pairwise (fun a b _ _ hab hba => absurd hba hab.asymm) hps hqs ?_
  exact (List.perm_ext_iff_of_nodup (hnodup hps) (hnodup hqs)).2 hsame

theorem pairwise_sortByName {α : Type} {xs : List (String × α)} (h : (Named.names xs).Nodup) :
    (sortByName xs).Pairwise fun a b => a.1 < b.1 := by
  have hsorted : (sortByName xs).Pairwise fun a b => a.1 ≤ b.1 := by
    refine (List.pairwise_mergeSort (fun a b c hab hbc => ?_) (fun a b => ?_) xs).imp of_decide_eq_true
    · exact decide_eq_true (String.le_trans (of_decide_eq_true hab) (of_decide_eq_true hbc))
    · simpa using String.le_total a.1 b.1
  have hnames : (Named.names (sortByName xs)).Nodup := ((List.mergeSort_perm xs _).map _).nodup_iff.2 h
  refine hsorted.imp₂ (fun a b hle hne => ?_) (List.pairwise_map.1 hnames)
  exact String.not_le.1 fun hge => hne (String.le_antisymm hle hge)

/-! ## Places -/

/-- The path of a place below a directory. -/
def below (top : Path) (place : List String) : Path := top.join ⟨"", place⟩

theorem below_child (top : Path) (name : String) (place : List String) :
    below (child top name) place = below top (name :: place) := by
  simp [below, child, Path.join, Path.isAbsolute]

theorem text_below (top : Path) {place : List String} (h : place ≠ []) :
    (below top place).text = top.root ++ String.intercalate "/" (top.parts ++ place) := by
  simp [below, Path.join, Path.isAbsolute, Path.text, h]

/-- What is below has no shorter path. -/
theorem size_text_child_le (top : Path) (name : String) (place : List String) :
    (child top name).text.utf8ByteSize ≤ (below top (name :: place)).text.utf8ByteSize := by
  cases place with
  | nil => exact Nat.le_refl _
  | cons next rest =>
    have hparts : top.parts ++ name :: next :: rest = top.parts ++ [name] ++ next :: rest := by simp
    change (below top [name]).text.utf8ByteSize ≤ _
    rw [text_below top (List.cons_ne_nil _ _), text_below top (List.cons_ne_nil _ _), hparts,
      String.intercalate_append_of_ne_nil (List.append_ne_nil_of_right_ne_nil _ (List.cons_ne_nil name []))
        (List.cons_ne_nil next rest)]
    simp only [String.utf8ByteSize_append]
    omega

/-- A source file below a directory: its suffix is known, no directory on the way to it is excluded, and the path
of the one that it is in is not too long to be listed. -/
@[mk_iff isSource_iff]
structure IsSource (isKnown : Path → Bool) (room : Nat) (top : Path) (e : Entry) (place : List String) : Prop where
  file : ∃ content, e.find? place = some (.file content)
  known : isKnown (below top place) = true
  entered : ∀ name ∈ place.dropLast, name ∉ excludedDirectories
  listed : place.dropLast = [] ∨ (below top place.dropLast).text.utf8ByteSize ≤ room

section

variable {isKnown : Path → Bool} {room : Nat} {top : Path} {entries : List (String × Entry)}

theorem sourcesBelow_directory :
    sourcesBelow isKnown room top (.directory entries) = ownSources isKnown top entries ++
      (subdirectories room top entries).flatMap fun x => sourcesBelow isKnown room (child top x.1) x.2 := by
  rw [sourcesBelow, List.flatMap_subtype (g := fun x => sourcesBelow isKnown room (child top x.1) x.2) fun x hx => rfl,
    List.unattach_attach]

/-! ## The walk -/

theorem mem_subdirectories {x : String × Entry} :
    x ∈ subdirectories room top entries ↔ x ∈ entries ∧ x.2.isDirectory = true ∧ x.1 ∉ excludedDirectories ∧
      (child top x.1).text.utf8ByteSize ≤ room := by
  simp [subdirectories, sortByName, List.mem_mergeSort, isEntered, and_assoc]

/-- A file of a directory is a source file if its suffix is known. -/
theorem isSource_singleton (distinct : (Named.names entries).Nodup) (name : String) :
    IsSource isKnown room top (.directory entries) [name] ↔
      (∃ content, (name, .file content) ∈ entries) ∧ isKnown (child top name) = true := by
  have hfind : ∀ content, (Entry.directory entries).find? [name] = some (.file content) ↔
      (name, .file content) ∈ entries := by
    intro content
    rw [Entry.find?_cons, ← Named.find?_eq_some_iff distinct]
    simp [Entry.find?_nil]
  simp only [← hfind]
  exact ⟨fun h => ⟨h.file, h.known⟩, fun h => ⟨h.1, h.2, fun _ hmem => absurd hmem List.not_mem_nil, .inl rfl⟩⟩

/-- A file further down is a source file if it is one of the subdirectory that it is in, and this is entered. -/
theorem isSource_cons (distinct : (Named.names entries).Nodup) (name : String) {place : List String} (hne : place ≠ []) :
    IsSource isKnown room top (.directory entries) (name :: place) ↔
      ∃ e, (name, e) ∈ subdirectories room top entries ∧ IsSource isKnown room (child top name) e place := by
  have hlast : (name :: place).dropLast = name :: place.dropLast := List.dropLast_cons_of_ne_nil hne
  constructor
  · rintro ⟨⟨content, hfind⟩, hknown, hentered, hlisted⟩
    rw [Entry.find?_cons] at hfind
    obtain ⟨e, he, hplace⟩ := Option.bind_eq_some_iff.1 hfind
    rw [hlast] at hentered hlisted
    have hsize := hlisted.resolve_left (List.cons_ne_nil _ _)
    have hdirectory : e.isDirectory = true := by
      cases e with
      | directory entries => rfl
      | file content =>
        obtain ⟨part, rest, rfl⟩ := List.exists_cons_of_ne_nil hne
        simp [Entry.find?] at hplace
    refine ⟨e, mem_subdirectories.2 ⟨(Named.find?_eq_some_iff distinct).1 he, hdirectory, ?_, ?_⟩, ⟨content, hplace⟩, ?_, ?_, ?_⟩
    · exact hentered name List.mem_cons_self
    · exact (size_text_child_le top name place.dropLast).trans hsize
    · rwa [below_child]
    · exact fun other hother => hentered other (List.mem_cons_of_mem _ hother)
    · rw [below_child]
      exact .inr hsize
  · rintro ⟨e, he, ⟨content, hplace⟩, hknown, hentered, hlisted⟩
    obtain ⟨hmem, -, hname, hroom⟩ := mem_subdirectories.1 he
    rw [below_child] at hknown hlisted
    refine ⟨⟨content, ?_⟩, hknown, ?_, ?_⟩
    · rw [Entry.find?_cons, (Named.find?_eq_some_iff distinct).2 hmem]
      exact hplace
    · rw [hlast, List.forall_mem_cons]
      exact ⟨hname, hentered⟩
    · rw [hlast]
      rcases hlisted with hnil | hsize
      · rw [hnil]
        exact .inr hroom
      · exact .inr hsize

/-- The places of a directory's own source files. -/
def ownPlaces (isKnown : Path → Bool) (top : Path) (entries : List (String × Entry)) : List (List String) :=
  ((sortByName (entries.filter fun x => !x.2.isDirectory)).map fun x => [x.1]).filter fun place =>
    isKnown (below top place)

theorem ownSources_eq : ownSources isKnown top entries = (ownPlaces isKnown top entries).map (below top) := by
  rw [ownSources, ownPlaces, List.filter_map, List.filter_map, List.map_map]
  rfl

theorem mem_ownPlaces {place : List String} :
    place ∈ ownPlaces isKnown top entries ↔
      ∃ name, place = [name] ∧ (∃ content, (name, .file content) ∈ entries) ∧ isKnown (child top name) = true := by
  simp only [ownPlaces, sortByName, List.mem_filter, List.mem_map, List.mem_mergeSort]
  constructor
  · rintro ⟨⟨⟨name, e⟩, ⟨hmem, hfile⟩, rfl⟩, hknown⟩
    cases e with
    | file content => exact ⟨name, rfl, ⟨content, hmem⟩, hknown⟩
    | directory entries => cases hfile
  · rintro ⟨name, rfl, ⟨content, hmem⟩, hknown⟩
    exact ⟨⟨(name, .file content), ⟨hmem, rfl⟩, rfl⟩, hknown⟩

theorem pairwise_ownPlaces (distinct : (Named.names entries).Nodup) :
    (ownPlaces isKnown top entries).Pairwise Precedes := by
  have hnames : (Named.names (entries.filter fun x => !x.2.isDirectory)).Nodup :=
    distinct.sublist (List.filter_sublist.map _)
  refine List.Pairwise.filter _ (List.pairwise_map.2 ?_)
  exact (pairwise_sortByName hnames).imp Precedes.own

theorem pairwise_subdirectories (distinct : (Named.names entries).Nodup) :
    (subdirectories room top entries).Pairwise fun a b => a.1 < b.1 :=
  pairwise_sortByName (distinct.sublist (List.filter_sublist.map _))

/-- The walk below a directory lists its source files in order. -/
theorem exists_places (isKnown : Path → Bool) (room : Nat) (top : Path) {e : Entry} (h : e.Proper)
    (hdirectory : e.isDirectory = true) :
    ∃ places : List (List String), sourcesBelow isKnown room top e = places.map (below top) ∧
      places.Pairwise Precedes ∧ ∀ place, place ∈ places ↔ IsSource isKnown room top e place := by
  induction h generalizing top with
  | file content => cases hdirectory
  | @directory entries distinct proper ih =>
    -- What is listed below each directory that is entered.
    have hsub : ∀ x ∈ subdirectories room top entries, ∃ places : List (List String),
        sourcesBelow isKnown room (child top x.1) x.2 = places.map (below (child top x.1)) ∧
          places.Pairwise Precedes ∧ ∀ place, place ∈ places ↔ IsSource isKnown room (child top x.1) x.2 place := by
      intro x hx
      obtain ⟨hmem, hdir, -, -⟩ := mem_subdirectories.1 hx
      exact ih x hmem (child top x.1) hdir
    choose! placesIn hplaces hordered hsources using hsub
    have hne : ∀ x ∈ subdirectories room top entries, ∀ place ∈ placesIn x, place ≠ [] := by
      rintro x hx _ hplace rfl
      obtain ⟨content, hfind⟩ := ((hsources x hx []).1 hplace).file
      rw [Entry.find?_nil] at hfind
      have hdir := (mem_subdirectories.1 hx).2.1
      rw [Option.some.inj hfind] at hdir
      cases hdir
    refine ⟨ownPlaces isKnown top entries ++ (subdirectories room top entries).flatMap fun x => (placesIn x).map (x.1 :: ·),
      ?_, List.pairwise_append.2 ⟨pairwise_ownPlaces distinct, ?_, ?_⟩, fun place => ?_⟩
    · rw [sourcesBelow_directory, ownSources_eq, List.map_append, List.map_flatMap]
      congr 1
      refine List.flatMap_congr fun x hx => ?_
      rw [hplaces x hx, List.map_map]
      exact List.map_congr_left fun place _ => below_child top x.1 place
    · refine List.pairwise_flatMap.2 ⟨fun x hx => List.pairwise_map.2 ((hordered x hx).imp (.within x.1)), ?_⟩
      refine (pairwise_subdirectories distinct).imp_of_mem fun {x y} hx hy hlt => ?_
      intro p' hp' q' hq'
      obtain ⟨p, hp, rfl⟩ := List.mem_map.1 hp'
      obtain ⟨q, hq, rfl⟩ := List.mem_map.1 hq'
      obtain ⟨c, rest, rfl⟩ := List.exists_cons_of_ne_nil (hne x hx p hp)
      obtain ⟨d, rest', rfl⟩ := List.exists_cons_of_ne_nil (hne y hy q hq)
      exact .apart hlt c d rest rest'
    · intro p hp q' hq'
      obtain ⟨a, rfl, -⟩ := mem_ownPlaces.1 hp
      obtain ⟨x, hx, hq'⟩ := List.mem_flatMap.1 hq'
      obtain ⟨q, hq, rfl⟩ := List.mem_map.1 hq'
      obtain ⟨c, rest, rfl⟩ := List.exists_cons_of_ne_nil (hne x hx q hq)
      exact .deeper a x.1 c rest
    · rw [List.mem_append, mem_ownPlaces, List.mem_flatMap]
      constructor
      · rintro (⟨name, rfl, hown⟩ | ⟨x, hx, hplace⟩)
        · exact (isSource_singleton distinct name).2 hown
        · obtain ⟨rest, hrest, rfl⟩ := List.mem_map.1 hplace
          exact (isSource_cons distinct x.1 (hne x hx rest hrest)).2 ⟨x.2, hx, (hsources x hx rest).1 hrest⟩
      · intro hsource
        rcases place with _ | ⟨name, _ | ⟨next, rest⟩⟩
        · obtain ⟨content, hfind⟩ := hsource.file
          rw [Entry.find?_nil] at hfind
          cases hfind
        · exact .inl ⟨name, rfl, (isSource_singleton distinct name).1 hsource⟩
        · obtain ⟨e, he, hrest⟩ := (isSource_cons distinct name (List.cons_ne_nil next rest)).1 hsource
          exact .inr ⟨(name, e), he, List.mem_map_of_mem ((hsources (name, e) he _).2 hrest)⟩

end

end CommandLine

end Landmarks
