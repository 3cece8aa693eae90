import Landmarks.Proofs.CommandWords
import Landmarks.Proofs.ListingOrder
import Landmarks.Proofs.Sessions

/-!
# The paths that a scan reports

* `exists_starts` : a scan that succeeds has found a configuration and a store.
* `names_listed` : each file is reported once, where it comes first.
* `StandsFor` : what an argument stands for: itself, or the source files below it in order.
* `scan_reports` : what a scan reports if it succeeds. Other listings of the same directories make no difference.
-/

namespace Landmarks.CommandLine

/-! ## The start -/

section

variable {host host' : Host} {dir : String} {c : Config} {settings : Path} {store : Store Empty}

theorem exec_attempt_eq_ok {ε α : Type} {cause : ε → RunError} {r : Except ε α} {s s' : Session} {a : α}
    (h : exec (Session.attempt cause r) s = (.ok a, s')) : r = .ok a ∧ s = s' := by
  cases r with
  | error e => cases h
  | ok b =>
    cases h
    exact ⟨rfl, rfl⟩

/-- A run that has started found a configuration and a store. -/
theorem exists_starts_of_start {path : Option String} {log : List Record} {s' : Session}
    (h : exec (Session.start host.homes path) ⟨host.files, log⟩ = (.ok (c, store), s')) :
    ∃ dir settings, path = some dir ∧ Starts host dir c settings store := by
  cases path with
  | none => cases h
  | some dir =>
    rw [Session.start, exec_get_bind] at h
    obtain ⟨c', s₁, hfirst, h⟩ := exec_bind_eq_ok.1 h
    obtain ⟨hload, rfl⟩ := exec_attempt_eq_ok hfirst
    obtain ⟨settings, s₂, hsecond, h⟩ := exec_bind_eq_ok.1 h
    obtain ⟨hplace, rfl⟩ := exec_attempt_eq_ok hsecond
    obtain ⟨⟨store', log'⟩, s₃, hthird, h⟩ := exec_bind_eq_ok.1 h
    obtain ⟨hopen, rfl⟩ := exec_attempt_eq_ok hthird
    cases h
    exact ⟨dir, settings, rfl, hload, hplace, log', hopen⟩

theorem exists_starts {argv : List String} {i : Invocation} (hparse : Invocation.parse argv = .ok i) {serving : Option Serving}
    (hends : (run host argv).ending = .ok serving) :
    ∃ dir c settings store, i.arguments.config = some dir ∧ Starts host dir c settings store := by
  obtain ⟨r, s', hperform⟩ : ∃ r s', exec (Session.perform host.homes i) { files := host.files } = (.ok r, s') := by
    rcases hresult : exec (Session.perform host.homes i) { files := host.files } with ⟨_ | r, s'⟩
    · rw [exec] at hresult
      simp only [run, hparse, hresult] at hends
      cases hends
    · exact ⟨r, s', rfl⟩
  rw [Session.perform] at hperform
  obtain ⟨⟨c, store⟩, s₁, hstart, -⟩ := exec_bind_eq_ok.1 hperform
  obtain ⟨dir, settings, hconfig, hstarts⟩ := exists_starts_of_start hstart
  exact ⟨dir, c, settings, store, hconfig, hstarts⟩

theorem Starts.alike (h : Starts host dir c settings store) (halike : host.Alike host') : Starts host' dir c settings store where
  config := halike.load _ ▸ h.config
  place := halike.settingsPath c ▸ h.place
  opened := by
    obtain ⟨log, hopened⟩ := h.opened
    exact ⟨log, halike.files.openAt _ _ _ ▸ hopened⟩

end

/-! ## What is reported -/

/-- Values put under names one after another stand in the order in which the names come first. -/
theorem names_foldl_put {α β : Type} (name : β → String) (value : β → α) (xs : List β) (entries : Named α) :
    Named.names (xs.foldl (fun acc x => Named.put (name x) (value x) acc) entries) =
      Named.names entries ++ ((xs.map name).removeAll (Named.names entries)).eraseDups := by
  induction xs generalizing entries with
  | nil => simp [List.removeAll]
  | cons x xs ih =>
    rw [List.foldl_cons, ih]
    by_cases hmem : name x ∈ Named.names entries
    · rw [Named.names_put_of_mem hmem]
      simp [List.removeAll, hmem]
    · have hnames : Named.names (Named.put (name x) (value x) entries) = Named.names entries ++ [name x] := by
        rw [Named.put_of_not_mem hmem, Named.names, List.map_append]
        rfl
      rw [hnames]
      simp [List.removeAll, hmem, List.eraseDups_cons, List.filter_filter, Bool.and_comm, beq_eq_decide]

/-- Each file is reported once, where it comes first. -/
theorem names_listed (files : Files) (c : Config) (language : Option Mode) (flags : Flags) (paths : List Path) :
    Named.names (listed files c language flags paths) = ((sourcesOf files c paths).map Path.text).eraseDups := by
  rw [listed, names_foldl_put]
  simp [Named.names, List.removeAll]

/-- What an argument stands for: itself, unless it is a directory, or else the source files below it in order. -/
inductive StandsFor (files : Files) (isKnown : Path → Bool) (p : Path) : List Path → Prop
  | itself (h : files.isDirectory p = .ok false) : StandsFor files isKnown p [p]
  | sources {entries : List (String × Entry)} {places : List (List String)}
      (directory : files.lookup p = .ok (.directory entries)) (ordered : places.Pairwise Precedes)
      (all : ∀ place, place ∈ places ↔ IsSource isKnown (listingRoom p) p (.directory entries) place) :
      StandsFor files isKnown p (places.map (below p))

theorem standsFor_of_expandPath {files : Files} (hproper : files.tree.Proper) {isKnown : Path → Bool} {p : Path}
    {ps : List Path} (h : expandPath files isKnown p = .ok ps) : StandsFor files isKnown p ps := by
  unfold expandPath at h
  split at h
  · rename_i entries hentries
    cases h
    obtain ⟨place, -, hfound⟩ := Files.lookup_eq_ok_iff.1 hentries
    obtain ⟨places, hplaces, hordered, hall⟩ := exists_places isKnown (listingRoom p) p (hproper.find? hfound) rfl
    rw [hplaces]
    exact .sources hentries hordered hall
  · cases h
  · rename_i hdirectory hlong
    cases h
    refine .itself ?_
    rw [Files.isDirectory, Files.test]
    split
    · rename_i e he
      cases e with
      | file content => rfl
      | directory entries => exact absurd he (hdirectory entries)
    · rename_i he
      exact absurd he hlong
    · rfl

/-- What scannable paths stand for. -/
theorem exists_lists {files : Files} (hproper : files.tree.Proper) {c : Config} {paths : List Path}
    (h : ∀ p ∈ paths, Scannable files c p) :
    ∃ lists, sourcesOf files c paths = lists.flatten ∧
      List.Forall₂ (StandsFor files (isKnownSource c.csharp c.clike)) paths lists := by
  induction paths with
  | nil => exact ⟨[], rfl, .nil⟩
  | cons p paths ih =>
    obtain ⟨lists, hsources, hlists⟩ := ih fun q hq => h q (List.mem_cons_of_mem _ hq)
    obtain ⟨ps, hps, -⟩ := h p List.mem_cons_self
    refine ⟨ps :: lists, ?_, .cons (standsFor_of_expandPath hproper hps) hlists⟩
    rw [sourcesOf, List.flatMap_cons, hps]
    exact congrArg (ps ++ ·) hsources

theorem Scannable.alike {files files' : Files} {c : Config} {p : Path} (h : Scannable files c p) (halike : files.Alike files')
    (hproper : files.tree.Proper) (hproper' : files'.tree.Proper) : Scannable files' c p := by
  obtain ⟨ps, hps, hread⟩ := h
  refine ⟨ps, halike.expandPath hproper hproper' _ p ▸ hps, fun q hq => ?_⟩
  rw [← halike.read]
  exact hread q hq

theorem listed_alike {files files' : Files} (halike : files.Alike files') (hproper : files.tree.Proper)
    (hproper' : files'.tree.Proper) (c : Config) (language : Option Mode) (flags : Flags) (paths : List Path) :
    listed files c language flags paths = listed files' c language flags paths := by
  unfold listed sourcesOf
  simp only [halike.expandPath hproper hproper', halike.read]

/-- **What a scan reports.** If a scan succeeds, it has found a configuration, and reports each of the files that
its arguments stand for once, where it comes first. An argument that is no directory stands for itself. A directory
stands for the files below it whose suffix is known, unless an excluded directory is on the way to them or the path
of the directory that they are in is too long to be listed: its own before those further down, all by name. Where
directories list the same entries in another order, the scan succeeds as well and prints the same. -/
theorem scan_reports {host : Host} (hproper : host.files.tree.Proper) {argv : List String} {i : Invocation}
    (hparse : Invocation.parse argv = .ok i) (hcommand : i.command = .scan)
    (hends : (run host argv).ending = .ok none) :
    ∃ dir c settings store results lists,
      i.arguments.config = some dir ∧ Starts host dir c settings store ∧
      results = listed host.files c i.arguments.language (store.flags.setAll i.arguments.overrides)
        (i.paths.map Path.ofString) ∧
      (run host argv).printed = i.arguments.report results ∧
      Named.names results = (lists.flatten.map Path.text).eraseDups ∧
      List.Forall₂ (StandsFor host.files (isKnownSource c.csharp c.clike)) (i.paths.map Path.ofString) lists ∧
      ∀ host' : Host, host.Alike host' → host'.files.tree.Proper →
        (run host' argv).ending = .ok none ∧ (run host' argv).printed = (run host argv).printed := by
  obtain ⟨dir, c, settings, store, hconfig, hstarts⟩ := exists_starts hparse hends
  rcases run_scan hstarts hparse hcommand hconfig with ⟨hscannable, -, hprinted⟩ | ⟨-, e, p, herror⟩
  · obtain ⟨lists, hsources, hlists⟩ := exists_lists hproper (List.forall_mem_map.2 hscannable)
    refine ⟨dir, c, settings, store, _, lists, hconfig, hstarts, rfl, hprinted, ?_, hlists, fun host' halike hproper' => ?_⟩
    · rw [names_listed, hsources]
    · rcases run_scan (hstarts.alike halike) hparse hcommand hconfig with ⟨-, hends', hprinted'⟩ | ⟨hnot, -⟩
      · refine ⟨hends', hprinted'.trans ?_⟩
        rw [hprinted, listed_alike halike.files hproper hproper']
      · exact absurd (fun path hpath => (hscannable path hpath).alike halike.files hproper hproper') hnot
  · rw [herror] at hends
    cases hends

theorem parse_scan_plain {path : String} (h : Plain path) :
    Invocation.parse (scanWords [] [path] []) = .ok ⟨.scan, argumentsOf [], [path]⟩ :=
  Invocation.parse_scan (List.cons_ne_nil path []) (List.forall_mem_singleton.2 h) (List.forall_mem_nil _)

theorem ScansWith.of_scannable {host : Host} {argv : List String} {c : Config} {a : Arguments} {path : String} {flags : Flags}
    (h : ScansWith host argv c a [path] flags) (hscannable : Scannable host.files c (Path.ofString path)) :
    (run host argv).ending = .ok none ∧
      (run host argv).printed = a.report (listed host.files c a.language flags [Path.ofString path]) := by
  rcases h with ⟨-, hprints⟩ | ⟨hnot, -⟩
  · exact hprints
  · exact absurd (fun other hother => List.mem_singleton.1 hother ▸ hscannable) hnot

/-- A scan of one path succeeds if all that the path stands for can be read. -/
theorem run_of_scannable {host : Host} {c : Config} {settings : Path} {store : Store Empty}
    (hstarts : Starts host "." c settings store) {path : String} (hplain : Plain path)
    (hscannable : Scannable host.files c (Path.ofString path)) :
    (run host (scanWords [] [path] [])).ending = .ok none ∧
      (run host (scanWords [] [path] [])).printed = table (listed host.files c none store.flags [Path.ofString path]) :=
  (run_scan hstarts (parse_scan_plain hplain) rfl rfl).of_scannable hscannable

/-- A directory with a source file, one more in a directory below it, and one in an excluded directory. -/
def mixed : List (String × Entry) :=
  [("bin", .directory [("y.c", .file [])]), ("lib", .directory [("x.cs", .file [])]), ("b.c", .file [])]

/-- A directory with a source file in a directory below it. -/
def nested : List (String × Entry) := [("deep", .directory [("x.c", .file [])])]

/-- A tree with both directories. -/
def bothDirectories : List (String × Entry) := [("src", .directory mixed), ("a", .directory nested)]

/-- A host with some files, where nothing is configured. -/
def hostOf (entries : List (String × Entry)) : Host := ⟨⟨.directory entries, ⟨"/", []⟩⟩, fun _ => none⟩

/-- The settings file where nothing is configured. -/
def usualPlace : Path := ⟨"/", [".scrollmarks", "settings.json"]⟩

/-- The store where nothing is configured or stored. -/
def usualStore : Store Empty :=
  { path := some usualPlace, collection := defaultCollection, defaults := {}, flags := {} }

theorem starts_bothDirectories : Starts (hostOf bothDirectories) "." { root := ⟨"/", []⟩ } usualPlace usualStore :=
  starts_of_toOption (by decide +kernel) (by decide +kernel) (by decide +kernel)

theorem read_bothDirectories :
    (hostOf bothDirectories).files.locate ⟨"", ["src"]⟩ = .ok ["src"] ∧
      (hostOf bothDirectories).files.read ⟨"", ["src", "b.c"]⟩ = .ok [] ∧
      (hostOf bothDirectories).files.read ⟨"", ["src", "lib", "x.cs"]⟩ = .ok [] := by decide +kernel

theorem expandPath_src :
    expandPath (hostOf bothDirectories).files (isKnownSource csharpSuffixes clikeSuffixes) ⟨"", ["src"]⟩ =
      .ok [⟨"", ["src", "b.c"]⟩, ⟨"", ["src", "lib", "x.cs"]⟩] := by
  have hlookup : (hostOf bothDirectories).files.lookup ⟨"", ["src"]⟩ = .ok (.directory mixed) :=
    Files.lookup_eq_ok_iff.2
      ⟨["src"], read_bothDirectories.1, by simp [hostOf, bothDirectories, Entry.find?, Named.find?]⟩
  have hsrc : ownSources (isKnownSource csharpSuffixes clikeSuffixes) ⟨"", ["src"]⟩ mixed = [⟨"", ["src", "b.c"]⟩] := by
    simp only [ownSources, mixed, sortByName, List.filter, Entry.isDirectory, List.mergeSort_singleton, Bool.not_true,
      Bool.not_false]
    decide
  have hlib : ownSources (isKnownSource csharpSuffixes clikeSuffixes) ⟨"", ["src", "lib"]⟩ [("x.cs", .file [])] =
      [⟨"", ["src", "lib", "x.cs"]⟩] := by
    simp only [ownSources, sortByName, List.filter, Entry.isDirectory, List.mergeSort_singleton, Bool.not_false]
    decide
  have hentered : mixed.filter (isEntered Files.maxPath ⟨"", ["src"]⟩) = [("lib", .directory [("x.cs", .file [])])] := rfl
  have hnone : [("x.cs", Entry.file [])].filter (isEntered Files.maxPath ⟨"", ["src", "lib"]⟩) = [] := rfl
  rw [expandPath, hlookup]
  change Except.ok (sourcesBelow _ Files.maxPath _ _) = _
  rw [sourcesBelow_directory, hsrc, subdirectories, hentered, sortByName, List.mergeSort_singleton, List.flatMap_singleton]
  change Except.ok (_ ++ sourcesBelow _ _ ⟨"", ["src", "lib"]⟩ _) = _
  rw [sourcesBelow_directory, hlib, subdirectories, hnone, sortByName, List.mergeSort_nil]
  rfl

theorem proper_bothDirectories : (Entry.directory bothDirectories).Proper := by
  have hone : ∀ name, (Entry.directory [(name, .file [])]).Proper := fun name =>
    .directory (List.nodup_singleton name) (List.forall_mem_singleton.2 (.file []))
  have hmixed : (Entry.directory mixed).Proper := by
    refine .directory (by decide) ?_
    simp only [mixed, List.forall_mem_cons]
    exact ⟨hone "y.c", hone "x.cs", .file [], List.forall_mem_nil _⟩
  have hnested : (Entry.directory nested).Proper :=
    .directory (List.nodup_singleton "deep") (List.forall_mem_singleton.2 (hone "x.c"))
  refine .directory (by decide) ?_
  simp only [bothDirectories, List.forall_mem_cons]
  exact ⟨hmixed, hnested, List.forall_mem_nil _⟩

/-- A scan of the first directory succeeds, and prints the same if the tree lists it last. -/
theorem scan_reports_mixed :
    (hostOf bothDirectories).files.tree.Proper ∧
      (run (hostOf bothDirectories) (scanWords [] ["src"] [])).ending = .ok none ∧
      (hostOf bothDirectories).Alike (hostOf bothDirectories.reverse) ∧
      (run (hostOf bothDirectories.reverse) (scanWords [] ["src"] [])).printed =
        (run (hostOf bothDirectories) (scanWords [] ["src"] [])).printed := by
  have hproper : (hostOf bothDirectories).files.tree.Proper := proper_bothDirectories
  have hplain : Plain "src" := by
    unfold Plain
    decide
  have hscannable : Scannable (hostOf bothDirectories).files { root := ⟨"/", []⟩ } (Path.ofString "src") := by
    have hpath : Path.ofString "src" = ⟨"", ["src"]⟩ := by decide
    rw [hpath]
    refine ⟨_, expandPath_src, ?_⟩
    simp only [List.forall_mem_cons]
    exact ⟨⟨[], read_bothDirectories.2.1⟩, ⟨[], read_bothDirectories.2.2⟩, List.forall_mem_nil _⟩
  have hends := (run_of_scannable starts_bothDirectories hplain hscannable).1
  have hperm : bothDirectories.Perm bothDirectories.reverse := (List.reverse_perm _).symm
  have halike : (hostOf bothDirectories).Alike (hostOf bothDirectories.reverse) :=
    ⟨⟨Entry.alike_of_perm hperm (by decide), rfl⟩, rfl⟩
  obtain ⟨dir, c, settings, store, results, lists, -, -, -, -, -, -, hsame⟩ :=
    scan_reports hproper (parse_scan_plain hplain) rfl hends
  exact ⟨hproper, hends, halike, (hsame _ halike (proper_bothDirectories.perm hperm)).2⟩

/-! ## A directory that is passed over -/

/-- The way into a directory and out again, some times, and into it at last. -/
def longWay (n : Nat) : Path := ⟨"", (List.replicate n ["a", ".."]).flatten ++ ["a"]⟩

/-- The same way as it is written. -/
def longText (n : Nat) : List Char := (List.replicate n "a/../".toList).flatten ++ ['a']

theorem splitOn_longText (n : Nat) :
    (longText n).splitOn '/' = (List.replicate n [['a'], ['.', '.']]).flatten ++ [['a']] := by
  induction n with
  | zero => rfl
  | succ n ih =>
    have htext : longText (n + 1) = 'a' :: '/' :: '.' :: '.' :: '/' :: longText n := rfl
    rw [List.splitOn] at ih ⊢
    rw [htext]
    simpa [List.splitOnP_cons_eq_if_modifyHead, List.replicate_succ] using ih

theorem ofString_longText (n : Nat) : Path.ofString (String.ofList (longText n)) = longWay n := by
  have hhead : ∃ rest, longText n = 'a' :: rest := by
    cases n with
    | zero => exact ⟨[], rfl⟩
    | succ n => exact ⟨_, rfl⟩
  have hroot : (longText n).takeWhile (· == '/') = [] := by
    obtain ⟨rest, hrest⟩ := hhead
    rw [hrest]
    rfl
  rw [Path.ofString, String.toList_ofList, hroot, splitOn_longText]
  refine congrArg₂ Path.mk rfl ?_
  simp [List.filter_flatten, List.map_flatten]

theorem utf8ByteSize_rounds (n : Nat) {rest : List String} (hne : rest ≠ []) :
    (String.intercalate "/" ((List.replicate n ["a", ".."]).flatten ++ rest)).utf8ByteSize =
      5 * n + (String.intercalate "/" rest).utf8ByteSize := by
  have hround : (String.intercalate "/" ["a", ".."]).utf8ByteSize = 4 := rfl
  induction n with
  | zero => simp
  | succ n ih =>
    rw [List.replicate_succ, List.flatten_cons, List.append_assoc,
      String.intercalate_append_of_ne_nil (List.cons_ne_nil _ _) (List.append_ne_nil_of_right_ne_nil _ hne),
      String.utf8ByteSize_append, String.utf8ByteSize_append, ih, hround]
    change 4 + 1 + _ = _
    omega

theorem size_text_longWay (n : Nat) : (longWay n).text.utf8ByteSize = 5 * n + 1 := by
  have htext : (longWay n).text = String.intercalate "/" (longWay n).parts := by simp [Path.text, longWay]
  rw [htext, longWay, utf8ByteSize_rounds n (List.cons_ne_nil _ _)]
  rfl

theorem size_text_deep (n : Nat) : (child (longWay n) "deep").text.utf8ByteSize = 5 * n + 6 := by
  have htext : (child (longWay n) "deep").text =
      String.intercalate "/" ((List.replicate n ["a", ".."]).flatten ++ ["a", "deep"]) := by
    simp [child, Path.join, Path.isAbsolute, Path.text, longWay]
  rw [htext, utf8ByteSize_rounds n (List.cons_ne_nil _ _)]
  rfl

/-- However often it goes in and out, the way leads into the directory. -/
theorem foldlM_descend_longWay (n : Nat) :
    (longWay n).parts.foldlM (Files.descend (.directory bothDirectories)) [] = .ok ["a"] := by
  obtain ⟨hround, hlast⟩ : ["a", ".."].foldlM (Files.descend (.directory bothDirectories)) [] = .ok [] ∧
      ["a"].foldlM (Files.descend (.directory bothDirectories)) [] = .ok ["a"] := by decide +kernel
  induction n with
  | zero => exact hlast
  | succ n ih =>
    rw [longWay, List.replicate_succ, List.flatten_cons, List.append_assoc, List.foldlM_append, hround]
    exact ih

theorem lookup_longWay {n : Nat} (hn : n ≤ 818) :
    (hostOf bothDirectories).files.lookup (longWay n) = .ok (.directory nested) := by
  have hnull : (longWay n).hasNull = false := by simp [longWay, Path.hasNull]
  have hsize : (longWay n).text.utf8ByteSize ≤ Files.maxPath := by
    rw [size_text_longWay, Files.maxPath]
    omega
  refine Files.lookup_eq_ok_iff.2 ⟨["a"], ?_, by simp [hostOf, bothDirectories, Entry.find?, Named.find?]⟩
  rw [Files.locate, hnull, if_neg Bool.false_ne_true, if_neg (Nat.not_lt.2 hsize)]
  exact foldlM_descend_longWay n

/-- The path of the directory below just cannot be listed any more. -/
theorem expandPath_longWay {n : Nat} (hn : n = 818) (isKnown : Path → Bool) :
    expandPath (hostOf bothDirectories).files isKnown (longWay n) = .ok [] := by
  have hroom : listingRoom (longWay n) = 4095 := by simp [listingRoom, longWay, Files.maxPath]
  have hentered : isEntered (listingRoom (longWay n)) (longWay n) ("deep", .directory [("x.c", .file [])]) = false := by
    rw [isEntered, size_text_deep, hroom, hn]
    decide
  rw [expandPath, lookup_longWay hn.le]
  dsimp only
  rw [sourcesBelow_directory, subdirectories, ownSources]
  simp [nested, hentered, Entry.isDirectory, sortByName]

theorem name_below (top : Path) (place : List String) (name : String) : (below top (place ++ [name])).name = name := by
  simp [below, Path.join, Path.isAbsolute, Path.name]

/-- There is a file of a known suffix, in a directory that is not excluded; but the path of this is too long, so the
scan succeeds and reports nothing. -/
theorem scan_passes_over_deep :
    (∃ entries content,
      (hostOf bothDirectories).files.lookup (Path.ofString (String.ofList (longText 818))) = .ok (.directory entries) ∧
        (Entry.directory entries).find? ["deep", "x.c"] = some (.file content)) ∧
    "deep" ∉ excludedDirectories ∧
    isKnownSource csharpSuffixes clikeSuffixes (below (Path.ofString (String.ofList (longText 818))) ["deep", "x.c"]) = true ∧
    (run (hostOf bothDirectories) (scanWords [] [String.ofList (longText 818)] [])).ending = .ok none ∧
    (run (hostOf bothDirectories) (scanWords [] [String.ofList (longText 818)] [])).printed = [] := by
  have hplain : Plain (String.ofList (longText 818)) := by
    rw [Plain, String.toList_ofList]
    decide
  have hexpand := expandPath_longWay rfl (isKnownSource csharpSuffixes clikeSuffixes)
  have hscannable :
      Scannable (hostOf bothDirectories).files { root := ⟨"/", []⟩ } (Path.ofString (String.ofList (longText 818))) := by
    rw [ofString_longText]
    exact ⟨[], hexpand, List.forall_mem_nil _⟩
  have hknown : isKnownSource csharpSuffixes clikeSuffixes (below (longWay 818) ["deep", "x.c"]) = true := by
    have hname : (below (longWay 818) ["deep", "x.c"]).name = "x.c" := name_below (longWay 818) ["deep"] "x.c"
    rw [isKnownSource, hasSuffix, hasSuffix, Path.suffix, hname]
    decide
  obtain ⟨hends, hprinted⟩ := run_of_scannable starts_bothDirectories hplain hscannable
  rw [ofString_longText] at hprinted ⊢
  refine ⟨⟨_, [], lookup_longWay (Nat.le_refl 818), by simp [nested, Entry.find?, Named.find?]⟩, by decide, hknown, hends,
    hprinted.trans ?_⟩
  rw [listed, sourcesOf, List.flatMap_singleton, hexpand]
  rfl

end Landmarks.CommandLine
