import Landmarks.Proofs.Assignments
import Landmarks.Proofs.JsonScalars
import Landmarks.Proofs.ScannedPaths
import Landmarks.Proofs.Surfaces
import Landmarks.Proofs.WellFormed

/-!
# Tables read back

* `Marker.shown` : what a table shows of a marker; `readRow?` : a reader of the rows of a table.
* `readRow?_row` : a row is read as what it shows, whatever its name and however long its number.
* `splitOn_rows` : a table is cut into its rows at the line feeds.
* `TableRun` : a run that scans and prints a table; `exists_tableRun` : all scans that do; `TableRun.exists_of_file` : one
  for every text.
* `TableRun.rows_read_back` : the table of one file shows each of its markers in a row, in order, and what it shows can be
  told from it.
-/

namespace Landmarks

/-- What a table shows of a marker: all but its offset. -/
def Marker.shown (m : Marker) : Int × Kind × List Char := (m.line, m.kind, m.name)

/-- The kind with a name. -/
def Kind.ofName? (name : List Char) : Option Kind :=
  [header, function, type, accessSpecifier].find? fun k => k.name.toList == name

namespace CommandLine

open Text
open Number (isDigit digitsValue)

/-- What a row shows: digits, behind blanks, up to two blanks, a kind and blanks in sixteen columns, a blank, and a name up
to the end. -/
def readRow? (cs : List Char) : Option (Int × Kind × List Char) :=
  let body := stripStart (· == ' ') cs
  let digits := body.takeWhile isDigit
  match body.dropWhile isDigit with
  | ' ' :: ' ' :: columns =>
    match Kind.ofName? (stripEnd (· == ' ') (columns.take 16)), columns.drop 16 with
    | some kind, ' ' :: name => if digits.isEmpty then none else some (digitsValue digits, kind, name)
    | _, _ => none
  | _ => none

/-! ## Rows -/

theorem toList_toString {i : Int} (h : 0 ≤ i) : (toString i).toList = Nat.toDigits 10 i.toNat := by
  obtain ⟨n, rfl⟩ := Int.eq_ofNat_of_zero_le h
  exact String.toList_ofList

/-- The columns of a row. -/
theorem row_eq {m : Marker} (h : 0 ≤ m.line) :
    row m = List.replicate (6 - (Nat.toDigits 10 m.line.toNat).length) ' ' ++
      (Nat.toDigits 10 m.line.toNat ++ ' ' :: ' ' :: (padRight 16 m.kind.name.toList ++ ' ' :: m.name)) := by
  rw [row, padLeft, toList_toString h]
  simp only [List.append_assoc, List.cons_append, List.nil_append]

theorem length_padRight_name (k : Kind) : (padRight 16 k.name.toList).length = 16 := by cases k <;> rfl

theorem ofName?_padRight_name (k : Kind) : Kind.ofName? (stripEnd (· == ' ') (padRight 16 k.name.toList)) = some k := by
  cases k <;> rfl

/-- A row is read as what it shows. -/
theorem readRow?_row {m : Marker} (h : 0 ≤ m.line) : readRow? (row m) = some m.shown := by
  have hdigits := Json.all_isDigit_toDigits m.line.toNat
  obtain ⟨d, ds, hds⟩ := List.exists_cons_of_ne_nil (Nat.toDigits_ne_nil (b := 10) (n := m.line.toNat))
  have hfirst : (d == ' ') = false := by
    have hd := hdigits d (hds ▸ List.mem_cons_self)
    rw [beq_eq_false_iff_ne]
    rintro rfl
    cases hd
  have hbody : stripStart (· == ' ') (row m) =
      Nat.toDigits 10 m.line.toNat ++ ' ' :: ' ' :: (padRight 16 m.kind.name.toList ++ ' ' :: m.name) := by
    rw [row_eq h]
    refine stripStart_run_append (by simp) ?_
    rw [hds]
    exact startsOutside_cons (p := (· == ' ')) hfirst _
  have hrest : StartsOutside isDigit (' ' :: ' ' :: (padRight 16 m.kind.name.toList ++ ' ' :: m.name)) :=
    startsOutside_cons rfl _
  have hcolumns : List.dropWhile isDigit (Nat.toDigits 10 m.line.toNat ++
      ' ' :: ' ' :: (padRight 16 m.kind.name.toList ++ ' ' :: m.name)) =
      ' ' :: ' ' :: (padRight 16 m.kind.name.toList ++ ' ' :: m.name) := stripStart_run_append hdigits hrest
  have hvalue : (digitsValue (Nat.toDigits 10 m.line.toNat) : Int) = m.line := by
    rw [Json.digitsValue_toDigits, Int.toNat_of_nonneg h]
  simp only [readRow?, hbody, hcolumns, takeWhile_run_append hdigits hrest, List.take_left' (length_padRight_name m.kind),
    List.drop_left' (length_padRight_name m.kind), ofName?_padRight_name, hvalue]
  rw [hds]
  rfl

/-- A row has a line feed only in its name. -/
theorem lf_notMem_row {m : Marker} (h : 0 ≤ m.line) (hname : '\n' ∉ m.name) : '\n' ∉ row m := by
  have hkind : '\n' ∉ padRight 16 m.kind.name.toList := by cases m.kind <;> decide
  have hdigits : '\n' ∉ Nat.toDigits 10 m.line.toNat := notMem_of_run rfl (Json.all_isDigit_toDigits _)
  rw [row_eq h]
  simp [hkind, hdigits, hname]

theorem rows_cons (m : Marker) (ms : List Marker) : rows (m :: ms) = row m ++ '\n' :: rows ms := by
  rw [rows, List.flatMap_cons, List.append_assoc]
  rfl

/-- The line feeds of a table are the ends of its rows. -/
theorem splitOn_rows {ms : List Marker} (h : ∀ m ∈ ms, '\n' ∉ row m) : (rows ms).splitOn '\n' = ms.map row ++ [[]] := by
  induction ms with
  | nil => rfl
  | cons m ms ih =>
    obtain ⟨hm, hms⟩ := List.forall_mem_cons.1 h
    have hrow : (row m).splitOnP (· == '\n') = [row m] :=
      List.splitOnP_eq_singleton fun c hc => by
        rw [beq_eq_false_iff_ne]
        rintro rfl
        exact hm hc
    have hsplit : (row m ++ '\n' :: rows ms).splitOn '\n' = (row m).splitOnP (· == '\n') ++ (rows ms).splitOn '\n' :=
      List.splitOnP_append_cons _ _ rfl
    rw [rows_cons, hsplit, hrow, ih hms]
    rfl

theorem table_singleton (file : String) (ms : List Marker) : table [(file, ms)] = rows ms := by simp [table]

/-! ## The markers of a scan -/

/-- The markers of a text are on lines with numbers that are not negative, and have no line feeds in their names. -/
theorem of_mem_scan {mode : Mode} {flags : Flags} {text : List Char} {m : Marker} (hm : m ∈ scan mode flags text) :
    0 ≤ m.line ∧ '\n' ∉ m.name := by
  rw [scan_eq_filterMap, Document.linesAt, List.mem_filterMap] at hm
  obtain ⟨l, hl, hmark⟩ := hm
  obtain ⟨p, -, rfl⟩ := List.mem_map.1 hl
  obtain ⟨found, hfound, rfl⟩ := Option.map_eq_some_iff.1 hmark
  refine ⟨?_, (classify_wellFormed (lineAt_no_break text p) (classify_of_marked? hfound)).no_break.2⟩
  dsimp only
  omega

theorem splitOn_table_scan (mode : Mode) (flags : Flags) (text : List Char) (file : String) :
    (table [(file, scan mode flags text)]).splitOn '\n' = (scan mode flags text).map row ++ [[]] := by
  rw [table_singleton, splitOn_rows]
  intro m hm
  obtain ⟨hline, hname⟩ := of_mem_scan hm
  exact lf_notMem_row hline hname

theorem readRow?_scan (mode : Mode) (flags : Flags) (text : List Char) :
    ((scan mode flags text).map row).map readRow? = ((scan mode flags text).map Marker.shown).map some := by
  rw [List.map_map, List.map_map]
  refine List.map_congr_left fun m hm => ?_
  rw [Function.comp_apply, Function.comp_apply, readRow?_row (of_mem_scan hm).1]

/-! ## Runs -/

/-- The results of a scan, as they are put together from its files. -/
theorem listed_eq_merged (files : Files) (c : Config) (language : Option Mode) (flags : Flags) (paths : List Path) :
    listed files c language flags paths = merged ((sourcesOf files c paths).map fun p =>
      (p.text, markersOf c language flags p ((files.read p).toOption.getD []))) := by
  rw [listed, merged, List.foldl_map]

/-- What is reported of a file are the markers of its text. -/
theorem exists_file_of_mem_listed {files : Files} {c : Config} {language : Option Mode} {flags : Flags} {paths : List Path}
    (h : ∀ p ∈ paths, Scannable files c p) {file : String} {ms : List Marker}
    (hmem : (file, ms) ∈ listed files c language flags paths) :
    ∃ p bytes, files.read p = .ok bytes ∧ file = p.text ∧
      ms = scan (modeFor c language p) flags (Encoding.utf8.decode bytes) := by
  rw [listed_eq_merged] at hmem
  obtain ⟨p, hp, heq⟩ := List.mem_map.1 (mem_of_mem_merged hmem)
  obtain ⟨hfile, hms⟩ := Prod.mk.inj heq
  obtain ⟨path, hpath, hsource⟩ := List.mem_flatMap.1 hp
  obtain ⟨ps, hps, hread⟩ := h path hpath
  rw [hps] at hsource
  obtain ⟨bytes, hbytes⟩ := hread p hsource
  rw [hbytes] at hms
  exact ⟨p, bytes, hbytes, hfile.symm, hms.symm⟩

/-- A run that scans and prints a table: how it is called, the configuration and the store that it finds, and its end. -/
structure TableRun where
  host : Host
  argv : List String
  invocation : Invocation
  dir : String
  config : Config
  settings : Path
  store : Store Empty
  parsed : Invocation.parse argv = .ok invocation
  scans : invocation.command = .scan
  noJson : invocation.arguments.json = false
  configured : invocation.arguments.config = some dir
  starts : Starts host dir config settings store
  succeeds : (run host argv).ending = .ok none

/-- Every scan that succeeds and is not asked for JSON is such a run. -/
theorem exists_tableRun {host : Host} {argv : List String} {i : Invocation} (hparse : Invocation.parse argv = .ok i)
    (hcommand : i.command = .scan) (hjson : i.arguments.json = false) (hends : (run host argv).ending = .ok none) :
    ∃ r : TableRun, r.host = host ∧ r.argv = argv ∧ r.invocation = i := by
  obtain ⟨dir, c, settings, store, hconfig, hstarts⟩ := exists_starts hparse hends
  exact ⟨⟨host, argv, i, dir, c, settings, store, hparse, hcommand, hjson, hconfig, hstarts, hends⟩, rfl, rfl, rfl⟩

namespace TableRun

variable (r : TableRun)

/-- The flags by which a run scans. -/
def flags : Flags := r.store.flags.setAll r.invocation.arguments.overrides

/-- What a run reports: the markers of files, each file once. -/
def results : Results :=
  listed r.host.files r.config r.invocation.arguments.language r.flags (r.invocation.paths.map Path.ofString)

/-- What a run prints. -/
def printed : List Char := (run r.host r.argv).printed

/-- Every text is the one file of a run, with every rule set and all flags that options can ask for. -/
theorem exists_of_file {host : Host} {dir : String} {c : Config} {settings : Path} {store : Store Empty}
    (hstarts : Starts host dir c settings store) {path : String} (hplain : Plain path) {text : List Char}
    (hread : host.files.read (Path.ofString path) = .ok (Utf8.encode text)) (cs : List Choice)
    (hopts : ∀ c ∈ cs, c.opt ∈ Command.scan.grammar.options) (hconfig : (argumentsOf cs).config = some dir)
    (hjson : (argumentsOf cs).json = false) :
    ∃ r : TableRun, r.results = [((Path.ofString path).text, scan (modeFor c (argumentsOf cs).language (Path.ofString path))
      (store.flags.setAll (argumentsOf cs).overrides) text)] := by
  obtain ⟨hscannable, hlisted⟩ :=
    listed_file hread c (argumentsOf cs).language (store.flags.setAll (argumentsOf cs).overrides)
  have hparse : Invocation.parse (scanWords [] [path] cs) = .ok ⟨.scan, argumentsOf cs, [path]⟩ :=
    Invocation.parse_scan (List.cons_ne_nil path []) (List.forall_mem_singleton.2 hplain) hopts
  have hends := ((run_scan hstarts hparse rfl hconfig).of_scannable hscannable).1
  exact ⟨⟨host, _, _, dir, c, settings, store, hparse, rfl, hjson, hconfig, hstarts, hends⟩, hlisted⟩

theorem scannable_and_printed :
    (∀ path ∈ r.invocation.paths, Scannable r.host.files r.config (Path.ofString path)) ∧ r.printed = table r.results := by
  rcases run_scan r.starts r.parsed r.scans r.configured with ⟨hscannable, -, hprinted⟩ | ⟨-, e, p, herror⟩
  · rw [Arguments.report, r.noJson] at hprinted
    exact ⟨hscannable, hprinted⟩
  · have hends := r.succeeds
    rw [herror] at hends
    cases hends

theorem exists_file {file : String} {ms : List Marker} (hone : r.results = [(file, ms)]) :
    ∃ p bytes, r.host.files.read p = .ok bytes ∧ file = p.text ∧
      ms = scan (modeFor r.config r.invocation.arguments.language p) r.flags (Encoding.utf8.decode bytes) := by
  refine exists_file_of_mem_listed (List.forall_mem_map.2 r.scannable_and_printed.1) (?_ : (file, ms) ∈ r.results)
  rw [hone]
  exact List.mem_cons_self

/-- The rows of a table of one file. -/
theorem rows_of_printed {file : String} {ms : List Marker} (hone : r.results = [(file, ms)]) :
    r.printed.splitOn '\n' = ms.map row ++ [[]] ∧ (ms.map row).map readRow? = (ms.map Marker.shown).map some := by
  obtain ⟨p, bytes, -, -, rfl⟩ := r.exists_file hone
  rw [r.scannable_and_printed.2, hone]
  exact ⟨splitOn_table_scan _ _ _ _, readRow?_scan _ _ _⟩

/-- **The table of one file loses nothing.** A scan that reports one file prints the markers of the text of this file
in rows, one for each and in order, which line feeds end. From a row the line, the kind and the name of its marker are
read back. So two such scans print the same only if their markers have the same lines, kinds and names. -/
theorem rows_read_back {file : String} {ms : List Marker} (hone : r.results = [(file, ms)]) :
    (∃ p bytes, r.host.files.read p = .ok bytes ∧ file = p.text ∧
      ms = scan (modeFor r.config r.invocation.arguments.language p) r.flags (Encoding.utf8.decode bytes)) ∧
    r.printed.splitOn '\n' = ms.map row ++ [[]] ∧
    (ms.map row).map readRow? = (ms.map Marker.shown).map some ∧
    ∀ (other : TableRun) (file' : String) (ms' : List Marker), other.results = [(file', ms')] →
      ms'.map Marker.shown ≠ ms.map Marker.shown → other.printed ≠ r.printed := by
  obtain ⟨hsplit, hread⟩ := r.rows_of_printed hone
  refine ⟨r.exists_file hone, hsplit, hread, fun other file' ms' hone' hne hsame => hne ?_⟩
  obtain ⟨hsplit', hread'⟩ := other.rows_of_printed hone'
  have hrows : ms'.map row = ms.map row := by
    rw [hsame, hsplit] at hsplit'
    exact (List.append_cancel_right hsplit').symm
  have hshown : (ms'.map Marker.shown).map some = (ms.map Marker.shown).map some := by
    rw [← hread', hrows, hread]
  exact List.map_injective_iff.2 (Option.some_injective _) hshown

/-- A file with a class on its first line and a function on its third. -/
def twoMarkers : List Char := "class A\n\n\tvoid f() \x7b".toList

theorem scan_twoMarkers :
    scan .csharp {} twoMarkers = [⟨.type, ['A'], 0, 1⟩, ⟨.function, ['f'], 9, 3⟩] ∧
      scan .csharp (Flags.setAll {} [(.functions, false)]) twoMarkers = [⟨.type, ['A'], 0, 1⟩] := by
  rw [scan_eq_filterMap, scan_eq_filterMap]
  decide +kernel

theorem starts_twoMarkers :
    Starts (hostOf [("a.cs", .file (Utf8.encode twoMarkers))]) "." { root := ⟨"/", []⟩ } usualPlace usualStore :=
  starts_of_toOption (by decide +kernel) (by decide +kernel) (by decide +kernel)

theorem read_twoMarkers :
    (hostOf [("a.cs", .file (Utf8.encode twoMarkers))]).files.read (Path.ofString "a.cs") =
      .ok (Utf8.encode twoMarkers) ∧
      (Path.ofString "a.cs").text = "a.cs" ∧
      modeFor { root := ⟨"/", []⟩ } none (Path.ofString "a.cs") = .csharp := by decide +kernel

theorem rows_read_back_twoMarkers : ∃ r other : TableRun,
    r.printed.splitOn '\n' = ["     1  class            A".toList, "     3  function         f".toList, []] ∧
      other.results = [("a.cs", [⟨.type, ['A'], 0, 1⟩])] ∧ other.printed ≠ r.printed := by
  obtain ⟨hread, htext, hmode⟩ := read_twoMarkers
  obtain ⟨r, hr⟩ := exists_of_file starts_twoMarkers plain_sample hread [] (List.forall_mem_nil _) rfl rfl
  obtain ⟨other, hother⟩ :=
    exists_of_file starts_twoMarkers plain_sample hread [.flag .functions false] (by decide) rfl rfl
  change r.results = [(_, scan (modeFor _ none _) {} _)] at hr
  change other.results = [(_, scan (modeFor _ none _) (Flags.setAll {} [(.functions, false)]) _)] at hother
  rw [htext, hmode, scan_twoMarkers.1] at hr
  rw [htext, hmode, scan_twoMarkers.2] at hother
  obtain ⟨-, hrows, -, hdiffers⟩ := r.rows_read_back hr
  exact ⟨r, other, hrows, hother, hdiffers other _ _ hother (by decide)⟩

end TableRun

end CommandLine

end Landmarks
