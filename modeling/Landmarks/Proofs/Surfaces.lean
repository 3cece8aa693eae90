import Landmarks.Proofs.Assignments
import Landmarks.Proofs.OtherFiles
import Landmarks.Proofs.Requests

/-!
# The command line and the service

* `surfaces_layered` : a scan takes its flags from the options or the request, from the stored settings, from the
  configuration and from the built-in ones, in this order.
* `modeOf_eq`, `listed_file` : the rule set and the text of a file are the same for both.
* `Starts.leaves`, `Starts.after_runs` : runs that change settings leave the configuration as it was, if it is looked for
  where something is and its file does not hold the settings.
* `run_scan_file`, `respond_asked` : what a scan of a file prints, and what a service replies.
* `surfaces_agree` : both find the same markers in a file, also after the settings were changed.
* `surfaces_part` : without those two conditions they need not.
-/

namespace Landmarks

/-! ## The same flags -/

namespace CommandLine

/-- Both surfaces take a flag from the change that is asked for, else from the stored settings, else from the
configuration, else the built-in value. The service looks at the settings as they are at the time of the
request. -/
theorem surfaces_layered {host : Host} {dir : String} {c : Config} {settings : Path} {store : Store Empty}
    (h : Starts host dir c settings store) :
    (∀ (before after : List Choice) (paths : List String), paths ≠ [] → (∀ path ∈ paths, Plain path) →
      (∀ choice ∈ before ++ after, choice.opt ∈ Command.scan.grammar.options) →
      (argumentsOf (before ++ after)).config = some dir →
      ∃ flags : Flags,
        ScansWith host (scanWords before paths after) c (argumentsOf (before ++ after)) paths flags ∧
        ∀ f, flags.get f = layered (lastFor f ((before ++ after).filterMap Choice.change?))
          (Store.storedFlag? host.files settings c.collection f)
          (Config.configuredFlag? (Config.flagEntries host (Path.ofString dir)) f) f) ∧
    (∀ (argv : List String) (i : Invocation), Invocation.parse argv = .ok i → i.command = .serve →
      i.arguments.config = some dir →
      ∃ serving, (run host argv).ending = .ok (some serving) ∧
        ∀ (files : Files) (now : Store Empty) (log : List Record),
          Store.openAt files (some settings) c.collection c.flags = .ok (now, log) →
        ∀ (body : List Utf8.Byte) (j : Json) (r : Service.ScanRequest) (mode : Mode), Service.valueOf? body = some j →
          Service.ScanRequest.ofJson j = .ok r → (Service.App.ofStore serving.store serving.csharp).modeOf r = .ok mode →
        ∃ flags : Flags,
          ((Service.App.ofStore serving.store serving.csharp).respond files "POST" "/scan" body).1 =
            .markers mode (scan mode flags r.text.toList) ∧
          ∀ f, flags.get f = layered (Service.requestedFlag? j f) (Store.storedFlag? files settings c.collection f)
            (Config.configuredFlag? (Config.flagEntries host (Path.ofString dir)) f) f) := by
  obtain ⟨log, hopened⟩ := h.opened
  refine ⟨?_, ?_⟩
  · intro before after paths hpaths hplain hopts hconfig
    refine ⟨_, run_scan h (Invocation.parse_scan hpaths hplain hopts) rfl hconfig, fun f => ?_⟩
    rw [overrides_argumentsOf]
    exact get_setAll_layered h.config hopened _ f
  · intro argv i hparse hcommand hconfig
    refine ⟨_, run_serve h hparse hcommand hconfig, ?_⟩
    intro files now log' hnow body j r mode hbody hr hmode
    refine ⟨_, Service.respond_scan hbody hr hmode (Store.load_of_openAt hopened hnow), fun f => ?_⟩
    rw [get_setAll_layered h.config hnow, Service.lastFor_readOverrides (Service.ofJson_eq_ok.1 hr).2.2.2]

/-- A project whose configuration hides headers and classes, and whose settings show classes; the stored value
for functions counts for nothing. -/
def layeredHost : Host :=
  ⟨⟨.directory
      [(".scrollmarks.yml", .file (Utf8.encode "flags:\n  show_headers: no\n  show_classes: false\n".toList)),
       (".scrollmarks", .directory [("settings.json", .file (Utf8.encode ("\x7b\"version\": 1, \"collections\": ".toList ++
         "\x7b\"scrollmarks.FeatureFlags\": \x7b\"show_classes\": true, \"show_functions\": 0\x7d\x7d\x7d".toList)))])],
    ⟨"/", []⟩⟩, fun _ => none⟩

/-- The settings file of a project. -/
def samplePlace : Path := ⟨"/", [".scrollmarks", "settings.json"]⟩

/-- The store of a project. -/
def sampleStore (defaults flags : Flags) : Store Empty :=
  { path := some samplePlace, collection := defaultCollection, defaults, flags }

theorem starts_layered :
    Starts layeredHost "." { root := ⟨"/", []⟩, flags := { headers := false, classes := false } } samplePlace
      (sampleStore { headers := false, classes := false } { headers := false }) :=
  starts_of_toOption (by decide +kernel) (by decide +kernel) (by decide +kernel)

/-- A request that shows headers and leaves classes alone. -/
def sampleRequest : Json :=
  .obj [("text", .str "class A\n"), ("path", .str "a.cs"),
    ("flags", .obj [("show_headers", .bool true), ("show_classes", .null)])]

theorem valueOf?_sampleRequest : Service.valueOf? (Utf8.encode sampleRequest.pretty.toList) = some sampleRequest := by
  refine Service.valueOf?_pretty (List.cons_ne_nil _ _) ?_
  simp [Json.Readable, Json.ReadableFields, Json.Plain, Named.names]

theorem plain_sample : Plain "a.cs" := by
  unfold Plain
  decide

theorem text_sample : (Path.ofString "a.cs").text = "a.cs" := by decide +kernel

theorem detect_sample : Mode.detect csharpSuffixes (Path.ofString "a.cs") = .csharp := by decide +kernel

theorem parse_serve : Invocation.parse ["serve"] = .ok ⟨.serve, {}, []⟩ := rfl

/-- Functions are hidden by the last option for them, headers by the configuration, and classes are shown by the
settings; the request shows headers. -/
theorem surfaces_layered_sample :
    ScansWith layeredHost (scanWords [.flag .functions true, .json] ["a.cs"] [.flag .functions false])
      { root := ⟨"/", []⟩, flags := { headers := false, classes := false } }
      (argumentsOf ([.flag .functions true, .json] ++ [.flag .functions false])) ["a.cs"]
      { headers := false, functions := false } ∧
    ∃ serving, (run layeredHost ["serve"]).ending = .ok (some serving) ∧
      ((Service.App.ofStore serving.store serving.csharp).respond layeredHost.files "POST" "/scan"
        (Utf8.encode sampleRequest.pretty.toList)).1 =
        .markers .csharp (scan .csharp {} "class A\n".toList) := by
  obtain ⟨hscan, hserve⟩ := surfaces_layered starts_layered
  obtain ⟨log, hopened⟩ := starts_layered.opened
  have hlayered := fun changes f => get_setAll_layered starts_layered.config hopened changes f
  constructor
  · obtain ⟨flags, hwith, hflags⟩ := hscan [.flag .functions true, .json] [.flag .functions false] ["a.cs"]
      (by decide) (List.forall_mem_singleton.2 plain_sample) (by decide) rfl
    have hsame : flags = { headers := false, functions := false } :=
      Flags.ext_get fun f => (hflags f).trans (hlayered [(.functions, true), (.functions, false)] f).symm
    rw [← hsame]
    exact hwith
  · obtain ⟨serving, hending, hreplies⟩ := hserve ["serve"] _ parse_serve rfl rfl
    have hserving := (run_serve starts_layered parse_serve rfl rfl).symm.trans hending
    cases hserving
    obtain ⟨flags, hreply, hflags⟩ := hreplies layeredHost.files _ log hopened _ sampleRequest
      ⟨"class A\n", none, some "a.cs", [(.headers, true)]⟩ .csharp valueOf?_sampleRequest rfl (by decide +kernel)
    have hsame : flags = {} := by
      refine Flags.ext_get fun f => (hflags f).trans ?_
      have hrequested : Service.requestedFlag? sampleRequest f = lastFor f [(.headers, true)] := by cases f <;> rfl
      rw [hrequested]
      exact (hlayered [(.headers, true)] f).symm
    subst hsame
    exact ⟨_, hending, hreply⟩

end CommandLine

/-! ## The same rule set -/

theorem detect_empty (csharp : List String) : Mode.detect csharp (Path.ofString "") = .clike := by
  have hne : ∀ s, normaliseSuffix? s ≠ some [] := by
    intro s
    unfold normaliseSuffix?
    split <;> simp
  have hnone : hasSuffix csharp (Path.ofString "") = false := by
    have hsuffix : Text.lower (Path.ofString "").suffix = [] := by decide +kernel
    simp [hasSuffix, normaliseSuffixes, hsuffix, hne]
  rw [Mode.detect, hnone]
  rfl

/-- A request for a path is answered with the rule set that the command line takes for it. -/
theorem modeOf_eq (app : Service.App) (c : Config) (hc : app.csharp = c.csharp) (text path : String)
    (language : Option Mode) (changes : List (Flag × Bool)) :
    app.modeOf ⟨text, language.map Mode.name, some path, changes⟩ =
      .ok (CommandLine.modeFor c language (Path.ofString path)) := by
  cases language with
  | some mode =>
    have hparse : Mode.parse mode.name = .ok mode := by cases mode <;> decide +kernel
    have hname : (some mode.name).filter (!·.isEmpty) = some mode.name := by cases mode <;> rfl
    simp only [Service.App.modeOf, Option.map_some, hname]
    exact hparse
  | none =>
    -- For the service an empty path is none. It has no suffix, and no suffix of C# files is empty.
    by_cases hpath : path.isEmpty = true
    · have hempty := String.isEmpty_iff.1 hpath
      subst hempty
      rw [CommandLine.modeFor, Option.getD_none, detect_empty]
      rfl
    · have hfilter : (some path).filter (!·.isEmpty) = some path := by simp [Option.filter, hpath]
      simp only [Service.App.modeOf, Option.map_none, hfilter, hc]
      rfl

namespace CommandLine

/-! ## After the settings were changed -/

/-- The options of a run that changes settings: there are assignments, and the configuration is that of a
place. -/
structure ChangesSettings (dir : String) (cs : List Choice) : Prop where
  options : ∀ choice ∈ cs, choice.opt ∈ Command.settings.grammar.options
  config : (argumentsOf cs).config = some dir
  given : (argumentsOf cs).assignments ≠ []

/-- The files after some runs that change settings. -/
def afterSettings (homes : String → Option String) (files : Files) (runs : List (List Choice)) : Files :=
  runs.foldl (fun files cs => (run ⟨files, homes⟩ (settingsWords cs)).files) files

section

variable {homes : String → Option String} {files : Files} {dir : String} {c : Config} {settings : Path}
  {store : Store Empty}

/-- Whether or not the changes can be made and written, other files are left alone and the settings can be read. -/
theorem Starts.leaves (h : Starts ⟨files, homes⟩ dir c settings store) {cs : List Choice}
    (hcs : ChangesSettings dir cs) :
    files.Leaves settings (run ⟨files, homes⟩ (settingsWords cs)).files ∧
      Store.Legible (run ⟨files, homes⟩ (settingsWords cs)).files settings := by
  obtain ⟨old, log, hold, hpath, -⟩ := h.payloadAt
  have hparse := Invocation.parse_settings hcs.options
  cases hchecked : checked (argumentsOf cs).assignments with
  | error e =>
    obtain ⟨-, -, hfiles⟩ :=
      run_settings h hparse rfl hcs.config hcs.given (gives_assign_of_error hchecked files store)
    rw [hfiles]
    exact ⟨Files.leaves_of_sameContents (.refl settings files) (.refl files), Store.exists_payloadAt_iff.1 ⟨_, hold⟩⟩
  | ok out =>
    obtain ⟨-, -, hfiles⟩ := run_settings h hparse rfl hcs.config hcs.given
      (gives_assign_of_ok hchecked hpath hold rfl)
    rw [hfiles]
    exact ⟨Store.leaves_writeFile files settings _, Store.legible_writeFile hold _ _⟩

theorem Starts.after_run (h : Starts ⟨files, homes⟩ dir c settings store)
    (hapart : Config.Apart ⟨files, homes⟩ (Path.ofString dir) settings) {cs : List Choice}
    (hcs : ChangesSettings dir cs) :
    Config.Apart ⟨(run ⟨files, homes⟩ (settingsWords cs)).files, homes⟩ (Path.ofString dir) settings ∧
      ∃ now, Starts ⟨(run ⟨files, homes⟩ (settingsWords cs)).files, homes⟩ dir c settings now := by
  obtain ⟨hleaves, hlegible⟩ := h.leaves hcs
  obtain ⟨now, log, hopened⟩ := Store.exists_openAt hlegible c.collection c.flags
  exact ⟨hapart.of_leaves hleaves, now, Config.load_of_leaves hleaves hapart h.config h.place, h.place, log, hopened⟩

/-- However often the settings are changed, a run finds the configuration as it was and a store. -/
theorem Starts.after_runs (h : Starts ⟨files, homes⟩ dir c settings store)
    (hapart : Config.Apart ⟨files, homes⟩ (Path.ofString dir) settings) {runs : List (List Choice)}
    (hruns : ∀ cs ∈ runs, ChangesSettings dir cs) :
    ∃ now, Starts ⟨afterSettings homes files runs, homes⟩ dir c settings now := by
  induction runs generalizing files store with
  | nil => exact ⟨store, h⟩
  | cons cs runs ih =>
    obtain ⟨hcs, hruns⟩ := List.forall_mem_cons.1 hruns
    obtain ⟨hapart', now, hnow⟩ := h.after_run hapart hcs
    exact ih hnow hapart' hruns

end

/-! ## The same markers -/

/-- A path of a file stands for the file alone. -/
theorem listed_file {files : Files} {p : Path} {text : List Char} (h : files.read p = .ok (Utf8.encode text))
    (c : Config) (language : Option Mode) (flags : Flags) :
    Scannable files c p ∧ listed files c language flags [p] = [(p.text, scan (modeFor c language p) flags text)] := by
  have hpath : expandPath files (isKnownSource c.csharp c.clike) p = .ok [p] := by
    rw [expandPath, Files.read_eq_ok_iff.1 h]
  refine ⟨⟨[p], hpath, by simp [h]⟩, ?_⟩
  simp [listed, sourcesOf, hpath, h, Except.toOption, Named.put, markersOf, Encoding.decode, Utf8.decodeLossy_encode]

theorem run_scan_file {host : Host} {dir : String} {c : Config} {settings : Path} {store : Store Empty}
    (h : Starts host dir c settings store) {path text : String} (hplain : Plain path)
    (hfile : host.files.read (Path.ofString path) = .ok (Utf8.encode text.toList)) {before after : List Choice}
    (hopts : ∀ choice ∈ before ++ after, choice.opt ∈ Command.scan.grammar.options)
    (hdir : (argumentsOf (before ++ after)).config = some dir) (hjson : (argumentsOf (before ++ after)).json = true) :
    (run host (scanWords before [path] after)).ending = .ok none ∧
      (run host (scanWords before [path] after)).printed = jsonText [((Path.ofString path).text,
        scan (modeFor c (argumentsOf (before ++ after)).language (Path.ofString path))
          (store.flags.setAll ((before ++ after).filterMap Choice.change?)) text.toList)] := by
  obtain ⟨hscannable, hlisted⟩ := listed_file hfile c (argumentsOf (before ++ after)).language
    (store.flags.setAll ((before ++ after).filterMap Choice.change?))
  have hscan := run_scan h (Invocation.parse_scan (List.cons_ne_nil path []) (List.forall_mem_singleton.2 hplain)
    hopts) rfl hdir
  rw [ScansWith, overrides_argumentsOf] at hscan
  rcases hscan with ⟨-, hending, hprinted⟩ | ⟨hnot, -⟩
  · refine ⟨hending, ?_⟩
    rw [hprinted, Arguments.report, if_pos hjson, List.map_singleton, hlisted]
  · exact absurd (fun q hq => List.mem_singleton.1 hq ▸ hscannable) hnot

/-- A service replies with the flags that its store loads, and the changes that are asked for. -/
theorem respond_asked {store : Store Empty} {files : Files} {flags : Flags} {log : List Record}
    (hload : store.load files = .ok (flags, log)) (c : Config) {body : List Utf8.Byte} {j : Json}
    (hbody : Service.valueOf? body = some j) {text path : String} {language : Option Mode}
    {changes : List (Flag × Bool)} (hasks : Service.Asks j text path language fun f => lastFor f changes) :
    ((Service.App.ofStore store c.csharp).respond files "POST" "/scan" body).1 =
      .markers (modeFor c language (Path.ofString path))
        (scan (modeFor c language (Path.ofString path)) (flags.setAll changes) text.toList) := by
  obtain ⟨asked, hrequest, hasked⟩ := hasks.request
  -- The request lists each flag once and in another order, but only the last change counts.
  have hflags : flags.setAll asked = flags.setAll changes := by
    refine Flags.ext_get fun f => ?_
    rw [Flags.get_setAll, Flags.get_setAll, hasked]
  rw [← hflags]
  exact Service.respond_scan hbody hrequest (modeOf_eq (Service.App.ofStore store c.csharp) c rfl _ _ _ _) hload

/-- The markers that a scan of a file prints are those that a service replies with for its text, at any time at
which the configuration is the one that the service was started with. What was done to the settings since then does
not matter: the flags are those that are stored now, with the changes that are asked for. In particular this is so
after any number of runs that change settings, if the configuration is looked for where something is and the
settings are not kept in its file. -/
theorem surfaces_agree {homes : String → Option String} {files : Files} {dir : String} {c : Config} {settings : Path}
    {store : Store Empty} (hserved : Starts ⟨files, homes⟩ dir c settings store) {argv : List String} {i : Invocation}
    (hparse : Invocation.parse argv = .ok i) (hcommand : i.command = .serve) (hconfig : i.arguments.config = some dir) :
    ∃ serving, (run ⟨files, homes⟩ argv).ending = .ok (some serving) ∧
      (∀ (files' : Files) (now : Store Empty), Starts ⟨files', homes⟩ dir c settings now →
        ∀ path text : String, Plain path → files'.read (Path.ofString path) = .ok (Utf8.encode text.toList) →
        ∀ before after : List Choice, (∀ choice ∈ before ++ after, choice.opt ∈ Command.scan.grammar.options) →
          (argumentsOf (before ++ after)).config = some dir → (argumentsOf (before ++ after)).json = true →
        ∀ (body : List Utf8.Byte) (j : Json), Service.valueOf? body = some j →
          Service.Asks j text path (argumentsOf (before ++ after)).language
            (fun f => lastFor f ((before ++ after).filterMap Choice.change?)) →
        ∃ markers,
          (run ⟨files', homes⟩ (scanWords before [path] after)).ending = .ok none ∧
          (run ⟨files', homes⟩ (scanWords before [path] after)).printed =
            jsonText [((Path.ofString path).text, markers)] ∧
          ((Service.App.ofStore serving.store serving.csharp).respond files' "POST" "/scan" body).1 =
            .markers (modeFor c (argumentsOf (before ++ after)).language (Path.ofString path)) markers ∧
          markers = scan (modeFor c (argumentsOf (before ++ after)).language (Path.ofString path))
            (now.flags.setAll ((before ++ after).filterMap Choice.change?)) text.toList) ∧
      ∀ runs : List (List Choice), Config.Apart ⟨files, homes⟩ (Path.ofString dir) settings →
        (∀ cs ∈ runs, ChangesSettings dir cs) →
        ∃ now, Starts ⟨afterSettings homes files runs, homes⟩ dir c settings now := by
  obtain ⟨log, hopened⟩ := hserved.opened
  refine ⟨_, run_serve hserved hparse hcommand hconfig, ?_,
    fun runs hapart hruns => hserved.after_runs hapart hruns⟩
  intro files' now hnow path text hplain hfile before after hopts hdir hjson body j hbody hasks
  obtain ⟨log', hopened'⟩ := hnow.opened
  obtain ⟨hending, hprinted⟩ := run_scan_file hnow hplain hfile hopts hdir hjson
  exact ⟨_, hending, hprinted, respond_asked (Store.load_of_openAt hopened hopened') c hbody hasks, rfl⟩

/-- A project with one file. -/
def soleHost : Host := ⟨⟨.directory [("a.cs", .file (Utf8.encode "class A\n".toList))], ⟨"/", []⟩⟩, fun _ => none⟩

/-- Its files after a change of the settings. -/
def soleChanged : Files := afterSettings soleHost.homes soleHost.files [[.set "show_functions=off"]]

theorem apart_sole : Config.Apart soleHost (Path.ofString ".") samplePlace := by
  have hlocate : (Config.locate soleHost (Path.ofString ".")).toOption = some ⟨"/", [".scrollmarks.yml"]⟩ := by
    decide +kernel
  refine ⟨⟨⟨"", []⟩, rfl, by decide +kernel⟩, ?_⟩
  rw [eq_ok_of_toOption hlocate, Ne, Except.ok.injEq]
  decide +kernel

/-- The service was started before the change, and the scan is run after it. -/
theorem surfaces_agree_sample :
    Starts soleHost "." { root := ⟨"/", []⟩ } samplePlace (sampleStore {} {}) ∧
    ∃ now : Store Empty, Starts ⟨soleChanged, soleHost.homes⟩ "." { root := ⟨"/", []⟩ } samplePlace now ∧
      now.flags = { functions := false } ∧
      ∃ serving markers, (run soleHost ["serve"]).ending = .ok (some serving) ∧
        (run ⟨soleChanged, soleHost.homes⟩ (scanWords [.flag .headers true] ["a.cs"] [.json])).printed =
          jsonText [("a.cs", markers)] ∧
        ((Service.App.ofStore serving.store serving.csharp).respond soleChanged "POST" "/scan"
          (Utf8.encode sampleRequest.pretty.toList)).1 =
          .markers .csharp markers ∧
        markers = scan .csharp { functions := false } "class A\n".toList := by
  have hserved : Starts soleHost "." { root := ⟨"/", []⟩ } samplePlace (sampleStore {} {}) :=
    starts_of_toOption (by decide +kernel) (by decide +kernel) (by decide +kernel)
  have hwritable : Store.Writable soleHost.files samplePlace := by
    unfold Store.Writable
    decide +kernel
  obtain ⟨serving, hending, hreplies, hlater⟩ := surfaces_agree hserved parse_serve rfl rfl
  have hchanges : ChangesSettings "." [.set "show_functions=off"] := ⟨by decide, rfl, List.cons_ne_nil _ _⟩
  obtain ⟨now, hnow⟩ := hlater [[.set "show_functions=off"]] apart_sole (List.forall_mem_singleton.2 hchanges)
  have hflags : now.flags = { functions := false } := by
    have hchecked : checked [some "show_functions=off"] = .ok [(.functions, false)] :=
      eq_ok_of_toOption (by decide +kernel)
    obtain ⟨-, -, hkeeps⟩ := run_of_checked hserved hwritable (Invocation.parse_settings hchanges.options) rfl rfl
      hchanges.given hchecked
    obtain ⟨log, hopened⟩ := hnow.opened
    have hsame := hopened.symm.trans (Store.openAt_of_keeps (hkeeps (Str.sound_ofString _)) {})
    cases hsame
    rfl
  have hfile : soleChanged.read (Path.ofString "a.cs") = .ok (Utf8.encode "class A\n".toList) := by decide +kernel
  have hasks : Service.Asks sampleRequest "class A\n" "a.cs" none
      fun f => lastFor f (([.flag .headers true] ++ [.json] : List Choice).filterMap Choice.change?) :=
    ⟨rfl, rfl, rfl, .inr ⟨_, rfl, fun f => by cases f <;> rfl⟩⟩
  obtain ⟨markers, -, hprinted, hreply, hmarkers⟩ := hreplies soleChanged now hnow "a.cs" "class A\n" plain_sample
    hfile [.flag .headers true] [.json] (by decide) rfl rfl _ _ valueOf?_sampleRequest hasks
  have hmode : modeFor { root := ⟨"/", []⟩ } none (Path.ofString "a.cs") = .csharp := detect_sample
  rw [text_sample] at hprinted
  rw [hflags] at hmarkers
  exact ⟨hserved, now, hnow, hflags, serving, markers, hending, hprinted, hmode ▸ hreply, hmode ▸ hmarkers⟩

/-- A request that changes no flag. -/
def plainRequest : Json := .obj [("text", .str "class A\n"), ("path", .str "a.cs")]

/-- The files after classes were hidden. -/
def hidden (host : Host) (dir : String) : Files := (run host (settingsWords [.config dir, .set "show_classes=no"])).files

/-- A service that was started before classes were hidden shows none, but a scan does. -/
def Parted (host : Host) (dir : String) : Prop :=
  ∃ serving, (run host ["serve", "--config", dir]).ending = .ok (some serving) ∧
    ((Service.App.ofStore serving.store serving.csharp).respond (hidden host dir) "POST" "/scan"
      (Utf8.encode plainRequest.pretty.toList)).1 = .markers .csharp [] ∧
    (run ⟨hidden host dir, host.homes⟩ (scanWords [] ["a.cs"] [.config dir, .json])).printed =
      jsonText [("a.cs", [⟨.type, "A".toList, 0, 1⟩])]

theorem checked_hide : checked [some "show_classes=no"] = .ok [(.classes, false)] :=
  eq_ok_of_toOption (by decide +kernel)

/-- A store with the built-in flags. -/
def builtInStore (settings : Path) : Store Empty :=
  { path := some settings, collection := defaultCollection, defaults := {}, flags := {} }

theorem parted_of_starts {host : Host} {dir : String} {root root' settings settings' : Path} {place : Option Path}
    (h : Starts host dir { root, settings := place } settings (builtInStore settings))
    (hwritable : Store.Writable host.files settings) (hdir : valueOf? dir = some dir)
    (hserve : Invocation.parse ["serve", "--config", dir] = .ok ⟨.serve, { config := some dir }, []⟩)
    (hfile : (hidden host dir).read (Path.ofString "a.cs") = .ok (Utf8.encode "class A\n".toList))
    (h' : Starts ⟨hidden host dir, host.homes⟩ dir { root := root' } settings' (builtInStore settings')) :
    Parted host dir := by
  refine ⟨_, run_serve h hserve rfl rfl, ?_, ?_⟩
  · -- The service reads the store that it was started with, which keeps the change.
    have hopts : ∀ choice ∈ [Choice.config dir, .set "show_classes=no"],
        choice.opt ∈ Command.settings.grammar.options := by
      simp only [List.forall_mem_cons, Choice.opt]
      decide
    obtain ⟨-, -, hkeeps⟩ := run_of_checked h hwritable (Invocation.parse_settings hopts) rfl hdir
      (List.cons_ne_nil _ _) checked_hide
    have hload : (builtInStore settings).load (hidden host dir) = .ok ({ classes := false }, []) :=
      Store.load_of_keeps rfl (hkeeps (Str.sound_ofString _))
    have hbody : Service.valueOf? (Utf8.encode plainRequest.pretty.toList) = some plainRequest := by
      refine Service.valueOf?_pretty (List.cons_ne_nil _ _) ?_
      simp [Json.Readable, Json.ReadableFields, Named.names]
    have hasks : Service.Asks plainRequest "class A\n" "a.cs" none fun f => lastFor f [] :=
      ⟨rfl, rfl, rfl, .inl ⟨rfl, fun _ => rfl⟩⟩
    have hreply := respond_asked hload { root, settings := place } hbody hasks
    have hnothing : scan .csharp { classes := false } "class A\n".toList = [] := by decide +kernel
    rw [modeFor, Option.getD_none, detect_sample] at hreply
    exact hreply.trans (congrArg (Service.Reply.markers .csharp) hnothing)
  · have hopts : ∀ choice ∈ ([] : List Choice) ++ [.config dir, .json], choice.opt ∈ Command.scan.grammar.options := by
      simp only [List.nil_append, List.forall_mem_cons, Choice.opt]
      decide
    obtain ⟨-, hprinted⟩ := run_scan_file h' plain_sample hfile hopts hdir rfl
    have hfound : scan .csharp {} "class A\n".toList = [⟨.type, "A".toList, 0, 1⟩] := by decide +kernel
    rw [hprinted, text_sample, ← hfound, ← detect_sample]
    rfl

/-- A project that keeps its settings in the file of its configuration. -/
def selfHost : Host :=
  ⟨⟨.directory [(".scrollmarks.yml", .file (Utf8.encode "settings:\n  path: .scrollmarks.yml\n".toList)),
    ("a.cs", .file (Utf8.encode "class A\n".toList))], ⟨"/", []⟩⟩, fun _ => none⟩

/-- The file of both. -/
def selfPlace : Path := ⟨"/", [".scrollmarks.yml"]⟩

theorem starts_self :
    Starts selfHost "." { root := ⟨"/", []⟩, settings := some ⟨"", [".scrollmarks.yml"]⟩ } selfPlace
      (builtInStore selfPlace) :=
  starts_of_toOption (by decide +kernel) (by decide +kernel) (by decide +kernel)

/-- After a change of the settings the file holds these only. -/
theorem hidden_self : hidden selfHost "." = (exec (Store.writeFile selfPlace (Utf8.encode (Json.prettyChars 0
    (Json.obj (Store.savedFields defaultCollection { classes := false } [])).sortKeys))) selfHost.files).2 := by
  have hempty : (Store.payloadAt selfHost.files selfPlace).toOption.map (·.1.length) = some 0 := by decide +kernel
  obtain ⟨⟨old, log⟩, hold, hlength⟩ := Option.map_eq_some_iff.1 hempty
  obtain rfl := List.length_eq_zero_iff.1 hlength
  have hopts : ∀ choice ∈ [Choice.config ".", .set "show_classes=no"],
      choice.opt ∈ Command.settings.grammar.options := by decide
  obtain ⟨-, -, hfiles⟩ := run_settings starts_self (Invocation.parse_settings hopts) rfl rfl
    (List.cons_ne_nil _ _) (gives_assign_of_ok checked_hide rfl (eq_ok_of_toOption hold) rfl)
  rw [Store.fileBytes, Json.pretty, String.toList_ofList] at hfiles
  exact hfiles

/-- **The surfaces part** if the settings are kept in the file of the configuration, which is the usual one after
they were changed, and if the configuration is looked for where nothing is until the settings are put there. -/
theorem surfaces_part : Parted selfHost "." ∧ Parted soleHost ".scrollmarks" := by
  constructor
  · have hwritable : Store.Writable selfHost.files selfPlace := by
      unfold Store.Writable
      decide +kernel
    have hlater : Starts ⟨hidden selfHost ".", selfHost.homes⟩ "." { root := ⟨"/", []⟩ } samplePlace
        (builtInStore samplePlace) := by
      rw [hidden_self]
      exact starts_of_toOption (by decide +kernel) (by decide +kernel) (by decide +kernel)
    refine parted_of_starts starts_self hwritable rfl (eq_ok_of_toOption (by decide +kernel)) ?_ hlater
    rw [hidden_self]
    decide +kernel
  · have hserved : Starts soleHost ".scrollmarks" { root := ⟨"/", []⟩ } samplePlace (builtInStore samplePlace) :=
      starts_of_toOption (by decide +kernel) (by decide +kernel) (by decide +kernel)
    have hwritable : Store.Writable soleHost.files samplePlace := by
      unfold Store.Writable
      decide +kernel
    have hlater : Starts ⟨hidden soleHost ".scrollmarks", soleHost.homes⟩ ".scrollmarks"
        { root := ⟨"/", [".scrollmarks"]⟩ } ⟨"/", [".scrollmarks", ".scrollmarks", "settings.json"]⟩
        (builtInStore ⟨"/", [".scrollmarks", ".scrollmarks", "settings.json"]⟩) :=
      starts_of_toOption (by decide +kernel) (by decide +kernel) (by decide +kernel)
    exact parted_of_starts hserved hwritable rfl (eq_ok_of_toOption (by decide +kernel)) (by decide +kernel) hlater

end CommandLine

end Landmarks
