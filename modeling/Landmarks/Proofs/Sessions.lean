import Landmarks.CommandLine.Run
import Landmarks.Proofs.Operation

/-!
# What a run does

* `Session.Gives` : what a part of a run gives from some files, and the files that it leaves; it is composed
  from that of its own parts.
* `Starts` : the configuration and the store that a run starts with.
* `run_serve` : a run that starts the service.
* `listed` : the markers of the files that paths stand for; `run_scan` : a scan prints just these, or fails
  if one of the files cannot be read.
* `run_settings` : a run that changes settings ends as the change does.
-/

namespace Landmarks.CommandLine

namespace Session

variable {α β : Type} {files after : Files}

/-- A part of a run gives a result from some files and leaves files behind. It may say something, but what it
does depends on nothing else. -/
def Gives (files : Files) (x : Op α) (r : Except RunError α) (after : Files) : Prop :=
  ∀ s : Session, s.files = files → ∃ log, exec x s = (r, ⟨after, log⟩)

theorem gives_pure (files : Files) (a : α) : Gives files (pure a) (.ok a) files := by
  rintro s rfl
  exact ⟨s.log, rfl⟩

theorem gives_attempt {ε : Type} (files : Files) (cause : ε → RunError) (r : Except ε α) :
    Gives files (attempt cause r) (r.mapError cause) files := by
  rintro s rfl
  cases r with
  | ok a => exact ⟨s.log, rfl⟩
  | error e => exact ⟨s.log, rfl⟩

theorem gives_setFiles (files after : Files) :
    Gives files (modify fun s : Session => { s with files := after }) (.ok PUnit.unit) after := by
  intro s hs
  exact ⟨s.log, rfl⟩

section

variable {x : Op α} {f : α → Op β} {r : Except RunError β}

theorem Gives.bind_ok {mid : Files} {a : α} (hx : Gives files x (.ok a) mid) (hf : Gives mid (f a) r after) :
    Gives files (x >>= f) r after := by
  intro s hs
  obtain ⟨log, hlog⟩ := hx s hs
  rw [exec_bind_of_ok hlog]
  exact hf _ rfl

theorem Gives.bind_error {e : RunError} (hx : Gives files x (.error e) after) : Gives files (x >>= f) (.error e) after := by
  intro s hs
  obtain ⟨log, hlog⟩ := hx s hs
  exact ⟨log, exec_bind_of_error hlog⟩

/-- Parts that leave the files alone give together what their results give. -/
theorem Gives.bind {r : Except RunError α} {g : α → Except RunError β} (hx : Gives files x r files)
    (hf : ∀ a, Gives files (f a) (g a) files) : Gives files (x >>= f) (r >>= g) files := by
  cases r with
  | error e => exact hx.bind_error
  | ok a => exact hx.bind_ok (hf a)

theorem gives_get_bind {f : Session → Op β} (h : ∀ s, s.files = files → Gives files (f s) r after) :
    Gives files (get >>= f) r after := by
  intro s hs
  rw [exec_get_bind]
  exact h s hs s hs

theorem gives_say_bind {records : List Record} {f : Unit → Op β} (h : Gives files (f ()) r after) :
    Gives files (say records >>= f) r after := by
  intro s hs
  exact h { s with log := s.log ++ records } hs

end

theorem Gives.foldlM {f : β → α → Op β} {g : β → α → Except RunError β}
    (h : ∀ b a, Gives files (f b a) (g b a) files) (xs : List α) (b : β) :
    Gives files (xs.foldlM f b) (xs.foldlM g b) files := by
  induction xs generalizing b with
  | nil => exact gives_pure files b
  | cons a xs ih => exact (h b a).bind ih

end Session

/-! ## The start -/

/-- The configuration of a place and the store that it names, as a run finds them. -/
structure Starts (host : Host) (dir : String) (c : Config) (settings : Path) (store : Store Empty) : Prop where
  config : Config.load host (Path.ofString dir) = .ok c
  place : c.settingsPath host = .ok settings
  opened : ∃ log, Store.openAt host.files (some settings) c.collection c.flags = .ok (store, log)

deriving instance DecidableEq for Config, Store, Arguments, Invocation

section

variable {host : Host} {dir : String} {c : Config} {settings : Path} {store : Store Empty}

/-- Whether a run finds a configuration and a store can be evaluated. -/
theorem starts_of_toOption (hconfig : (Config.load host (Path.ofString dir)).toOption = some c)
    (hplace : (c.settingsPath host).toOption = some settings)
    (hopened : (Store.openAt host.files (some settings) c.collection c.flags).toOption.map Prod.fst = some store) :
    Starts host dir c settings store := by
  obtain ⟨⟨found, log⟩, hfound, rfl⟩ := Option.map_eq_some_iff.1 hopened
  exact ⟨eq_ok_of_toOption hconfig, eq_ok_of_toOption hplace, log, eq_ok_of_toOption hfound⟩

theorem Starts.gives (h : Starts host dir c settings store) :
    Session.Gives host.files (Session.start host.homes (some dir)) (.ok (c, store)) host.files := by
  rintro s hs
  obtain ⟨log, hopened⟩ := h.opened
  refine ⟨s.log ++ log, ?_⟩
  change exec (Session.attempt .load (Config.load ⟨s.files, host.homes⟩ (Path.ofString dir)) >>= _) s = _
  simp only [hs, h.config, h.place, hopened, Session.attempt, pure_bind]
  rw [← hs]
  rfl

theorem run_of_gives {argv : List String} {i : Invocation} (hparse : Invocation.parse argv = .ok i)
    {r : Except RunError (List Char × Option Serving)} {after : Files}
    (h : Session.Gives host.files (Session.perform host.homes i) r after) :
    (run host argv).ending = r.map (·.2) ∧ (run host argv).printed = (r.map (·.1)).toOption.getD [] ∧
      (run host argv).files = after := by
  obtain ⟨log, hlog⟩ := h { files := host.files } rfl
  rw [exec] at hlog
  rw [run, hparse]
  simp only [hlog]
  cases r <;> exact ⟨rfl, rfl, rfl⟩

/-- A run that starts the service hands it the store. -/
theorem run_serve (h : Starts host dir c settings store) {argv : List String} {i : Invocation}
    (hparse : Invocation.parse argv = .ok i) (hcommand : i.command = .serve) (hconfig : i.arguments.config = some dir) :
    (run host argv).ending = .ok (some ⟨i.arguments.host, i.arguments.port, store, c.csharp⟩) := by
  have hgives : Session.Gives host.files (Session.perform host.homes i)
      (.ok ([], some ⟨i.arguments.host, i.arguments.port, store, c.csharp⟩)) host.files := by
    rw [Session.perform, hcommand, hconfig]
    exact h.gives.bind_ok (Session.gives_pure host.files _)
  exact (run_of_gives hparse hgives).1

/-! ## Scanning -/

/-- The rule set for a file: the language that is asked for, else that of its suffix. -/
def modeFor (c : Config) (language : Option Mode) (p : Path) : Mode := language.getD (Mode.detect c.csharp p)

/-- The files that paths stand for. -/
def sourcesOf (files : Files) (c : Config) (paths : List Path) : List Path :=
  paths.flatMap fun p => (expandPath files (isKnownSource c.csharp c.clike) p).toOption.getD []

/-- The markers of a file by some flags. -/
def markersOf (c : Config) (language : Option Mode) (flags : Flags) (p : Path) (bytes : List Utf8.Byte) : List Marker :=
  scan (modeFor c language p) flags (Encoding.utf8.decode bytes)

/-- The markers of all files that paths stand for, each file once. -/
def listed (files : Files) (c : Config) (language : Option Mode) (flags : Flags) (paths : List Path) : Results :=
  (sourcesOf files c paths).foldl (fun results p =>
    Named.put p.text (markersOf c language flags p ((files.read p).toOption.getD [])) results) []

/-- All that a path stands for can be read. -/
def Scannable (files : Files) (c : Config) (p : Path) : Prop :=
  ∃ ps, expandPath files (isKnownSource c.csharp c.clike) p = .ok ps ∧ ∀ q ∈ ps, ∃ bytes, files.read q = .ok bytes

section Scan

variable (files : Files) (c : Config) (language : Option Mode) (flags : Flags)

theorem announce_mode (p : Path) : (Session.announce c language p).1 = modeFor c language p := by
  cases language with
  | some mode => rfl
  | none =>
    simp only [Session.announce]
    split <;> rfl

theorem gives_scanFile (p : Path) :
    Session.Gives files (Session.scanFile c language flags p)
      ((files.read p).mapError (.scan · p) >>= fun bytes => .ok (markersOf c language flags p bytes)) files := by
  simp only [Session.scanFile, markersOf, ← announce_mode]
  refine Session.gives_say_bind (Session.gives_get_bind fun s hs => ?_)
  rw [hs]
  refine (Session.gives_attempt files _ _).bind fun bytes => ?_
  exact Session.gives_say_bind (Session.gives_pure files _)

/-- The results so far with those of a file. -/
def withFile (results : Results) (p : Path) : Except RunError Results :=
  (files.read p).mapError (.scan · p) >>= fun bytes =>
    .ok (Named.put p.text (markersOf c language flags p bytes) results)

/-- The results so far with those of a path. -/
def withPath (results : Results) (p : Path) : Except RunError Results :=
  (expandPath files (isKnownSource c.csharp c.clike) p).mapError (.scan · p) >>= fun ps =>
    ps.foldlM (withFile files c language flags) results

theorem gives_scanPath (results : Results) (p : Path) :
    Session.Gives files (Session.scanPath c language flags results p) (withPath files c language flags results p) files := by
  rw [Session.scanPath]
  refine Session.gives_get_bind fun s hs => ?_
  rw [hs]
  refine (Session.gives_attempt files _ _).bind fun ps => ?_
  refine Session.Gives.foldlM (fun results q => ?_) ps results
  have hfile := (gives_scanFile files c language flags q).bind fun ms =>
    Session.gives_pure files (Named.put q.text ms results)
  rw [bind_assoc] at hfile
  exact hfile

/-- With a condition there is a result, and without it a failure to scan. -/
def ScansIf {α : Type} (P : Prop) (x : Except RunError α) (a : α) : Prop :=
  (P ∧ x = .ok a) ∨ (¬ P ∧ ∃ e p, x = .error (.scan e p))

theorem ScansIf.foldlM {α β : Type} {P : α → Prop} {f : β → α → Except RunError β} {g : β → α → β}
    (h : ∀ b a, ScansIf (P a) (f b a) (g b a)) (xs : List α) (b : β) :
    ScansIf (∀ a ∈ xs, P a) (xs.foldlM f b) (xs.foldl g b) := by
  induction xs generalizing b with
  | nil => exact .inl ⟨fun a ha => absurd ha List.not_mem_nil, rfl⟩
  | cons a xs ih =>
    rcases h b a with ⟨ha, hok⟩ | ⟨ha, e, p, herror⟩
    · rw [List.foldlM_cons, hok, List.foldl_cons, List.forall_mem_cons, ScansIf]
      simp only [ha, true_and]
      exact ih (g b a)
    · refine .inr ⟨fun hall => ha (hall a List.mem_cons_self), e, p, ?_⟩
      rw [List.foldlM_cons, herror]
      rfl

theorem scansIf_withFile (results : Results) (p : Path) :
    ScansIf (∃ bytes, files.read p = .ok bytes) (withFile files c language flags results p)
      (Named.put p.text (markersOf c language flags p ((files.read p).toOption.getD [])) results) := by
  cases hread : files.read p with
  | ok bytes =>
    refine .inl ⟨⟨bytes, rfl⟩, ?_⟩
    rw [withFile, hread]
    rfl
  | error e =>
    refine .inr ⟨by simp, e, p, ?_⟩
    rw [withFile, hread]
    rfl

theorem scansIf_withPath (results : Results) (p : Path) :
    ScansIf (Scannable files c p) (withPath files c language flags results p)
      ((sourcesOf files c [p]).foldl (fun results p =>
        Named.put p.text (markersOf c language flags p ((files.read p).toOption.getD [])) results) results) := by
  rw [sourcesOf, List.flatMap_singleton]
  cases hpaths : expandPath files (isKnownSource c.csharp c.clike) p with
  | ok ps =>
    have hscannable : Scannable files c p ↔ ∀ q ∈ ps, ∃ bytes, files.read q = .ok bytes := by
      simp [Scannable, hpaths]
    rw [withPath, hpaths, hscannable]
    exact ScansIf.foldlM (scansIf_withFile files c language flags) ps results
  | error e =>
    refine .inr ⟨by simp [Scannable, hpaths], e, p, ?_⟩
    rw [withPath, hpaths]
    rfl

theorem scansIf_withPaths (paths : List Path) :
    ScansIf (∀ p ∈ paths, Scannable files c p) (paths.foldlM (withPath files c language flags) [])
      (listed files c language flags paths) := by
  have hfold := ScansIf.foldlM (scansIf_withPath files c language flags) paths []
  rw [listed, sourcesOf, List.foldl_flatMap]
  simpa only [sourcesOf, List.flatMap_singleton] using hfold

end Scan

/-- The results of a scan as they are asked for. -/
def Arguments.report (a : Arguments) (results : Results) : List Char :=
  if a.json then jsonText results else table results

/-- A run prints the markers of all files that some paths stand for, found with some flags, or it fails if
one of the files cannot be read. -/
def ScansWith (host : Host) (argv : List String) (c : Config) (a : Arguments) (paths : List String) (flags : Flags) :
    Prop :=
  ((∀ path ∈ paths, Scannable host.files c (Path.ofString path)) ∧ (run host argv).ending = .ok none ∧
    (run host argv).printed = a.report (listed host.files c a.language flags (paths.map Path.ofString))) ∨
  ((¬ ∀ path ∈ paths, Scannable host.files c (Path.ofString path)) ∧
    ∃ e p, (run host argv).ending = .error (.scan e p))

theorem run_scan (h : Starts host dir c settings store) {argv : List String} {i : Invocation}
    (hparse : Invocation.parse argv = .ok i) (hcommand : i.command = .scan) (hconfig : i.arguments.config = some dir) :
    ScansWith host argv c i.arguments i.paths (store.flags.setAll i.arguments.overrides) := by
  have hpaths := Session.Gives.foldlM (gives_scanPath host.files c i.arguments.language
    (store.flags.setAll i.arguments.overrides)) (i.paths.map Path.ofString) []
  have hgives : Session.Gives host.files (Session.perform host.homes i)
      ((i.paths.map Path.ofString).foldlM (withPath host.files c i.arguments.language
        (store.flags.setAll i.arguments.overrides)) [] >>= fun results => .ok (i.arguments.report results, none))
      host.files := by
    rw [Session.perform, hcommand, hconfig]
    exact h.gives.bind_ok (hpaths.bind fun results => Session.gives_pure host.files _)
  obtain ⟨hending, hprinted, -⟩ := run_of_gives hparse hgives
  rw [ScansWith, hending, hprinted, ← List.forall_mem_map]
  rcases scansIf_withPaths host.files c i.arguments.language (store.flags.setAll i.arguments.overrides)
    (i.paths.map Path.ofString) with ⟨hall, hok⟩ | ⟨hnot, e, p, herror⟩
  · rw [hok]
    exact .inl ⟨hall, rfl, rfl⟩
  · rw [herror]
    exact .inr ⟨hnot, e, p, rfl⟩

/-! ## Settings -/

/-- A run that changes settings ends as the change does. -/
theorem run_settings (h : Starts host dir c settings store) {argv : List String} {i : Invocation}
    (hparse : Invocation.parse argv = .ok i) (hcommand : i.command = .settings) (hconfig : i.arguments.config = some dir)
    (hne : i.arguments.assignments ≠ []) {r : Except RunError Flags} {after : Files}
    (hr : Session.Gives host.files (Session.assign store i.arguments.assignments) r after) :
    (run host argv).ending = r.map (fun _ => none) ∧
      (run host argv).printed = (r.map flagLines).toOption.getD [] ∧ (run host argv).files = after := by
  have hgives : Session.Gives host.files (Session.perform host.homes i) (r.map fun flags => (flagLines flags, none)) after := by
    rw [Session.perform, hcommand, hconfig]
    refine h.gives.bind_ok ?_
    simp only [List.isEmpty_iff, hne, if_false]
    cases r with
    | error e => exact hr.bind_error
    | ok flags => exact hr.bind_ok (Session.gives_pure after _)
  obtain ⟨hending, hprinted, hfiles⟩ := run_of_gives hparse hgives
  rw [hending, hprinted, hfiles]
  cases r <;> exact ⟨rfl, rfl, rfl⟩

end

end Landmarks.CommandLine
