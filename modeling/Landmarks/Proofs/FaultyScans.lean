import Landmarks.Scan

/-!
# Scans in which something fails

A rule may fail on any text, and the supply of lines may break off at any place. A scan goes on behind a
line on which a rule failed, and ends with what it has where the supply breaks off.

* `Rule.decides` : whether a rule is switched on and does not let a text pass. `firstFit_eq_find?` : the
  first such rule settles the marker of a text.
* `FailsOn` : a rule fails on a text before another has answered (`exists_error_iff`).
* `Line.fault?`, `Line.placed?` : the failure of a line, and its marker at its place.
* `scanLines_eq` : lines give the markers of those that do not fail, and a warning for each of the others.
* `scanWith_failingAt` : what is answered and logged, wherever the supply of lines breaks off.
-/

namespace Landmarks

open Text

/-! ## The rule that settles a text -/

section Rules

variable (flags : Flags) (cs : List Char)

/-- Whether a rule is switched on and does not let a text pass: it answers, or it fails. -/
def Rule.decides (r : Rule) : Bool :=
  flags.get r.flag &&
    match r.find flags cs with
    | .ok none => false
    | _ => true

/-- The marker that a rule gives a text. -/
def Rule.verdict (r : Rule) : Except Fault (Option Marker) :=
  match r.find flags cs with
  | .error fault => .error fault
  | .ok answer => .ok (answer.bind (markerOf r.kind))

theorem firstFit_eq_find? (rules : List Rule) :
    firstFit flags cs rules =
      ((rules.find? (Rule.decides flags cs)).map (Rule.verdict flags cs)).getD (.ok none) := by
  induction rules with
  | nil => rfl
  | cons r rest ih =>
    rw [firstFit, List.find?_cons, Rule.decides, ih]
    cases hon : flags.get r.flag with
    | false => simp
    | true =>
      cases hfind : r.find flags cs with
      | error fault => simp [Rule.verdict, hfind]
      | ok answer => cases answer <;> simp [Rule.verdict, hfind]

/-- Some rule that is switched on fails on a text, and none before it that is switched on answers. -/
def FailsOn (rules : List Rule) : Prop :=
  ∃ before r after, rules = before ++ r :: after ∧ flags.get r.flag = true ∧
    (∃ fault, r.find flags cs = .error fault) ∧
    ∀ q ∈ before, flags.get q.flag = true → ∀ name, q.find flags cs ≠ .ok (some name)

variable {flags cs}

theorem Rule.verdict_eq_error_iff {r : Rule} {fault : Fault} :
    r.verdict flags cs = .error fault ↔ r.find flags cs = .error fault := by
  rw [Rule.verdict]
  cases r.find flags cs <;> simp

theorem firstFit_eq_error_iff {rules : List Rule} {fault : Fault} :
    firstFit flags cs rules = .error fault ↔
      ∃ r, rules.find? (Rule.decides flags cs) = some r ∧ r.find flags cs = .error fault := by
  rw [firstFit_eq_find?]
  cases rules.find? (Rule.decides flags cs) with
  | none => simp
  | some r => simp [Rule.verdict_eq_error_iff]

/-- A rule that is switched on decides if it fails. -/
theorem Rule.decides_of_error {r : Rule} (hon : flags.get r.flag = true) {fault : Fault}
    (hfind : r.find flags cs = .error fault) : r.decides flags cs = true := by
  rw [Rule.decides, hon, hfind, Bool.true_and]

/-- A rule that decides without an answer fails. -/
theorem Rule.error_of_decides {r : Rule} (h : r.decides flags cs = true)
    (hanswer : flags.get r.flag = true → ∀ name, r.find flags cs ≠ .ok (some name)) :
    ∃ fault, r.find flags cs = .error fault := by
  rw [Rule.decides, Bool.and_eq_true] at h
  cases hfind : r.find flags cs with
  | error fault => exact ⟨fault, rfl⟩
  | ok answer =>
    cases answer with
    | none => simp [hfind] at h
    | some name => exact absurd hfind (hanswer h.1 name)

theorem exists_error_iff {rules : List Rule} :
    (∃ fault, firstFit flags cs rules = .error fault) ↔ FailsOn flags cs rules := by
  simp only [firstFit_eq_error_iff]
  constructor
  · rintro ⟨fault, r, hfirst, hfault⟩
    obtain ⟨hdecides, before, after, rfl, hbefore⟩ := List.find?_eq_some_iff_append.1 hfirst
    rw [Rule.decides, Bool.and_eq_true] at hdecides
    refine ⟨before, r, after, rfl, hdecides.1, ⟨fault, hfault⟩, fun q hq hon name hname => ?_⟩
    have hpass := hbefore q hq
    simp [Rule.decides, hon, hname] at hpass
  · rintro ⟨before, r, after, rfl, hon, ⟨fault, hfault⟩, hbefore⟩
    -- a rule before this one that decides has failed too
    cases hfirst : before.find? (Rule.decides flags cs) with
    | some q =>
      obtain ⟨fault', hfault'⟩ := Rule.error_of_decides (List.find?_some hfirst)
        (hbefore q (List.mem_of_find?_eq_some hfirst))
      exact ⟨fault', q, by rw [List.find?_append, hfirst, Option.some_or], hfault'⟩
    | none =>
      refine ⟨fault, r, ?_, hfault⟩
      rw [List.find?_append, hfirst, Option.none_or, List.find?_cons_of_pos (Rule.decides_of_error hon hfault)]

end Rules

/-! ## Lines -/

section Lines

variable (rules : List Rule) (flags : Flags)

/-- The failure of a line's classification, if it fails. -/
def Line.fault? (l : Line) : Option Fault :=
  match classifyWith rules flags l.text with
  | .error fault => some fault
  | .ok _ => none

/-- The marker of a line at the place of the line, if its classification gives one. -/
def Line.placed? (l : Line) : Option Marker :=
  match classifyWith rules flags l.text with
  | .ok (some m) => some { m with offset := l.start, line := l.number }
  | _ => none

/-- The warning about a line that is skipped. -/
def Line.skipped? (l : Line) : Option Record :=
  (l.fault? rules flags).map fun fault =>
    .warning "pipeline" s!"Skipping line {l.number}: {fault.message}"

theorem Line.exists_fault_iff (l : Line) :
    (∃ fault, l.fault? rules flags = some fault) ↔ FailsOn flags (trimStart l.text) rules := by
  rw [← exists_error_iff]
  refine exists_congr fun fault => ?_
  rw [Line.fault?, classifyWith]
  cases firstFit flags (trimStart l.text) rules <;> simp

/-- A line that fails has no marker. -/
theorem Line.placed?_of_fault {l : Line} (h : (l.fault? rules flags).isNone = false) :
    l.placed? rules flags = none := by
  rw [Line.fault?] at h
  rw [Line.placed?]
  cases hclass : classifyWith rules flags l.text with
  | error fault => rfl
  | ok answer => simp [hclass] at h

/-- Each line adds its own marker or its own warning, or nothing. -/
theorem scanLines_cons (l : Line) (rest : List Line) :
    scanLines rules flags (l :: rest) =
      ((l.placed? rules flags).toList ++ (scanLines rules flags rest).1,
        (l.skipped? rules flags).toList ++ (scanLines rules flags rest).2) := by
  rw [scanLines, Line.placed?, Line.skipped?, Line.fault?]
  cases classifyWith rules flags l.text with
  | error fault => rfl
  | ok answer => cases answer <;> rfl

theorem scanLines_eq (lines : List Line) :
    scanLines rules flags lines =
      (lines.filterMap (Line.placed? rules flags), lines.filterMap (Line.skipped? rules flags)) := by
  induction lines with
  | nil => rfl
  | cons l rest ih =>
    rw [scanLines_cons, ih]
    cases hplaced : l.placed? rules flags <;> cases hskipped : l.skipped? rules flags <;>
      simp [hplaced, hskipped]

theorem scanWith_eq (mode : Mode) (feed : Feed) :
    scanWith rules mode feed flags =
      (feed.lines.filterMap (Line.placed? rules flags), feed.lines.filterMap (Line.skipped? rules flags) ++
        [scanSummary mode feed.broken (feed.lines.filterMap (Line.placed? rules flags)).length]) := by
  rw [scanWith, scanLines_eq]

/-- Lines that fail take nothing from the others. -/
theorem filterMap_placed?_filter (lines : List Line) :
    (lines.filter fun l => (l.fault? rules flags).isNone).filterMap (Line.placed? rules flags) =
      lines.filterMap (Line.placed? rules flags) := by
  rw [List.filterMap_filter]
  congr 1
  funext l
  split
  · rfl
  · rename_i hfault
    rw [Line.placed?_of_fault rules flags (Bool.eq_false_iff.2 hfault)]

end Lines

/-! ## The supply of lines -/

/-- Lines that arrive one after another. With a failure at an index, only those before it arrive. -/
def Feed.failingAt (lines : List Line) (failure : Option (Nat × Fault)) : Feed :=
  failure.elim { lines } fun f => { lines := lines.take f.1, broken := some f.2 }

/-- **A scan loses only what fails.** The answer is the markers of the lines that arrive and do not fail, each
at its place, as if the lines that fail were not there. The log has a warning for each of these, in order, and
at its end one record with the number of markers. A line fails if a rule that is switched on fails on it and
none before that one answers. -/
theorem scanWith_failingAt (rules : List Rule) (mode : Mode) (flags : Flags) (lines : List Line)
    (failure : Option (Nat × Fault)) :
    let arrived := failure.elim lines fun f => lines.take f.1
    let out := scanWith rules mode (.failingAt lines failure) flags
    out.1 = arrived.filterMap (Line.placed? rules flags) ∧
      out.1 = (scanWith rules mode { lines := arrived.filter fun l => (l.fault? rules flags).isNone } flags).1 ∧
      out.2 = arrived.filterMap (fun l => (l.fault? rules flags).map fun fault =>
          .warning "pipeline" s!"Skipping line {l.number}: {fault.message}") ++
        [failure.elim (.debug "pipeline" s!"Scan produced {out.1.length} markers ({mode.name})") fun f =>
          .warning "pipeline" s!"Scan aborted after {out.1.length} markers: {f.2.message}"] ∧
      ∀ l : Line, (∃ fault, l.fault? rules flags = some fault) ↔ FailsOn flags (trimStart l.text) rules := by
  intro arrived out
  have hout : out = _ := scanWith_eq rules flags mode (.failingAt lines failure)
  have hmarkers : out.1 = arrived.filterMap (Line.placed? rules flags) := by
    rw [hout]
    cases failure <;> rfl
  refine ⟨hmarkers, ?_, ?_, Line.exists_fault_iff rules flags⟩
  · rw [hmarkers, scanWith_eq, filterMap_placed?_filter]
  · rw [hmarkers, hout]
    cases failure <;> rfl

end Landmarks
