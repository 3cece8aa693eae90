import Landmarks.CommandLine.Arguments
import Mathlib.Data.List.Basic

/-!
# Command lines that are read as they are meant

* `Choice` : an option as one word gives it, with `Choice.word` as it is written and `Choice.addTo` as it
  is understood.
* `classify_choice` : the word of an option is recognised where the option is allowed.
* `readFrom_choices` : options are taken one after another.
* `Invocation.parse_scan`, `Invocation.parse_settings` : a command line of a command, options in any order
  and, for a scan, paths between them.
-/

namespace Landmarks.CommandLine

/-- An option as one word gives it. -/
inductive Choice
  | verbose
  | config (path : String)
  | language (mode : Mode)
  | json
  | flag (f : Flag) (value : Bool)
  | set (assignment : String)

namespace Choice

/-- The option. -/
def opt : Choice → Opt
  | verbose => .verbose
  | config _ => .config
  | language _ => .language
  | json => .json
  | flag f _ => .flag f
  | set _ => .set

/-- The name under which it is given. -/
def name : Choice → String
  | verbose => "--verbose"
  | config _ => "--config"
  | language _ => "--language"
  | json => "--json"
  | flag f value => (if value then "--" else "--no-") ++ flagWord f
  | set _ => "--set"

/-- Its value, if it has one. -/
def value? : Choice → Option String
  | config path => some path
  | language mode => some mode.name
  | set assignment => some assignment
  | _ => none

/-- The word that gives it. -/
def word (c : Choice) : String :=
  match c.value? with
  | some value => c.name ++ "=" ++ value
  | none => c.name

/-- What it says, after what was said before. -/
def addTo (a : Arguments) : Choice → Arguments
  | verbose => { a with verbose := true }
  | config path => { a with config := valueOf? path }
  | language mode => { a with language := some mode }
  | json => { a with json := true }
  | flag f value => { a with overrides := a.overrides ++ [(f, value)] }
  | set assignment => { a with assignments := a.assignments ++ [valueOf? assignment] }

/-- The change of a flag that it makes. -/
def change? : Choice → Option (Flag × Bool)
  | flag f value => some (f, value)
  | _ => none

/-- The assignment that it holds. -/
def assignment? : Choice → Option String
  | set assignment => some assignment
  | _ => none

/-- The word as it is recognised. -/
def recognised (c : Choice) : Word := .option c.word c.opt c.name (c.value?.map String.toList)

theorem name_mem (c : Choice) : c.name ∈ c.opt.names := by
  cases c with
  | flag f value => cases value <;> simp [name, opt, Opt.names]
  | _ => simp [name, opt, Opt.names]

theorem takesValue_opt (c : Choice) : c.opt.takesValue = c.value?.isSome := by cases c <;> rfl

theorem give_choice (a : Arguments) (c : Choice) : a.give c.opt c.name (c.value?.bind valueOf?) = .ok (c.addTo a) := by
  cases c with
  | language mode => cases mode <;> rfl
  | flag f value =>
    have hname : (((Choice.flag f value).name == "--" ++ flagWord f) : Bool) = value := by
      cases f <;> cases value <;> decide
    simp only [opt, Arguments.give, hname, addTo]
  | _ => rfl

end Choice

/-- What options say together. -/
def argumentsOf (cs : List Choice) : Arguments := cs.foldl Choice.addTo {}

/-- The words of a scan of paths, with options before and behind them. -/
def scanWords (before : List Choice) (paths : List String) (after : List Choice) : List String :=
  "scan" :: (before.map Choice.word ++ (paths ++ after.map Choice.word))

/-- The words of the command for settings. -/
def settingsWords (cs : List Choice) : List String := "settings" :: cs.map Choice.word

/-- What each option adds to a list, the options add one after another. -/
theorem foldl_addTo_append {β : Type} (field : Arguments → List β) (part : Choice → Option β)
    (h : ∀ a c, field (c.addTo a) = field a ++ (part c).toList) (cs : List Choice) (a : Arguments) :
    field (cs.foldl Choice.addTo a) = field a ++ cs.filterMap part := by
  induction cs generalizing a with
  | nil => simp
  | cons c cs ih =>
    rw [List.foldl_cons, ih, h, List.append_assoc, List.filterMap_cons]
    cases part c <;> rfl

theorem overrides_argumentsOf (cs : List Choice) : (argumentsOf cs).overrides = cs.filterMap Choice.change? := by
  have hadd : ∀ a c, (Choice.addTo a c).overrides = a.overrides ++ c.change?.toList := by
    intro a c
    cases c <;> simp [Choice.addTo, Choice.change?]
  exact foldl_addTo_append Arguments.overrides Choice.change? hadd cs {}

theorem assignments_argumentsOf (cs : List Choice) :
    (argumentsOf cs).assignments = (cs.filterMap Choice.assignment?).map valueOf? := by
  have hadd : ∀ a c, (Choice.addTo a c).assignments = a.assignments ++ (c.assignment?.map valueOf?).toList := by
    intro a c
    cases c <;> simp [Choice.addTo, Choice.assignment?]
  rw [List.map_filterMap]
  exact foldl_addTo_append Arguments.assignments _ hadd cs {}

/-! ## Words -/

theorem text_of_classify {opts : List Opt} {word : String} {w : Word} (h : classify opts word = .ok w) : w.text = word := by
  unfold classify at h
  split at h
  · split at h
    · cases h
      rfl
    · unfold classifyDashed at h
      dsimp only at h
      split at h
      · cases h
        rfl
      · split at h
        · split at h <;> (cases h; rfl)
        · cases h
          rfl
        · cases h
  · cases h
    rfl

/-- No option is spelled with an equals sign. -/
theorem spelled?_of_equals (opts : List Opt) {word : String} (h : '=' ∈ word.toList) : spelled? opts word = none := by
  have hplain : ∀ o : Opt, ∀ n ∈ o.names, '=' ∉ n.toList := by
    intro o
    cases o with
    | flag f => cases f <;> decide
    | _ => decide
  rw [spelled?, Named.find?, Option.map_eq_none_iff, List.find?_eq_none]
  intro e he heq
  obtain ⟨o, -, hspelling⟩ := List.mem_flatMap.1 he
  obtain ⟨n, hn, rfl⟩ := List.mem_map.1 hspelling
  have hword : n = word := eq_of_beq heq
  exact hplain o n hn (hword ▸ h)

theorem splitEquals_append {name : List Char} (h : '=' ∉ name) (value : List Char) :
    splitEquals (name ++ '=' :: value) = (name, some value) := by
  have hname : ∀ c ∈ name, (c != '=') = true := fun c hc => bne_iff_ne.2 fun heq => h (heq ▸ hc)
  have htake : (name ++ '=' :: value).takeWhile (· != '=') = name := by
    rw [List.takeWhile_append_of_pos hname]
    simp
  have hdrop : (name ++ '=' :: value).dropWhile (· != '=') = '=' :: value := by
    rw [List.dropWhile_append_of_pos hname]
    simp
  simp only [splitEquals, htake, hdrop]
  simp

/-- Whether a name starts with two dashes and has no equals sign. -/
def isLongName (name : String) : Bool := ['-', '-'].isPrefixOf name.toList && !name.toList.contains '='

section Valued

variable {opts : List Opt} {name : String}

theorem exists_of_isLongName (h : isLongName name = true) :
    ∃ tail, name.toList = '-' :: '-' :: tail ∧ '=' ∉ name.toList := by
  rw [isLongName, Bool.and_eq_true, List.isPrefixOf_iff_prefix] at h
  obtain ⟨⟨tail, htail⟩, hplain⟩ := h
  exact ⟨tail, htail.symm, by simpa using hplain⟩

/-- A long name with a value behind an equals sign is not spelled as an option itself. -/
theorem classify_equals (hname : isLongName name = true) (value : String) :
    classify opts (name ++ "=" ++ value) = classifyDashed opts (name ++ "=" ++ value) := by
  obtain ⟨tail, htail, -⟩ := exists_of_isLongName hname
  have hword : (name ++ "=" ++ value).toList = '-' :: '-' :: (tail ++ '=' :: value.toList) := by
    simp [htail]
  rw [classify, hword]
  simp only []
  rw [spelled?_of_equals opts (by rw [hword]; simp)]

theorem classify_spelled {o : Opt} (hname : isLongName name = true) (hspelled : spelled? opts name = some o) :
    classify opts name = .ok (.option name o name none) := by
  obtain ⟨tail, htail, -⟩ := exists_of_isLongName hname
  rw [classify, htail]
  simp only [hspelled]

theorem classify_valued {o : Opt} (name value : String) (hname : isLongName name = true)
    (hspelled : spelled? opts name = some o) :
    classify opts (name ++ "=" ++ value) = .ok (.option (name ++ "=" ++ value) o name (some value.toList)) := by
  obtain ⟨-, -, hplain⟩ := exists_of_isLongName hname
  have hword : (name ++ "=" ++ value).toList = name.toList ++ '=' :: value.toList := by simp
  rw [classify_equals hname, classifyDashed, hword]
  simp only [splitEquals_append hplain, String.ofList_toList, hspelled]

/-- A long name that no option starts with is no error. -/
theorem classify_foreign (name value : String) (hname : isLongName name = true) (hspelled : spelled? opts name = none)
    (hother : ∀ e ∈ spellings opts, name.toList.isPrefixOf e.1.toList = false) :
    ∃ w, classify opts (name ++ "=" ++ value) = .ok w := by
  obtain ⟨tail, htail, hplain⟩ := exists_of_isLongName hname
  have hword : (name ++ "=" ++ value).toList = name.toList ++ '=' :: value.toList := by simp
  have hnone : candidates opts (name.toList ++ '=' :: value.toList) = [] := by
    rw [htail, List.cons_append, List.cons_append, candidates, ← List.cons_append, ← List.cons_append, ← htail]
    simp only [splitEquals_append hplain]
    refine List.filterMap_eq_nil_iff.2 fun e he => ?_
    simp [hother e he]
  rw [classify_equals hname, classifyDashed, hword]
  simp only [splitEquals_append hplain, String.ofList_toList, hspelled, hnone]
  split
  · exact ⟨_, rfl⟩
  · exact ⟨_, rfl⟩

end Valued

/-- Within a command, every spelling stands for one option. -/
theorem spelled?_names (command : Command) :
    ∀ o ∈ command.grammar.options, ∀ n ∈ o.names, spelled? command.grammar.options n = some o := by
  cases command <;> decide

theorem Choice.isLongName_name (c : Choice) : isLongName c.name = true := by
  cases c with
  | flag f value => cases f <;> cases value <;> decide
  | _ =>
    rw [name]
    decide

/-- The word of an option is recognised where the option is allowed. -/
theorem classify_choice {command : Command} {c : Choice} (hc : c.opt ∈ command.grammar.options) :
    classify command.grammar.options c.word = .ok c.recognised := by
  have hspelled := spelled?_names command c.opt hc c.name c.name_mem
  rw [Choice.recognised, Choice.word]
  cases c.value? with
  | none => exact classify_spelled c.isLongName_name hspelled
  | some value => exact classify_valued c.name value c.isLongName_name hspelled

/-- Before the command is known, the word of an option is no error either. -/
theorem classify_outer (c : Choice) : ∃ w, classify programGrammar.options c.word = .ok w := by
  cases c with
  | config path => exact classify_foreign "--config" path (by decide) rfl (by decide)
  | language mode => exact classify_foreign "--language" mode.name (by decide) rfl (by decide)
  | set assignment => exact classify_foreign "--set" assignment (by decide) rfl (by decide)
  | flag f value => cases f <;> cases value <;> exact ⟨_, rfl⟩
  | _ => exact ⟨_, rfl⟩

theorem word_ne_divider (c : Choice) : c.word ≠ "--" := by
  -- A word with a value has an equals sign, which the divider has not.
  have hvalued : ∀ name value : String, name ++ "=" ++ value ≠ "--" := by
    intro name value heq
    have hmem : '=' ∈ (name ++ "=" ++ value).toList := by simp
    rw [heq] at hmem
    exact absurd hmem (by decide)
  cases c with
  | config path => exact hvalued _ _
  | language mode => exact hvalued _ _
  | set assignment => exact hvalued _ _
  | flag f value => cases f <;> cases value <;> decide
  | _ => decide

/-- A word that does not start with a dash. -/
def Plain (word : String) : Prop := word.toList.head? ≠ some '-'

theorem classify_plain {word : String} (h : Plain word) (opts : List Opt) : classify opts word = .ok (.operand word) := by
  unfold classify
  split
  · rename_i hword
    exact absurd (congrArg List.head? hword) h
  · rfl

theorem Plain.ne_divider {word : String} (h : Plain word) : word ≠ "--" := by
  rintro rfl
  exact h rfl

theorem classifyAll_cons {opts : List Opt} {word : String} {w : Word} (hdivider : word ≠ "--")
    (hword : classify opts word = .ok w) (words : List String) :
    classifyAll opts (word :: words) = (classifyAll opts words).map (w :: ·) := by
  rw [classifyAll, if_neg (by simpa using hdivider), hword]
  cases classifyAll opts words <;> rfl

/-- Words that are all recognised before a divider. -/
theorem classifyAll_append {α : Type} {opts : List Opt} (word : α → String) (kind : α → Word) {xs : List α}
    (h : ∀ x ∈ xs, word x ≠ "--" ∧ classify opts (word x) = .ok (kind x)) (words : List String) :
    classifyAll opts (xs.map word ++ words) = (classifyAll opts words).map (xs.map kind ++ ·) := by
  induction xs with
  | nil =>
    rw [List.map_nil, List.nil_append]
    cases classifyAll opts words <;> rfl
  | cons x xs ih =>
    obtain ⟨hdivider, hword⟩ := h x List.mem_cons_self
    rw [List.map_cons, List.cons_append, classifyAll_cons hdivider hword,
      ih fun y hy => h y (List.mem_cons_of_mem x hy)]
    cases classifyAll opts words <;> rfl

theorem exists_classifyAll {opts : List Opt} {words : List String}
    (h : ∀ word ∈ words, word ≠ "--" ∧ ∃ w, classify opts word = .ok w) :
    ∃ ws, classifyAll opts words = .ok ws ∧ ws.map Word.text = words := by
  induction words with
  | nil => exact ⟨[], rfl, rfl⟩
  | cons word words ih =>
    obtain ⟨hdivider, w, hword⟩ := h word List.mem_cons_self
    obtain ⟨ws, hws, htext⟩ := ih fun other hother => h other (List.mem_cons_of_mem word hother)
    refine ⟨w :: ws, ?_, ?_⟩
    · rw [classifyAll_cons hdivider hword, hws]
      rfl
    · rw [List.map_cons, text_of_classify hword, htext]

/-! ## Reading -/

theorem unbundle_of_takesValue {o : Opt} (h : o.takesValue = true) (opts : List Opt) (name : String) (value : List Char) :
    unbundle opts o name value = .ok ([], .valued o name (String.ofList value)) := by
  cases value <;> simp [unbundle, h]

theorem place_nil (r : Reading) (operands : Operands) : r.place operands [] = r := by
  simp [Reading.place]

theorem arguments_place (r : Reading) (operands : Operands) (run : List Word) :
    (r.place operands run).arguments = r.arguments := by
  unfold Reading.place
  dsimp only
  split <;> rfl

/-- An option is added to what was read. The words before it find their place first. -/
theorem readFrom_choice (g : Grammar) (run : List Word) (r : Reading) (c : Choice) (words : List Word) :
    readFrom g run r (c.recognised :: words) =
      readFrom g [] { r.place g.operands run with arguments := c.addTo r.arguments } words := by
  have hgive : (r.place g.operands run).give c.opt c.name (c.value?.bind valueOf?) =
      .ok { r.place g.operands run with arguments := c.addTo r.arguments } := by
    rw [Reading.give, arguments_place, c.give_choice]
    rfl
  have htakes := c.takesValue_opt
  rw [Choice.recognised, readFrom]
  cases hvalue : c.value? with
  | none =>
    rw [hvalue] at hgive htakes
    change (if c.opt.takesValue then _ else _) = _
    rw [htakes, Option.isSome_none, if_neg Bool.false_ne_true]
    change ((r.place g.operands run).give c.opt c.name none >>= _) = _
    rw [show (r.place g.operands run).give c.opt c.name none = _ from hgive]
    rfl
  | some value =>
    rw [hvalue] at hgive htakes
    have hopts : optionsOf g c.opt c.name (some value.toList) = .ok ([], .valued c.opt c.name value) := by
      rw [optionsOf, unbundle_of_takesValue htakes, String.ofList_toList]
    rw [Option.map_some, hopts]
    change ((r.place g.operands run).give c.opt c.name (valueOf? value) >>= _) = _
    rw [show (r.place g.operands run).give c.opt c.name (valueOf? value) = _ from hgive]
    rfl

/-- Options are taken one after another. -/
theorem readFrom_choices (g : Grammar) (r : Reading) (cs : List Choice) (words : List Word) :
    readFrom g [] r (cs.map Choice.recognised ++ words) =
      readFrom g [] { r with arguments := cs.foldl Choice.addTo r.arguments } words := by
  induction cs generalizing r with
  | nil => rfl
  | cons c cs ih =>
    rw [List.map_cons, List.cons_append, readFrom_choice, place_nil, ih]
    rfl

/-- Paths wait for the option behind them. -/
theorem readFrom_operands {g : Grammar} (hg : g.operands ≠ .command) (run : List Word) (r : Reading)
    (paths : List String) (words : List Word) :
    readFrom g run r (paths.map Word.operand ++ words) = readFrom g (run ++ paths.map Word.operand) r words := by
  induction paths generalizing run with
  | nil => rw [List.map_nil, List.append_nil, List.nil_append]
  | cons path paths ih =>
    rw [List.map_cons, List.cons_append, readFrom, if_neg (by simpa using hg), ih, List.append_assoc,
      List.singleton_append]

/-- The last words find their place too. -/
theorem readFrom_end (g : Grammar) (run : List Word) (r : Reading) (cs : List Choice) :
    readFrom g run r (cs.map Choice.recognised) =
      .ok { r.place g.operands run with arguments := cs.foldl Choice.addTo r.arguments } := by
  cases cs with
  | nil =>
    rw [List.map_nil, readFrom, List.foldl_nil, ← arguments_place r g.operands run]
  | cons c cs =>
    have hrest := readFrom_choices g { r.place g.operands run with arguments := c.addTo r.arguments } cs []
    rw [List.append_nil] at hrest
    rw [List.map_cons, readFrom_choice, hrest, readFrom, place_nil]
    rfl

theorem place_paths {r : Reading} (hr : r.operands = none) {paths : List String} (hpaths : paths ≠ []) :
    r.place .paths (paths.map Word.operand) = { r with operands := some paths } := by
  obtain ⟨path, rest, rfl⟩ := List.exists_cons_of_ne_nil hpaths
  simp [Reading.place, hr, Function.comp_def, Word.text, List.filter_map]

/-! ## Command lines -/

/-- The words behind a command are read with the options of the command alone. -/
theorem readWords_outer (command : Command) {words : List String}
    (h : ∀ word ∈ words, word ≠ "--" ∧ ∃ w, classify programGrammar.options word = .ok w) :
    readWords programGrammar {} (command.name :: words) =
      .ok { arguments := {}, operands := some (command.name :: words) } := by
  obtain ⟨ws, hws, htext⟩ := exists_classifyAll h
  have hname : classify programGrammar.options command.name = .ok (.operand command.name) := by
    cases command <;> rfl
  have hdivider : command.name ≠ "--" := by cases command <;> decide
  rw [readWords, classifyAll_cons hdivider hname, hws]
  change (readFrom programGrammar [] { arguments := {} } (.operand command.name :: ws) >>= _) = _
  rw [readFrom]
  change Except.ok _ = _
  rw [htext]

theorem parse_of_readWords (command : Command) {words : List String} {r : Reading}
    (houter : ∀ word ∈ words, word ≠ "--" ∧ ∃ w, classify programGrammar.options word = .ok w)
    (hinner : readWords command.grammar {} words = .ok r) (hextras : r.extras = []) :
    Invocation.parse (command.name :: words) =
      .ok { command, arguments := r.arguments, paths := r.operands.getD [] } := by
  have hcommand : Command.ofName? command.name = some command := by cases command <;> rfl
  rw [Invocation.parse, readWords_outer command houter]
  simp only [Except.mapError, bind, Except.bind, Option.getD_some, hcommand, hinner, hextras]
  rfl

theorem Invocation.parse_scan {before after : List Choice} {paths : List String} (hpaths : paths ≠ [])
    (hplain : ∀ path ∈ paths, Plain path) (hopts : ∀ c ∈ before ++ after, c.opt ∈ Command.scan.grammar.options) :
    Invocation.parse (scanWords before paths after) =
      .ok { command := .scan, arguments := argumentsOf (before ++ after), paths } := by
  have hchoice : ∀ cs ⊆ before ++ after, ∀ c ∈ cs,
      c.word ≠ "--" ∧ classify Command.scan.grammar.options c.word = .ok c.recognised :=
    fun cs hcs c hc => ⟨word_ne_divider c, classify_choice (hopts c (hcs hc))⟩
  have hwords : classifyAll Command.scan.grammar.options (before.map Choice.word ++ (paths ++ after.map Choice.word)) =
      .ok (before.map Choice.recognised ++ (paths.map Word.operand ++ after.map Choice.recognised)) := by
    have hoperand : ∀ path ∈ paths, path ≠ "--" ∧ classify Command.scan.grammar.options path = .ok (.operand path) :=
      fun path hpath => ⟨(hplain path hpath).ne_divider, classify_plain (hplain path hpath) _⟩
    have hafter := classifyAll_append _ _ (hchoice after (List.subset_append_right _ _)) []
    have hmiddle := classifyAll_append id _ hoperand (after.map Choice.word)
    rw [List.append_nil] at hafter
    rw [List.map_id, hafter] at hmiddle
    rw [classifyAll_append _ _ (hchoice before (List.subset_append_left _ _)), hmiddle]
    simp [classifyAll, Except.map]
  refine parse_of_readWords .scan (r := ⟨argumentsOf (before ++ after), some paths, []⟩) ?_ ?_ rfl
  · intro word hword
    rcases List.mem_append.1 hword with hword | hword
    · obtain ⟨c, -, rfl⟩ := List.mem_map.1 hword
      exact ⟨word_ne_divider c, classify_outer c⟩
    · rcases List.mem_append.1 hword with hword | hword
      · exact ⟨(hplain word hword).ne_divider, _, classify_plain (hplain word hword) _⟩
      · obtain ⟨c, -, rfl⟩ := List.mem_map.1 hword
        exact ⟨word_ne_divider c, classify_outer c⟩
  · rw [readWords, hwords]
    change (readFrom Command.scan.grammar [] { arguments := {} } _ >>= _) = _
    rw [readFrom_choices, readFrom_operands (by decide), List.nil_append, readFrom_end,
      show Command.scan.grammar.operands = .paths from rfl, place_paths rfl hpaths, ← List.foldl_append]
    rfl

theorem Invocation.parse_settings {cs : List Choice} (hopts : ∀ c ∈ cs, c.opt ∈ Command.settings.grammar.options) :
    Invocation.parse (settingsWords cs) = .ok { command := .settings, arguments := argumentsOf cs, paths := [] } := by
  refine parse_of_readWords .settings (r := ⟨argumentsOf cs, none, []⟩) ?_ ?_ rfl
  · intro word hword
    obtain ⟨c, -, rfl⟩ := List.mem_map.1 hword
    exact ⟨word_ne_divider c, classify_outer c⟩
  · have hchoice : ∀ c ∈ cs, c.word ≠ "--" ∧ classify Command.settings.grammar.options c.word = .ok c.recognised :=
      fun c hc => ⟨word_ne_divider c, classify_choice (hopts c hc)⟩
    have hwords := classifyAll_append _ _ hchoice []
    rw [List.append_nil] at hwords
    rw [readWords, hwords]
    change (readFrom Command.settings.grammar [] { arguments := {} } (cs.map Choice.recognised ++ []) >>= _) = _
    rw [List.append_nil, readFrom_end, place_nil]
    rfl

end Landmarks.CommandLine
