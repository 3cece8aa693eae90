import Landmarks.Text.Blank
import Landmarks.Text.Case
import Landmarks.Text.Search
import Landmarks.Text.Word
import Mathlib.Data.List.DropRight
import Mathlib.Data.List.TakeWhile

/-!
# White space and words

* `isBlank_of_isWord` : no word character is white space.
* `strip_cons_of_not` : stripping keeps a text whose first character is none of those stripped.
* `isInfix_strip`, `infix_of_mem_words` : what is left by stripping, and every word, stands in the text.
* `mem_trim`, `isBlank_head_trim` : stripping keeps what is not white space, and leaves none at the front.
* `words_append_blank` : white space at the end adds no word.
* `run_append_inj`, `append_run_inj`, `append_cons_inj` : there is one way to cut a text at the end of a run.
* `strip_append_run`, `isPrefix_append_run` : what a run at the end of a text does not change.
* `strip_surround` : stripping undoes what was put around a text.
* `exists_first_word`, `words_run_append` : the first word of a text, and the words behind it.
* `restAfterLast?_eq_some_iff` : what follows the last place of a text.
* `length_le_lower` : lower-casing makes no text shorter.
-/

namespace Landmarks.Text

/-- First and last code point of each run of white space beyond ASCII. -/
def wideBlanks : List (Nat × Nat) :=
  [(0x85, 0x85), (0xA0, 0xA0), (0x1680, 0x1680), (0x2000, 0x200A), (0x2028, 0x2029), (0x202F, 0x202F),
    (0x205F, 0x205F), (0x3000, 0x3000)]

theorem wordSpans_apart : (wordSpans.all fun span =>
    wideBlanks.all fun gap => Nat.blt span.2 gap.1 || Nat.blt gap.2 span.1) = true := by
  decide +kernel

theorem isBlank_of_isWord {c : Char} (h : isWord c = true) : isBlank c = false := by
  rw [← Bool.not_eq_true]
  intro hblank
  simp only [isBlank, Bool.or_eq_true, Bool.and_eq_true, decide_eq_true_eq, beq_iff_eq] at hblank
  unfold isWord at h
  dsimp only at h
  split at h
  · simp only [Bool.or_eq_true, Bool.and_eq_true, decide_eq_true_eq, beq_iff_eq] at h
    omega
  · obtain ⟨⟨first, last⟩, hspan, hin⟩ := List.any_eq_true.1 h
    have hapart := List.all_eq_true.1 wordSpans_apart _ hspan
    simp only [wideBlanks, List.all_cons, List.all_nil, Bool.and_eq_true, Bool.or_eq_true, Nat.blt_eq] at hapart
    simp only [Bool.and_eq_true, decide_eq_true_eq] at hin
    omega

theorem isWord_of_isBlank {c : Char} (h : isBlank c = true) : isWord c = false := by
  rw [← Bool.not_eq_true]
  intro hword
  rw [isBlank_of_isWord hword] at h
  exact Bool.noConfusion h

/-- Spaces and tabs are a run of every class that has both. -/
theorem run_of_padding {p : Char → Bool} (hspace : p ' ' = true) (htab : p '\t' = true) {z : List Char}
    (hz : ∀ c ∈ z, c = ' ' ∨ c = '\t') : ∀ c ∈ z, p c = true := by
  intro c hc
  rcases hz c hc with rfl | rfl
  · exact hspace
  · exact htab

theorem isBlank_of_padding {z : List Char} (hz : ∀ c ∈ z, c = ' ' ∨ c = '\t') : ∀ c ∈ z, isBlank c = true :=
  run_of_padding rfl rfl hz

theorem stripEnd_cons_of_not {p : Char → Bool} {c : Char} (hc : p c = false) (cs : List Char) :
    stripEnd p (c :: cs) = c :: stripEnd p cs := by
  rw [stripEnd, stripEnd, List.reverse_cons, List.dropWhile_append]
  split
  · rename_i hempty
    rw [List.isEmpty_iff.1 hempty, List.dropWhile_cons_of_neg (by simp [hc])]
    rfl
  · rw [List.reverse_append]
    rfl

theorem strip_cons_of_not {p : Char → Bool} {c : Char} (hc : p c = false) (cs : List Char) :
    strip p (c :: cs) = c :: stripEnd p cs := by
  rw [strip, stripStart, List.dropWhile_cons_of_neg (by simp [hc]), stripEnd_cons_of_not hc]

/-! ## Parts of a text -/

theorem isSuffix_stripStart (p : Char → Bool) (cs : List Char) : stripStart p cs <:+ cs :=
  List.dropWhile_suffix p

theorem isPrefix_stripEnd (p : Char → Bool) (cs : List Char) : stripEnd p cs <+: cs := by
  rw [← List.reverse_suffix, stripEnd, List.reverse_reverse]
  exact List.dropWhile_suffix p

theorem isInfix_strip (p : Char → Bool) (cs : List Char) : strip p cs <:+: cs :=
  (isPrefix_stripEnd p _).isInfix.trans (isSuffix_stripStart p cs).isInfix

theorem exists_not_blank_of_trim {cs : List Char} (h : (trim cs).isEmpty = false) :
    ∃ c ∈ cs, isBlank c = false := by
  cases hall : cs.all isBlank with
  | true =>
    have hnil : trimStart cs = [] := List.dropWhile_eq_nil_iff.2 (List.all_eq_true.1 hall)
    rw [trim, strip, ← trimStart, hnil] at h
    exact Bool.noConfusion h
  | false =>
    obtain ⟨c, hc, hne⟩ := List.all_eq_false.1 hall
    exact ⟨c, hc, Bool.eq_false_iff.2 hne⟩

theorem mem_stripStart {p : Char → Bool} {c : Char} (hc : p c = false) {cs : List Char} :
    c ∈ stripStart p cs ↔ c ∈ cs := by
  refine ⟨fun h => (isSuffix_stripStart p cs).subset h, fun h => ?_⟩
  rw [← List.takeWhile_append_dropWhile (p := p) (l := cs), List.mem_append] at h
  rcases h with h | h
  · simp [List.mem_takeWhile_imp h] at hc
  · exact h

theorem mem_trim {c : Char} (hc : isBlank c = false) {cs : List Char} : c ∈ trim cs ↔ c ∈ cs := by
  rw [trim, strip, stripEnd, List.mem_reverse, ← stripStart, mem_stripStart hc, List.mem_reverse,
    mem_stripStart hc]

theorem trim_isEmpty_eq_false_iff {cs : List Char} :
    (trim cs).isEmpty = false ↔ ∃ c ∈ cs, isBlank c = false := by
  refine ⟨exists_not_blank_of_trim, ?_⟩
  rintro ⟨c, hmem, hc⟩
  rw [List.isEmpty_eq_false_iff]
  exact List.ne_nil_of_mem ((mem_trim hc).2 hmem)

/-- A text without white space at the front keeps its first character. -/
theorem isBlank_head_trimStart {c : Char} {cs rest : List Char} (h : trimStart cs = c :: rest) : isBlank c = false := by
  have hhead := List.head?_dropWhile_not isBlank cs
  rw [← stripStart, ← trimStart, h] at hhead
  simpa using hhead

theorem isBlank_head_trim {c : Char} {cs rest : List Char} (h : trim cs = c :: rest) : isBlank c = false := by
  cases hstart : trimStart cs with
  | nil =>
    rw [trim, strip, ← trimStart, hstart] at h
    exact absurd h (by simp [stripEnd])
  | cons d start =>
    have hd := isBlank_head_trimStart hstart
    rw [trim, strip, ← trimStart, hstart, stripEnd_cons_of_not hd] at h
    exact (List.cons.inj h).1 ▸ hd

/-- Of the pieces of a text the first stands at its front and the others somewhere in it. -/
theorem isInfix_splitOnP (p : Char → Bool) (cs : List Char) :
    ∃ first rest, cs.splitOnP p = first :: rest ∧ first <+: cs ∧ ∀ w ∈ rest, w <:+: cs := by
  induction cs with
  | nil => exact ⟨[], [], List.splitOnP_nil, List.nil_prefix, by simp⟩
  | cons c cs ih =>
    obtain ⟨first, rest, hsplit, hfirst, hrest⟩ := ih
    rw [List.splitOnP_cons_eq_if_modifyHead, hsplit]
    split
    · refine ⟨[], first :: rest, rfl, List.nil_prefix, ?_⟩
      rw [List.forall_mem_cons]
      exact ⟨List.infix_cons hfirst.isInfix, fun w hw => List.infix_cons (hrest w hw)⟩
    · refine ⟨c :: first, rest, rfl, List.cons_prefix_cons.2 ⟨rfl, hfirst⟩, ?_⟩
      exact fun w hw => List.infix_cons (hrest w hw)

theorem infix_of_mem_words {cs w : List Char} (h : w ∈ words cs) : w <:+: cs := by
  obtain ⟨first, rest, hsplit, hfirst, hrest⟩ := isInfix_splitOnP isBlank cs
  have hmem : w ∈ first :: rest := hsplit ▸ (List.mem_filter.1 h).1
  rcases List.mem_cons.1 hmem with rfl | hmem
  · exact hfirst.isInfix
  · exact hrest w hmem

theorem words_append_cons {d : Char} (hd : isBlank d = true) (a b : List Char) :
    words (a ++ d :: b) = words a ++ words b := by
  rw [words, List.splitOnP_append_cons a b hd, List.filter_append, ← words, ← words]

theorem words_blank_append {b : List Char} (hb : ∀ c ∈ b, isBlank c = true) (a : List Char) :
    words (b ++ a) = words a := by
  induction b with
  | nil => rfl
  | cons d b ih =>
    obtain ⟨hd, hb⟩ := List.forall_mem_cons.1 hb
    rw [List.cons_append, ← List.nil_append (d :: (b ++ a)), words_append_cons hd, ih hb]
    rfl

theorem words_of_blank {b : List Char} (hb : ∀ c ∈ b, isBlank c = true) : words b = [] := by
  rw [← List.append_nil b, words_blank_append hb]
  rfl

theorem words_append_blank (a : List Char) {b : List Char} (hb : ∀ c ∈ b, isBlank c = true) :
    words (a ++ b) = words a := by
  cases b with
  | nil => rw [List.append_nil]
  | cons d b =>
    obtain ⟨hd, hb⟩ := List.forall_mem_cons.1 hb
    rw [words_append_cons hd, words_of_blank hb, List.append_nil]

/-! ## Cutting a text at the end of a run -/

/-- A text that does not start with a character of a class. -/
def StartsOutside (p : Char → Bool) (a : List Char) : Prop := ∀ c ∈ a.head?, p c = false

/-- A text that does not end with a character of a class. -/
def EndsOutside (p : Char → Bool) (a : List Char) : Prop := ∀ c ∈ a.getLast?, p c = false

theorem startsOutside_cons {p : Char → Bool} {c : Char} (hc : p c = false) (a : List Char) :
    StartsOutside p (c :: a) := by simp [StartsOutside, hc]

theorem endsOutside_append {p : Char → Bool} {w : List Char} (hne : w ≠ []) (hw : EndsOutside p w) (a : List Char) :
    EndsOutside p (a ++ w) := by
  intro c hc
  rw [List.getLast?_append_of_ne_nil a hne] at hc
  exact hw c hc

theorem endsOutside_concat {p : Char → Bool} {c : Char} (hc : p c = false) (a : List Char) :
    EndsOutside p (a ++ [c]) := by simp [EndsOutside, hc]

theorem startsOutside_trimStart (t : List Char) : StartsOutside isBlank (trimStart t) := by
  intro c hc
  obtain ⟨rest, hrest⟩ := List.head?_eq_some_iff.1 hc
  exact isBlank_head_trimStart hrest

theorem startsOutside_trim (t : List Char) : StartsOutside isBlank (trim t) := by
  intro c hc
  obtain ⟨rest, hrest⟩ := List.head?_eq_some_iff.1 hc
  exact isBlank_head_trim hrest

/-- A run of a class holds no character outside it. -/
theorem notMem_of_run {p : Char → Bool} {d : Char} {a : List Char} (hd : p d = false)
    (ha : ∀ c ∈ a, p c = true) : d ∉ a := by
  intro hmem
  rw [ha d hmem] at hd
  exact Bool.noConfusion hd

theorem takeWhile_run_append {p : Char → Bool} {a b : List Char} (ha : ∀ c ∈ a, p c = true)
    (hb : StartsOutside p b) : (a ++ b).takeWhile p = a := by
  rw [List.takeWhile_append_of_pos ha]
  cases b with
  | nil => simp
  | cons c b => simp [hb c rfl]

theorem takeWhile_ne_nil_iff {p : Char → Bool} {a : List Char} :
    a.takeWhile p ≠ [] ↔ ∃ c ∈ a.head?, p c = true := by
  cases a with
  | nil => simp
  | cons c a => cases hc : p c <;> simp [hc]

theorem takeWhile_append_trimStart (t : List Char) : t.takeWhile isBlank ++ trimStart t = t :=
  List.takeWhile_append_dropWhile

theorem stripStart_run_append {p : Char → Bool} {a b : List Char} (ha : ∀ c ∈ a, p c = true)
    (hb : StartsOutside p b) : stripStart p (a ++ b) = b := by
  have hcut : (a ++ b).takeWhile p ++ stripStart p (a ++ b) = a ++ b := List.takeWhile_append_dropWhile
  rw [takeWhile_run_append ha hb] at hcut
  exact List.append_cancel_left hcut

theorem trimStart_append {a b : List Char} (ha : ∀ c ∈ a, isBlank c = true) (hb : StartsOutside isBlank b) :
    trimStart (a ++ b) = b := stripStart_run_append ha hb

theorem trim_trimStart (t : List Char) : trim (trimStart t) = trim t :=
  congrArg (stripEnd isBlank) (trimStart_append (List.forall_mem_nil _) (startsOutside_trimStart t))

/-- There is one way to cut a text behind a run, where the rest does not go on with it. -/
theorem run_append_inj {p : Char → Bool} {a a' b b' : List Char} (h : a ++ b = a' ++ b')
    (ha : ∀ c ∈ a, p c = true) (hb : StartsOutside p b) (ha' : ∀ c ∈ a', p c = true)
    (hb' : StartsOutside p b') : a = a' ∧ b = b' := by
  obtain rfl : a = a' := by rw [← takeWhile_run_append ha hb, h, takeWhile_run_append ha' hb']
  exact ⟨rfl, List.append_cancel_left h⟩

/-- There is one way to cut a text before a run at its end. -/
theorem append_run_inj {p : Char → Bool} {a a' b b' : List Char} (h : a ++ b = a' ++ b')
    (ha : EndsOutside p a) (hb : ∀ c ∈ b, p c = true) (ha' : EndsOutside p a')
    (hb' : ∀ c ∈ b', p c = true) : a = a' ∧ b = b' := by
  have hrev : b.reverse ++ a.reverse = b'.reverse ++ a'.reverse := by
    rw [← List.reverse_append, h, List.reverse_append]
  have hstart : ∀ {a : List Char}, EndsOutside p a → StartsOutside p a.reverse := by
    intro a ha c hc
    rw [List.head?_reverse] at hc
    exact ha c hc
  obtain ⟨hbs, has⟩ := run_append_inj hrev (by simpa using hb) (hstart ha) (by simpa using hb') (hstart ha')
  exact ⟨List.reverse_inj.1 has, List.reverse_inj.1 hbs⟩

theorem forall_bne_iff {d : Char} {a : List Char} : (∀ c ∈ a, (c != d) = true) ↔ d ∉ a := by
  simp only [bne_iff_ne]
  exact ⟨fun h hd => h d hd rfl, fun h c hc heq => h (heq ▸ hc)⟩

theorem takeWhile_bne_append {d : Char} {a : List Char} (ha : d ∉ a) (b : List Char) :
    (a ++ d :: b).takeWhile (· != d) = a :=
  takeWhile_run_append (forall_bne_iff.2 ha) (startsOutside_cons (by simp) b)

/-- There is one way to cut a text at the first place of a character. -/
theorem append_cons_inj {d : Char} {a a' b b' : List Char} (h : a ++ d :: b = a' ++ d :: b')
    (ha : d ∉ a) (ha' : d ∉ a') : a = a' ∧ b = b' := by
  obtain rfl : a = a' := by rw [← takeWhile_bne_append ha b, h, takeWhile_bne_append ha' b']
  exact ⟨rfl, (List.cons.inj (List.append_cancel_left h)).2⟩

/-! ## Runs at the end of a text -/

theorem stripEnd_eq_self {p : Char → Bool} {a : List Char} (ha : EndsOutside p a) : stripEnd p a = a := by
  refine List.rdropWhile_eq_self_iff.2 fun hne => ?_
  rw [ha _ (List.getLast?_eq_some_getLast hne)]
  exact Bool.false_ne_true

theorem endsOutside_stripEnd (p : Char → Bool) (a : List Char) : EndsOutside p (stripEnd p a) := by
  intro c hc
  obtain ⟨hne, rfl⟩ := List.mem_getLast?_eq_getLast hc
  exact Bool.eq_false_iff.2 (List.rdropWhile_last_not p a hne)

theorem stripEnd_append_run {p : Char → Bool} (a : List Char) {b : List Char} (hb : ∀ c ∈ b, p c = true) :
    stripEnd p (a ++ b) = stripEnd p a := by
  rw [stripEnd, List.reverse_append, List.dropWhile_append_of_pos (by simpa using hb), stripEnd]

/-- Characters of a class at the front are cut off only if the whole text is of the class. -/
theorem stripStart_append (p : Char → Bool) (a b : List Char) :
    stripStart p (a ++ b) = if stripStart p a = [] then stripStart p b else stripStart p a ++ b := by
  rw [stripStart, List.dropWhile_append, stripStart]
  simp only [List.isEmpty_iff]
  rfl

theorem stripStart_append_outside {p : Char → Bool} (a : List Char) {b : List Char} (hb : StartsOutside p b) :
    stripStart p (a ++ b) = stripStart p a ++ b := by
  have hself : stripStart p b = b := stripStart_run_append (a := []) (by simp) hb
  rw [stripStart_append, hself]
  split
  · rename_i hnil
    rw [hnil, List.nil_append]
  · rfl

theorem strip_append_run {p : Char → Bool} (a : List Char) {b : List Char} (hb : ∀ c ∈ b, p c = true) :
    strip p (a ++ b) = strip p a := by
  rw [strip, stripStart_append, strip]
  split
  · rename_i hnil
    rw [hnil, stripStart, List.dropWhile_eq_nil_iff.2 hb]
  · exact stripEnd_append_run _ hb

/-- Between runs of a class stands what neither starts nor ends in it. -/
theorem strip_surround {p : Char → Bool} {d t e : List Char} (hd : ∀ c ∈ d, p c = true)
    (ht : StartsOutside p t) (hend : EndsOutside p t) (he : ∀ c ∈ e, p c = true) : strip p (d ++ t ++ e) = t := by
  rw [strip_append_run _ he, strip, stripStart_run_append hd ht, stripEnd_eq_self hend]

theorem trim_append_blank (a : List Char) {b : List Char} (hb : ∀ c ∈ b, isBlank c = true) :
    trim (a ++ b) = trim a := strip_append_run a hb

/-- A run at the front of a text ends where the text leaves its class. -/
theorem isPrefix_of_append {p : Char → Bool} {w a b : List Char} (hw : ∀ c ∈ w, p c = true)
    (hb : StartsOutside p b) (h : w <+: a ++ b) : w <+: a := by
  rcases List.prefix_or_prefix_of_prefix h (List.prefix_append a b) with hwa | ⟨d, rfl⟩
  · exact hwa
  · have hd : d <+: b := (List.prefix_append_right_inj a).1 h
    cases d with
    | nil => simp
    | cons c d =>
      obtain ⟨tail, rfl⟩ := hd
      have hc := hw c (by simp)
      rw [hb c rfl] at hc
      exact Bool.noConfusion hc

/-- A run at the end of a text is not reached by what ends outside its class. -/
theorem isPrefix_append_run {p : Char → Bool} {w z : List Char} (hw : EndsOutside p w)
    (hz : ∀ c ∈ z, p c = true) (a : List Char) : w <+: a ++ z ↔ w <+: a := by
  refine ⟨fun h => ?_, fun h => h.trans (List.prefix_append a z)⟩
  rcases List.prefix_or_prefix_of_prefix h (List.prefix_append a z) with hwa | ⟨d, rfl⟩
  · exact hwa
  · have hd : d <+: z := (List.prefix_append_right_inj a).1 h
    by_cases hne : d = []
    · simp [hne]
    · have hmem : d.getLast hne ∈ (a ++ d).getLast? := by
        rw [List.getLast?_append_of_ne_nil a hne, List.getLast?_eq_some_getLast hne]
        rfl
      have hlast := hw _ hmem
      rw [hz _ (hd.subset (List.getLast_mem hne))] at hlast
      exact Bool.noConfusion hlast

theorem isPrefix_stripEnd_of_prefix {p : Char → Bool} {w a : List Char} (hw : EndsOutside p w) (h : w <+: a) :
    w <+: stripEnd p a := by
  have hcut : stripEnd p a ++ a.rtakeWhile p = a := List.rdropWhile_append_rtakeWhile
  rw [← hcut] at h
  exact (isPrefix_append_run hw (fun c hc => List.mem_rtakeWhile_imp hc) _).1 h

theorem trimStart_append_blank (a : List Char) {z : List Char} (hz : ∀ c ∈ z, isBlank c = true) :
    trimStart (a ++ z) = if trimStart a = [] then [] else trimStart a ++ z := by
  have hnil : stripStart isBlank z = [] := List.dropWhile_eq_nil_iff.2 hz
  rw [trimStart, stripStart_append, hnil, trimStart]

theorem isPrefix_trimStart_append {w z : List Char} (hw : EndsOutside isBlank w)
    (hz : ∀ c ∈ z, isBlank c = true) (a : List Char) : w <+: trimStart (a ++ z) ↔ w <+: trimStart a := by
  rw [trimStart_append_blank a hz]
  split
  · rename_i hnil
    rw [hnil]
  · exact isPrefix_append_run hw hz _

/-! ## The first word -/

theorem words_trimStart (a : List Char) : words (trimStart a) = words a := by
  conv_rhs => rw [← takeWhile_append_trimStart a]
  exact (words_blank_append (fun c hc => List.mem_takeWhile_imp hc) _).symm

theorem words_run_append {k s : List Char} (hne : k ≠ []) (hk : ∀ c ∈ k, isBlank c = false)
    (hs : StartsOutside (!isBlank ·) s) : words (k ++ s) = k :: words s := by
  have hword : words k = [k] := by
    rw [words, List.splitOnP_eq_singleton fun c hc => by simp [hk c hc]]
    simp [hne]
  cases s with
  | nil => rw [List.append_nil, hword]; rfl
  | cons d s =>
    have hd : isBlank d = true := by simpa using hs d rfl
    rw [words_append_cons hd, hword, ← List.nil_append (d :: s), words_append_cons hd]
    rfl

/-- A text that does not begin with white space is its first word and what follows it. -/
theorem exists_first_word {u : List Char} (hne : u ≠ []) (hu : StartsOutside isBlank u) :
    ∃ k s, u = k ++ s ∧ k ≠ [] ∧ (∀ c ∈ k, isBlank c = false) ∧ StartsOutside (!isBlank ·) s := by
  refine ⟨u.takeWhile (!isBlank ·), u.dropWhile (!isBlank ·), List.takeWhile_append_dropWhile.symm, ?_, ?_, ?_⟩
  · obtain ⟨c, u, rfl⟩ := List.exists_cons_of_ne_nil hne
    rw [List.takeWhile_cons_of_pos (by simp [hu c rfl])]
    exact List.cons_ne_nil _ _
  · intro c hc
    simpa using List.mem_takeWhile_imp hc
  · intro c hc
    have hhead := List.head?_dropWhile_not (!isBlank ·) u
    rw [hc] at hhead
    simpa using hhead

/-! ## The last place of a text in another -/

theorem restAfterLast?_eq_none_iff {w cs : List Char} : restAfterLast? w cs = none ↔ ¬w <:+: cs := by
  induction cs with
  | nil => simp [restAfterLast?]
  | cons c cs ih =>
    rw [restAfterLast?, List.infix_cons_iff, not_or]
    cases hrest : restAfterLast? w cs with
    | some rest =>
      have hmem : w <:+: cs := by
        by_contra hno
        simp [ih.2 hno] at hrest
      simp [hmem]
    | none =>
      have hno := ih.1 hrest
      simp [hno, List.isPrefixOf_iff_prefix]

theorem exists_of_restAfterLast? {w cs rest : List Char} (h : restAfterLast? w cs = some rest) :
    ∃ head, cs = head ++ w ++ rest ∧ ∀ head' rest', cs = head' ++ w ++ rest' → head'.length ≤ head.length := by
  induction cs with
  | nil =>
    rw [restAfterLast?] at h
    split at h
    · rename_i hempty
      obtain rfl := List.isEmpty_iff.1 hempty
      obtain rfl := Option.some.inj h
      refine ⟨[], rfl, fun head' rest' heq => ?_⟩
      have hlen := congrArg List.length heq
      simp only [List.length_append, List.length_nil] at hlen ⊢
      omega
    · simp at h
  | cons c cs ih =>
    rw [restAfterLast?] at h
    cases hrest : restAfterLast? w cs with
    | some found =>
      rw [hrest] at h
      obtain rfl := Option.some.inj h
      obtain ⟨head, hcs, hlast⟩ := ih hrest
      refine ⟨c :: head, by rw [hcs]; rfl, ?_⟩
      intro head' rest' heq
      cases head' with
      | nil => simp
      | cons d head' =>
        have htail : cs = head' ++ w ++ rest' := (List.cons.inj heq).2
        exact Nat.succ_le_succ (hlast head' rest' htail)
    | none =>
      have hno := restAfterLast?_eq_none_iff.1 hrest
      rw [hrest] at h
      dsimp only at h
      split at h
      · rename_i hpre
        obtain ⟨after, hafter⟩ := List.isPrefixOf_iff_prefix.1 hpre
        rw [← hafter, List.drop_left, Option.some.injEq] at h
        refine ⟨[], by rw [← hafter, h]; rfl, ?_⟩
        intro head' rest' heq
        cases head' with
        | nil => exact Nat.le_refl 0
        | cons d head' => exact absurd ⟨head', rest', (List.cons.inj heq).2.symm⟩ hno
      · simp at h

/-- What follows the last place of a text. -/
theorem restAfterLast?_eq_some_iff {w cs rest : List Char} :
    restAfterLast? w cs = some rest ↔
      ∃ head, cs = head ++ w ++ rest ∧ ∀ head' rest', cs = head' ++ w ++ rest' → head'.length ≤ head.length := by
  refine ⟨exists_of_restAfterLast?, ?_⟩
  rintro ⟨head, hcs, hlast⟩
  cases hfound : restAfterLast? w cs with
  | none => exact absurd ⟨head, rest, hcs.symm⟩ (restAfterLast?_eq_none_iff.1 hfound)
  | some found =>
    obtain ⟨head', hcs', hlast'⟩ := exists_of_restAfterLast? hfound
    have hlen : head'.length = head.length := Nat.le_antisymm (hlast _ _ hcs') (hlast' _ _ hcs)
    rw [hcs, List.append_assoc, List.append_assoc] at hcs'
    obtain ⟨-, hback⟩ := List.append_inj hcs' hlen.symm
    rw [List.append_cancel_left hback]

/-! ## Letter case -/

theorem length_lowerChar_pos (c : Char) : 0 < (lowerChar c).length := by
  unfold lowerChar
  dsimp only
  split
  · simp
  · split
    · simp
    · split <;> simp

theorem length_le_lowerAfter (before cs : List Char) : cs.length ≤ (lowerAfter before cs).length := by
  induction cs generalizing before with
  | nil => simp
  | cons c cs ih =>
    have hrest := ih (c :: before)
    have hchar := length_lowerChar_pos c
    rw [lowerAfter, List.length_append, List.length_cons]
    split
    · rw [List.length_singleton]
      omega
    · omega

theorem length_le_lower (cs : List Char) : cs.length ≤ (lower cs).length := length_le_lowerAfter [] cs

end Landmarks.Text
