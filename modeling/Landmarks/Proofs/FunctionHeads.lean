import Landmarks.Proofs.Languages
import Landmarks.Proofs.Shapes

/-!
# Cutting a function head

A function head is found by a pattern whose parts overlap: blanks, words and marks before the name, the
name, blanks again. It can be said without the pattern where the line is cut.

* `Cut` : a line cut around its first parenthesis. `Cut.unique` : there is one cut behind which no part of a
  word is left before the name.
* `named_eq_some_iff` : so a pattern finds the name of the cut, whatever it tries first.
* `Lead` : the words, white space and marks that may lead to a name.
-/

namespace Landmarks.Rule.FunctionHead

open Text

/-! ## Cutting a line around its first parenthesis -/

/-- A line cut around its first parenthesis: what stands before a name, the name, the blanks behind it, the
parameters, and what follows them. -/
structure Cut (t before name gap params after : List Char) : Prop where
  text : t = before ++ name ++ gap ++ '(' :: params ++ ')' :: after
  open_notMem : '(' ∉ before ++ name ++ gap
  close_notMem : ')' ∉ params
  gap_blank : ∀ c ∈ gap, isBlank c = true
  name_ne_nil : name ≠ []
  name_word : ∀ c ∈ name, isWord c = true

namespace Cut

variable {t before name gap params after before' name' gap' params' after' : List Char}

theorem open_mem (h : Cut t before name gap params after) : '(' ∈ t := by
  rw [h.text]
  simp

/-- The name ends the text before the blanks, and is no blank itself. -/
theorem endsOutside_blank (h : Cut t before name gap params after) : EndsOutside isBlank (before ++ name) := by
  intro c hc
  rw [List.getLast?_append_of_ne_nil _ h.name_ne_nil] at hc
  exact isBlank_of_isWord (h.name_word c (List.mem_of_mem_getLast? hc))

theorem text_eq (h : Cut t before name gap params after) :
    t = before ++ name ++ gap ++ '(' :: (params ++ ')' :: after) := by
  rw [h.text, List.append_assoc _ ('(' :: params), List.cons_append]

/-- All cuts are around the same parenthesis. -/
theorem front_unique (h : Cut t before name gap params after) {front rest : List Char}
    (ht : t = front ++ '(' :: rest) (hfront : '(' ∉ front) :
    before ++ name ++ gap = front ∧ params ++ ')' :: after = rest :=
  append_cons_inj (h.text_eq.symm.trans ht) h.open_notMem hfront

/-- There is one way to cut a line if no part of a word stands before the name. -/
theorem unique (h : Cut t before name gap params after) (h' : Cut t before' name' gap' params' after')
    (hbefore : EndsOutside isWord before) (hbefore' : EndsOutside isWord before') :
    before = before' ∧ name = name' ∧ after = after' := by
  obtain ⟨hfront, hback⟩ := h.front_unique h'.text_eq h'.open_notMem
  obtain ⟨-, hafter⟩ := append_cons_inj hback h.close_notMem h'.close_notMem
  obtain ⟨hwords, -⟩ := append_run_inj hfront h.endsOutside_blank h.gap_blank h'.endsOutside_blank h'.gap_blank
  obtain ⟨hbefores, hnames⟩ := append_run_inj hwords hbefore h.name_word hbefore' h'.name_word
  exact ⟨hbefores, hnames, hafter⟩

/-- Any word may stand in the place of the name and of what leads to it. -/
theorem replace_name (h : Cut t before name gap params after) {v : List Char} (hne : v ≠ [])
    (hv : ∀ c ∈ v, isWord c = true) : Cut (v ++ (gap ++ '(' :: params ++ ')' :: after)) [] v gap params after where
  text := by simp
  open_notMem := by
    rw [List.nil_append, List.mem_append, not_or]
    exact ⟨notMem_of_run (by decide) hv, notMem_of_run (by decide) h.gap_blank⟩
  close_notMem := h.close_notMem
  gap_blank := h.gap_blank
  name_ne_nil := hne
  name_word := hv

theorem append_before (h : Cut t before name gap params after) {x : List Char} (hx : '(' ∉ x) :
    Cut (x ++ t) (x ++ before) name gap params after where
  text := by rw [h.text]; simp
  open_notMem := by
    rw [List.append_assoc, List.append_assoc, List.mem_append, ← List.append_assoc, not_or]
    exact ⟨hx, h.open_notMem⟩
  close_notMem := h.close_notMem
  gap_blank := h.gap_blank
  name_ne_nil := h.name_ne_nil
  name_word := h.name_word

theorem append_name (h : Cut t [] name gap params after) {w : List Char} (hw : ∀ c ∈ w, isWord c = true) :
    Cut (w ++ t) [] (w ++ name) gap params after where
  text := by rw [h.text]; simp
  open_notMem := by
    rw [List.nil_append, List.append_assoc, List.mem_append, not_or]
    exact ⟨notMem_of_run (by decide) hw, h.open_notMem⟩
  close_notMem := h.close_notMem
  gap_blank := h.gap_blank
  name_ne_nil := List.append_ne_nil_of_right_ne_nil w h.name_ne_nil
  name_word := List.forall_mem_append.2 ⟨hw, h.name_word⟩

end Cut

/-! ## A name between what leads to it and what follows its parameters -/

/-- A name, its parameters, and what `tail` asks behind them. -/
def named (tail : Next (List Char) → Next (List Char)) : Next (List Char) :=
  grab isWord fun name => many isBlank <| parameters <| tail fun _ => some name

theorem accepts_parameters : Accepts (α := List Char) parameters
    (single (· == '(') * (runs (· != ')') * single (· == ')'))) :=
  (accepts_one _).comp <| (accepts_many _).comp (accepts_one _)

theorem mem_parameters_iff {w : List Char} :
    w ∈ single (· == '(') * (runs (· != ')') * single (· == ')')) ↔
      ∃ params, ')' ∉ params ∧ w = '(' :: params ++ [')'] := by
  constructor
  · rintro ⟨a, ⟨c, hc, rfl⟩, b, ⟨params, hparams, e, ⟨d, hd, rfl⟩, rfl⟩, rfl⟩
    rw [beq_iff_eq] at hc hd
    subst hc hd
    exact ⟨params, forall_bne_iff.1 hparams, rfl⟩
  · rintro ⟨params, hparams, rfl⟩
    refine ⟨['('], ⟨'(', rfl, rfl⟩, params ++ [')'], ?_, rfl⟩
    exact Language.append_mem_mul (forall_bne_iff.2 hparams) ⟨')', rfl, rfl⟩

section Named

variable {m tail : Next (List Char) → Next (List Char)} {L T : Language Char} {t name : List Char}

theorem exists_cut_of_named (hm : Accepts m L) (hL : ∀ x ∈ L, '(' ∉ x)
    (htail : ∀ w, Answers (tail fun _ => some w) w T) (h : m (named tail) t = some name) :
    ∃ before gap params after, Cut t before name gap params after ∧ before ∈ L ∧ after ∈ T := by
  obtain ⟨before, hbefore, rest, rfl, hrest⟩ := hm.sound h
  obtain ⟨w, follow, rfl, hne, hword, hfollow⟩ := exists_of_grab hrest
  have hanswers := (accepts_many isBlank).answers (accepts_parameters.answers (htail w))
  obtain ⟨rfl, gap, hgap, list, ⟨pars, hpars, after, hafter, rfl⟩, rfl⟩ := (hanswers follow name).1 hfollow
  obtain ⟨params, hparams, rfl⟩ := mem_parameters_iff.1 hpars
  refine ⟨before, gap, params, after, ⟨?_, ?_, hparams, hgap, hne, hword⟩, hbefore, hafter⟩
  · simp
  · simp only [List.mem_append, not_or]
    exact ⟨⟨hL before hbefore, notMem_of_run (by decide) hword⟩, notMem_of_run (by decide) hgap⟩

theorem isSome_named (hm : Accepts m L) (htail : ∀ w, Answers (tail fun _ => some w) w T)
    {before gap params after : List Char} (hcut : Cut t before name gap params after) (hbefore : before ∈ L)
    (hafter : after ∈ T) : (m (named tail) t).isSome = true := by
  have hanswers := (accepts_many isBlank).answers (accepts_parameters.answers (htail name))
  have hpars := mem_parameters_iff.2 ⟨params, hcut.close_notMem, rfl⟩
  have hfollow := hanswers.isSome.2 (Language.append_mem_mul hcut.gap_blank (Language.append_mem_mul hpars hafter))
  have hname := isSome_grab (k := fun w => many isBlank <| parameters <| tail fun _ => some w)
    ⟨hcut.name_ne_nil, hcut.name_word⟩ hfollow
  have htext : t = before ++ (name ++ (gap ++ ('(' :: params ++ [')'] ++ after))) := by
    rw [hcut.text]
    simp
  rw [htext]
  exact hm.complete hbefore hname

/-- Where no part of a word is left before the name, the name is found exactly by cutting the line. -/
theorem named_eq_some_iff (hm : Accepts m L) (hL : ∀ x ∈ L, '(' ∉ x) (hend : ∀ x ∈ L, EndsOutside isWord x)
    (htail : ∀ w, Answers (tail fun _ => some w) w T) :
    m (named tail) t = some name ↔
      ∃ before gap params after, Cut t before name gap params after ∧ before ∈ L ∧ after ∈ T := by
  refine ⟨exists_cut_of_named hm hL htail, ?_⟩
  rintro ⟨before, gap, params, after, hcut, hbefore, hafter⟩
  obtain ⟨found, hfound⟩ := Option.isSome_iff_exists.1 (isSome_named hm htail hcut hbefore hafter)
  obtain ⟨before', _, _, _, hcut', hbefore', -⟩ := exists_cut_of_named hm hL htail hfound
  obtain ⟨-, rfl, -⟩ := hcut.unique hcut' (hend before hbefore) (hend before' hbefore')
  exact hfound

end Named

/-! ## What leads to a name -/

/-- A text of word characters, white space and some marks that is empty or ends with white space. -/
def Lead (marks x : List Char) : Prop :=
  (∀ c ∈ x, isWord c = true ∨ isBlank c = true ∨ c ∈ marks) ∧ (x = [] ∨ ∃ y b, x = y ++ [b] ∧ isBlank b = true)

theorem mem_lead_iff {p : Char → Bool} {marks x : List Char}
    (hp : ∀ c, p c = true ↔ isWord c = true ∨ isBlank c = true ∨ c ∈ marks) :
    x ∈ runs isBlank * (runs1 p * runs1 isBlank + 1) ↔ Lead marks x := by
  have hblank : ∀ {b}, b ∈ runs isBlank → ∀ c ∈ b, isWord c = true ∨ isBlank c = true ∨ c ∈ marks :=
    fun hb c hc => Or.inr (Or.inl (hb c hc))
  have hlast : ∀ {b}, b ∈ runs1 isBlank → ∃ y d, b = y ++ [d] ∧ isBlank d = true := by
    rintro b ⟨hne, hall⟩
    refine ⟨b.dropLast, b.getLast hne, (List.dropLast_concat_getLast hne).symm, ?_⟩
    exact hall _ (List.getLast_mem hne)
  constructor
  · rintro ⟨b, hb, _, ⟨l, ⟨-, hl⟩, g, hg, rfl⟩ | rfl, rfl⟩
    · obtain ⟨y, d, rfl, hd⟩ := hlast hg
      refine ⟨?_, Or.inr ⟨b ++ (l ++ y), d, by simp, hd⟩⟩
      simp only [List.forall_mem_append]
      exact ⟨hblank hb, fun c hc => (hp c).1 (hl c hc), List.forall_mem_append.1 (hblank hg.2)⟩
    · simp only [List.append_nil]
      refine ⟨hblank hb, ?_⟩
      by_cases hnil : b = []
      · exact Or.inl hnil
      · exact Or.inr (hlast ⟨hnil, hb⟩)
  · rintro ⟨hall, rfl | ⟨y, b, rfl, hb⟩⟩
    · exact ⟨[], nil_mem_runs _, [], Or.inr rfl, rfl⟩
    · have hgap : [b] ∈ runs1 isBlank := ⟨by simp, by simpa using hb⟩
      by_cases hnil : y = []
      · subst hnil
        exact ⟨[b], hgap.2, [], Or.inr rfl, rfl⟩
      · refine ⟨[], nil_mem_runs _, y ++ [b], Or.inl ?_, rfl⟩
        refine Language.append_mem_mul ⟨hnil, fun c hc => ?_⟩ hgap
        exact (hp c).2 (hall c (List.mem_append_left _ hc))

theorem Lead.append {marks x y : List Char} (hx : ∀ c ∈ x, isWord c = true ∨ isBlank c = true ∨ c ∈ marks)
    (hy : Lead marks y) (hne : y ≠ []) : Lead marks (x ++ y) := by
  obtain ⟨hall, rfl | ⟨z, b, rfl, hb⟩⟩ := hy
  · exact absurd rfl hne
  · exact ⟨List.forall_mem_append.2 ⟨hx, hall⟩, Or.inr ⟨x ++ z, b, by simp, hb⟩⟩

theorem Lead.endsOutside {marks x : List Char} (h : Lead marks x) : EndsOutside isWord x := by
  obtain rfl | ⟨y, b, rfl, hb⟩ := h.2
  · intro c hc
    simp at hc
  · intro c hc
    obtain rfl : b = c := by simpa using hc
    exact isWord_of_isBlank hb

theorem Lead.open_notMem {marks x : List Char} (hmarks : '(' ∉ marks) (h : Lead marks x) : '(' ∉ x := by
  intro hc
  obtain hword | hblank | hmark := h.1 _ hc
  · exact absurd hword (by decide)
  · exact absurd hblank (by decide)
  · exact hmarks hmark

/-! ## What is shown of a line -/

theorem isKeyword_eq_false_iff {name : List Char} :
    isKeyword name = false ↔ ∀ w ∈ keywords, lower name ≠ w.toList := by
  simp only [isKeyword, isAny, List.any_eq_false, beq_iff_eq]
  exact ⟨fun h w hw heq => h w hw heq.symm, fun h w hw heq => h w hw heq.symm⟩

/-- A name that is found on a line that passes, and passes itself, is shown by its first 20 characters. -/
theorem shown_eq_some_iff {passes : Bool} {found : Option (List Char)} {refused : List Char → Bool}
    {shown : List Char} :
    (if passes then found.bind fun name => if refused name then none else some (truncate name) else none) =
        some shown ↔
      ∃ name, passes = true ∧ found = some name ∧ refused name = false ∧ shown = name.take 20 := by
  constructor
  · intro h
    split at h
    · rename_i hpasses
      obtain ⟨name, hname, hkeep⟩ := Option.bind_eq_some_iff.1 h
      split at hkeep
      · simp at hkeep
      · rename_i hrefused
        exact ⟨name, hpasses, hname, Bool.eq_false_iff.2 hrefused, (Option.some.inj hkeep).symm⟩
    · simp at h
  · rintro ⟨name, rfl, rfl, hrefused, rfl⟩
    rw [if_pos rfl, Option.bind_some, hrefused, if_neg Bool.false_ne_true]
    rfl

end Landmarks.Rule.FunctionHead
