import Landmarks.Proofs.FunctionHeads

/-!
# Methods of C#

The pattern of a method takes modifiers off the front of a line without asking for white space behind them,
so it may cut into the name when nothing else stands before it.

* `CsharpAfter` : what may follow the parameters of a method.
* `Unmodified` : a word without the modifiers that it starts with.
* `manyOf_modifiers` : no modifier starts another, so the row of modifiers is the longest.
* `CsharpDefines` : when a line defines a method, and which name is shown of it.
* `findCsharp_iff_defines` : the rule shows exactly the methods that are defined so.
-/

namespace Landmarks.Rule.FunctionHead

open Text Computability

/-! ## The shape of a method -/

/-- What may follow the parameters of a method: the end of the line, a body or an arrow. -/
def CsharpAfter (r : List Char) : Prop :=
  trimStart r = [] ∨ ['{'] <+: trimStart r ∨ "=>".toList <+: trimStart r

theorem isCsharpLead_iff (c : Char) :
    isCsharpLead c = true ↔ isWord c = true ∨ isBlank c = true ∨ c ∈ "<>[],*&?".toList := by
  simp [isCsharpLead, or_assoc]

theorem csharpAfter_eq :
    runs isBlank * (oneOf ["=>".toList] * ⊤ + (single (· == '{') * ⊤ + (1 + oneOf [['\n']]))) =
      {r | CsharpAfter r} := by
  ext r
  constructor
  · rintro ⟨b, hb, e, he, rfl⟩
    have htrim : trimStart (b ++ e) = trimStart e := List.dropWhile_append_of_pos hb
    show CsharpAfter (b ++ e)
    rw [CsharpAfter, htrim]
    obtain ⟨w, hw, rest, -, rfl⟩ | ⟨_, ⟨c, hc, rfl⟩, rest, -, rfl⟩ | rfl | he := he
    · obtain rfl := mem_oneOf_singleton.1 hw
      exact Or.inr (Or.inr ⟨rest, rfl⟩)
    · obtain rfl := beq_iff_eq.1 hc
      exact Or.inr (Or.inl ⟨rest, rfl⟩)
    · exact Or.inl rfl
    · obtain rfl := mem_oneOf_singleton.1 he
      exact Or.inl rfl
  · intro hr
    refine ⟨r.takeWhile isBlank, fun c hc => List.mem_takeWhile_imp hc, trimStart r, ?_,
      takeWhile_append_trimStart r⟩
    obtain hnil | ⟨rest, hrest⟩ | ⟨rest, hrest⟩ := hr
    · rw [hnil]
      exact Or.inr (Or.inr (Or.inl rfl))
    · rw [← hrest]
      exact Or.inr (Or.inl (Language.append_mem_mul ⟨'{', rfl, rfl⟩ trivial))
    · rw [← hrest]
      exact Or.inl (Language.append_mem_mul (mem_oneOf_singleton.2 rfl) trivial)

theorem answers_csharpTail (name : List Char) :
    Answers (csharpTail fun _ => some name) name {r | CsharpAfter r} := by
  have hconst := answers_const name
  have hend := ((accepts_word "=>".toList).answers hconst).or
    (((accepts_one (· == '{')).answers hconst).or hconst.atEnd)
  exact csharpAfter_eq ▸ (accepts_many isBlank).answers hend

/-- What is looked for behind the modifiers. -/
def csharpNamed : Next (List Char) :=
  many isBlank <| optionally (fun k => many1 isCsharpLead (many1 isBlank k)) <| named csharpTail

theorem csharpNamed_eq_some_iff {t name : List Char} :
    csharpNamed t = some name ↔ ∃ before gap params after, Cut t before name gap params after ∧
      Lead "<>[],*&?".toList before ∧ CsharpAfter after := by
  have hlead := ((accepts_many1 (α := List Char) isCsharpLead).comp (accepts_many1 isBlank)).optionally
  have hbefore : runs isBlank * (runs1 isCsharpLead * runs1 isBlank + 1) = {x | Lead "<>[],*&?".toList x} :=
    Language.ext fun x => mem_lead_iff isCsharpLead_iff
  exact named_eq_some_iff (hbefore ▸ (accepts_many isBlank).comp hlead)
    (fun _ => Lead.open_notMem (by decide)) (fun _ => Lead.endsOutside) answers_csharpTail

theorem csharpName_eq : csharpName = many isBlank (manyOf csharpModifiers id csharpNamed) := rfl

/-! ## Modifiers -/

/-- A word without the longest row of modifiers that it starts with and that is not all of it. -/
def Unmodified (word name : List Char) : Prop :=
  ∃ row : List (List Char), (∀ m ∈ row, m ∈ csharpModifiers) ∧ word = row.flatten ++ name ∧ name ≠ [] ∧
    ∀ (row' : List (List Char)) (name' : List Char), (∀ m ∈ row', m ∈ csharpModifiers) →
      word = row'.flatten ++ name' → name' ≠ [] → row'.flatten.length ≤ row.flatten.length

theorem Unmodified.unique {word name name' : List Char} (h : Unmodified word name) (h' : Unmodified word name') :
    name = name' := by
  obtain ⟨row, hrow, heq, hne, hlongest⟩ := h
  obtain ⟨row', hrow', heq', hne', hlongest'⟩ := h'
  have hlen := Nat.le_antisymm (hlongest' row name hrow heq hne) (hlongest row' name' hrow' heq' hne')
  exact (List.append_inj (heq.symm.trans heq') hlen).2

theorem modifier_word {m : List Char} (hm : m ∈ csharpModifiers) : m ∈ runs1 isWord := by
  have hall : ∀ m ∈ csharpModifiers, m ≠ [] ∧ m.all isWord = true := by decide
  obtain ⟨hne, hword⟩ := hall m hm
  exact ⟨hne, List.all_eq_true.1 hword⟩

theorem length_lt_modifier_append {m : List Char} (hm : m ∈ csharpModifiers) (t : List Char) :
    t.length < (m ++ t).length := by
  have hpos := List.length_pos_of_ne_nil (modifier_word hm).1
  rw [List.length_append]
  omega

/-- No modifier starts another, so a text starts with at most one. -/
theorem modifier_unique {m m' t : List Char} (hm : m ∈ csharpModifiers) (hm' : m' ∈ csharpModifiers) (ht : m <+: t)
    (ht' : m' <+: t) : m = m' := by
  have hfree : ∀ m ∈ csharpModifiers, ∀ m' ∈ csharpModifiers, m.isPrefixOf m' = true → m = m' := by decide
  simp only [List.isPrefixOf_iff_prefix] at hfree
  rcases List.prefix_or_prefix_of_prefix ht ht' with h | h
  · exact hfree m hm m' hm' h
  · exact (hfree m' hm' m hm h).symm

/-- A word that is no modifier's continuation is left alone by the row of modifiers. -/
theorem manyOf_of_no_modifier {k : Next (List Char)} {t : List Char} (h : ∀ m ∈ csharpModifiers, ¬m <+: t) :
    manyOf csharpModifiers id k t = k t := by
  rw [manyOf, List.findSome?_eq_none_iff.2 fun m hm => word_of_not_prefix (h m hm) _, orElse]

/-- A modifier at the front is taken off if something is found behind it. -/
theorem manyOf_modifier_append {k : Next (List Char)} {m t : List Char} (hm : m ∈ csharpModifiers) :
    manyOf csharpModifiers id k (m ++ t) = orElse (manyOf csharpModifiers id k t) (k (m ++ t)) := by
  rw [manyOf, findSome?_of_unique hm]
  · rw [word_append, id_eq, dif_pos (length_lt_modifier_append hm t)]
  · intro m' hm' hne
    exact word_of_not_prefix (fun hpre => hne (modifier_unique hm' hm hpre (List.prefix_append m t))) _

theorem unmodified_self {w : List Char} (hne : w ≠ [])
    (h : ∀ m ∈ csharpModifiers, ∀ v, w = m ++ v → v = []) : Unmodified w w := by
  refine ⟨[], by simp, rfl, hne, fun row' name' hrow' heq hne' => ?_⟩
  cases row' with
  | nil => exact Nat.le_refl _
  | cons m row' =>
    rw [List.flatten_cons, List.append_assoc] at heq
    have hnil := h m (hrow' m List.mem_cons_self) _ heq
    exact absurd (List.append_eq_nil_iff.1 hnil).2 hne'

theorem Unmodified.append {m v name : List Char} (hm : m ∈ csharpModifiers) (h : Unmodified v name) :
    Unmodified (m ++ v) name := by
  obtain ⟨row, hrow, rfl, hne, hlongest⟩ := h
  refine ⟨m :: row, List.forall_mem_cons.2 ⟨hm, hrow⟩, by simp, hne, fun row' name' hrow' heq hne' => ?_⟩
  cases row' with
  | nil => exact Nat.zero_le _
  | cons m' row' =>
    obtain ⟨hm', hrow'⟩ := List.forall_mem_cons.1 hrow'
    rw [List.flatten_cons, List.append_assoc] at heq
    obtain rfl := modifier_unique hm' hm (heq ▸ List.prefix_append m' _) (List.prefix_append m _)
    have hle := hlongest row' name' hrow' (List.append_cancel_left heq) hne'
    simpa using hle

/-- A modifier at the front of a word and its rest lies within the word. -/
theorem modifier_within {m v rest : List Char} (hm : m ∈ csharpModifiers) (hrest : StartsOutside isWord rest)
    (hpre : m <+: v ++ rest) : m <+: v := isPrefix_of_append (modifier_word hm).2 hrest hpre

/-- The row of modifiers that is taken off a word is the longest that leaves something of it. -/
theorem manyOf_modifiers {k : Next (List Char)} {rest : List Char} (hrest : StartsOutside isWord rest)
    (hnone : k rest = none) (hk : ∀ v ∈ runs1 isWord, k (v ++ rest) = some v) {w : List Char}
    (hw : w ∈ runs1 isWord) :
    ∃ name, Unmodified w name ∧ manyOf csharpModifiers id k (w ++ rest) = some name := by
  induction hn : w.length using Nat.strongRecOn generalizing w with
  | ind n ih =>
    subst hn
    by_cases hstart : ∃ m ∈ csharpModifiers, m <+: w
    · obtain ⟨m, hm, v, rfl⟩ := hstart
      rw [List.append_assoc, manyOf_modifier_append hm]
      by_cases hv : v = []
      · -- a modifier that is the whole word is its name
        subst hv
        have hfree : ∀ m' ∈ csharpModifiers, ¬m' <+: rest := fun m' hm' hpre =>
          (modifier_word hm').1 (List.prefix_nil.1 (modifier_within hm' hrest hpre))
        have hfound := hk _ hw
        rw [List.append_nil] at hw hfound ⊢
        refine ⟨m, unmodified_self hw.1 ?_, ?_⟩
        · intro m' hm' v' heq
          obtain rfl := modifier_unique hm' hm (heq ▸ List.prefix_append m' v') List.prefix_rfl
          exact List.append_right_eq_self.1 heq.symm
        · rw [List.nil_append, manyOf_of_no_modifier hfree, hnone, orElse, hfound]
      · have hvw : v ∈ runs1 isWord := ⟨hv, fun c hc => hw.2 c (List.mem_append_right m hc)⟩
        obtain ⟨name, hname, hfound⟩ := ih v.length (length_lt_modifier_append hm v) hvw rfl
        exact ⟨name, hname.append hm, by rw [hfound, orElse]⟩
    · have hno : ∀ m ∈ csharpModifiers, ¬m <+: w ++ rest := fun m hm hpre =>
        hstart ⟨m, hm, modifier_within hm hrest hpre⟩
      refine ⟨w, unmodified_self hw.1 ?_, ?_⟩
      · rintro m hm v rfl
        exact absurd ⟨m, hm, List.prefix_append m v⟩ hstart
      · rw [manyOf_of_no_modifier hno, hk w hw]

/-! ## The name that is shown -/

/-- The name that is shown of a method: without modifiers if nothing else stands before it. -/
def CsharpShows (before word name : List Char) : Prop :=
  ((∀ c ∈ before, isBlank c = true) → Unmodified word name) ∧ ((∃ c ∈ before, isBlank c = false) → name = word)

theorem CsharpShows.unique {before word name name' : List Char} (h : CsharpShows before word name)
    (h' : CsharpShows before word name') : name = name' := by
  by_cases hblank : ∀ c ∈ before, isBlank c = true
  · exact (h.1 hblank).unique (h'.1 hblank)
  · simp only [not_forall, Bool.not_eq_true] at hblank
    obtain ⟨c, hc, hfalse⟩ := hblank
    rw [h.2 ⟨c, hc, hfalse⟩, h'.2 ⟨c, hc, hfalse⟩]

theorem exists_cut_of_csharpName {t name : List Char} (h : csharpName t = some name) :
    ∃ before word gap params after, Cut t before word gap params after ∧ Lead "<>[],*&?".toList before ∧
      CsharpAfter after ∧ ((∃ c ∈ before, isBlank c = false) → name = word) := by
  obtain ⟨_, ⟨blanks, hblanks, row, hrow, rfl⟩, rest, rfl, hrest⟩ :=
    ((accepts_many isBlank).comp (accepts_manyOf csharpModifiers accepts_self)).sound h
  obtain ⟨before, gap, params, after, hcut, hlead, hafter⟩ := csharpNamed_eq_some_iff.1 hrest
  have hword : ∀ c ∈ row, isWord c = true := by
    obtain ⟨pieces, rfl, hpieces⟩ := Language.mem_kstar.1 hrow
    rw [mul_one] at hpieces
    intro c hc
    obtain ⟨m, hm, hcm⟩ := List.mem_flatten.1 hc
    exact (modifier_word (hpieces m hm)).2 c hcm
  have hopen : '(' ∉ blanks ∧ '(' ∉ row := ⟨notMem_of_run (by decide) hblanks, notMem_of_run (by decide) hword⟩
  show ∃ before word gap params after, Cut (blanks ++ row ++ rest) before word gap params after ∧ _
  rw [List.append_assoc]
  by_cases hnil : before = []
  · -- the modifiers are part of the word
    subst hnil
    refine ⟨blanks, row ++ name, gap, params, after, ?_, ?_, hafter, ?_⟩
    · simpa using (hcut.append_name hword).append_before hopen.1
    · exact (mem_lead_iff isCsharpLead_iff).1 ⟨blanks, hblanks, [], Or.inr rfl, List.append_nil blanks⟩
    · rintro ⟨c, hc, hfalse⟩
      rw [hblanks c hc] at hfalse
      exact absurd hfalse (by simp)
  · refine ⟨blanks ++ (row ++ before), name, gap, params, after, ?_, ?_, hafter, fun _ => rfl⟩
    · exact (hcut.append_before hopen.2).append_before hopen.1
    · rw [← List.append_assoc]
      refine hlead.append (List.forall_mem_append.2 ⟨?_, ?_⟩) hnil
      · exact fun c hc => Or.inr (Or.inl (hblanks c hc))
      · exact fun c hc => Or.inl (hword c hc)

/-- A word with parameters behind it and nothing before it shows its name without modifiers. -/
theorem manyOf_of_cut {t before word gap params after : List Char} (hcut : Cut t before word gap params after)
    (hafter : CsharpAfter after) :
    ∃ name, Unmodified word name ∧ manyOf csharpModifiers id csharpNamed
      (word ++ (gap ++ '(' :: params ++ ')' :: after)) = some name := by
  apply manyOf_modifiers _ _ _ ⟨hcut.name_ne_nil, hcut.name_word⟩
  · cases gap with
    | nil => exact startsOutside_cons (by decide) _
    | cons c gap => exact startsOutside_cons (isWord_of_isBlank (hcut.gap_blank c List.mem_cons_self)) _
  · -- behind the name only blanks stand before the parenthesis
    rw [Option.eq_none_iff_forall_ne_some]
    intro name hname
    obtain ⟨before', gap', params', after', hcut', -⟩ := csharpNamed_eq_some_iff.1 hname
    have hopen : '(' ∉ gap := notMem_of_run (by decide) hcut.gap_blank
    obtain ⟨hgap, -⟩ := hcut'.front_unique (List.append_assoc gap ('(' :: params) _) hopen
    obtain ⟨c, name, rfl⟩ := List.exists_cons_of_ne_nil hcut'.name_ne_nil
    have hblank := hcut.gap_blank c (by simp [← hgap])
    rw [isBlank_of_isWord (hcut'.name_word c List.mem_cons_self)] at hblank
    exact Bool.noConfusion hblank
  · intro v hv
    exact csharpNamed_eq_some_iff.2 ⟨[], gap, params, after, hcut.replace_name hv.1 hv.2,
      ⟨by simp, Or.inl rfl⟩, hafter⟩

/-- A line that can be cut shows a name, and it is the one that is said. -/
theorem csharpName_of_cut {t before word gap params after : List Char}
    (hcut : Cut t before word gap params after) (hlead : Lead "<>[],*&?".toList before)
    (hafter : CsharpAfter after) : ∃ name, CsharpShows before word name ∧ csharpName t = some name := by
  by_cases hblank : ∀ c ∈ before, isBlank c = true
  · obtain ⟨name, hname, hfound⟩ := manyOf_of_cut hcut hafter
    refine ⟨name, ⟨fun _ => hname, ?_⟩, ?_⟩
    · rintro ⟨c, hc, hfalse⟩
      rw [hblank c hc] at hfalse
      exact absurd hfalse (by simp)
    · have htext : t = before ++ (word ++ (gap ++ '(' :: params ++ ')' :: after)) := by
        rw [hcut.text]
        simp
      rw [htext, csharpName_eq]
      refine many_append_of_some hblank ?_ hfound
      obtain ⟨c, w, rfl⟩ := List.exists_cons_of_ne_nil hcut.name_ne_nil
      exact startsOutside_cons (isBlank_of_isWord (hcut.name_word c List.mem_cons_self)) _
  · have hnothing : [] ∈ runs isBlank * (oneOf csharpModifiers * 1)∗ :=
      ⟨[], nil_mem_runs _, [], Language.nil_mem_kstar _, rfl⟩
    have hnamed := csharpNamed_eq_some_iff.2 ⟨before, gap, params, after, hcut, hlead, hafter⟩
    have hsome : (csharpName ([] ++ t)).isSome = true :=
      ((accepts_many isBlank).comp (accepts_manyOf csharpModifiers accepts_self)).complete hnothing
        (Option.isSome_iff_exists.2 ⟨word, hnamed⟩)
    obtain ⟨name, hname⟩ := Option.isSome_iff_exists.1 hsome
    obtain ⟨before', word', _, _, _, hcut', hlead', -, hshown⟩ := exists_cut_of_csharpName hname
    obtain ⟨rfl, rfl, -⟩ := hcut.unique hcut' hlead.endsOutside hlead'.endsOutside
    exact ⟨name, ⟨fun h => absurd h hblank, hshown⟩, hname⟩

/-- The name of a method, by cutting the line. -/
theorem csharpName_eq_some_iff {t name : List Char} :
    csharpName t = some name ↔ ∃ before word gap params after, Cut t before word gap params after ∧
      Lead "<>[],*&?".toList before ∧ CsharpAfter after ∧ CsharpShows before word name := by
  constructor
  · intro h
    obtain ⟨before, word, gap, params, after, hcut, hlead, hafter, -⟩ := exists_cut_of_csharpName h
    obtain ⟨name', hshows, hname'⟩ := csharpName_of_cut hcut hlead hafter
    obtain rfl : name' = name := Option.some.inj (hname'.symm.trans h)
    exact ⟨before, word, gap, params, after, hcut, hlead, hafter, hshows⟩
  · rintro ⟨before, word, gap, params, after, hcut, hlead, hafter, hshows⟩
    obtain ⟨name', hshows', hname'⟩ := csharpName_of_cut hcut hlead hafter
    rw [hshows.unique hshows', hname']

/-! ## Definitions -/

/-- A line that defines a method, and the name that is shown of it. -/
structure CsharpDefines (t name : List Char) : Prop where
  not_blank : ∃ c ∈ t, isBlank c = false
  not_comment : ¬"//".toList <+: trimStart t
  not_attribute : ¬['['] <+: trim t
  cut : ∃ before word gap params after, Cut t before word gap params after ∧
    Lead "<>[],*&?".toList before ∧ CsharpAfter after ∧ CsharpShows before word name
  not_keyword : ∀ w ∈ keywords, lower name ≠ w.toList

/-- The rule without the filter on properties. -/
def findMethod (t : List Char) : Option (List Char) :=
  if !isBlankOrComment t && !List.isPrefixOf ['['] (trim t) && (trim t).contains '(' then
    (csharpName t).bind fun name => if isKeyword name then none else some (truncate name)
  else none

theorem findCsharp_eq_findMethod (t : List Char) : findCsharp t = findMethod t := by
  rw [findCsharp, findMethod, csharpCandidate]
  -- a property has no parenthesis, and without one there is nothing to find
  cases hparen : (trim t).contains '(' with
  | true =>
    rw [isProperty, hparen]
    simp
  | false => simp only [Bool.and_false]

theorem csharpDefines_iff {t name : List Char} :
    CsharpDefines t name ↔ (isBlankOrComment t = false ∧ ¬['['] <+: trim t) ∧ csharpName t = some name ∧
      isKeyword name = false := by
  rw [isBlankOrComment_eq_false_iff, csharpName_eq_some_iff, isKeyword_eq_false_iff]
  constructor
  · intro h
    exact ⟨⟨⟨h.not_blank, h.not_comment⟩, h.not_attribute⟩, h.cut, h.not_keyword⟩
  · rintro ⟨⟨⟨hblank, hcomment⟩, hattribute⟩, hcut, hkeyword⟩
    exact ⟨hblank, hcomment, hattribute, hcut, hkeyword⟩

theorem methodCandidate_iff {t : List Char} :
    (!isBlankOrComment t && !List.isPrefixOf ['['] (trim t) && (trim t).contains '(') = true ↔
      (isBlankOrComment t = false ∧ ¬['['] <+: trim t) ∧ '(' ∈ trim t := by
  rw [Bool.and_eq_true, Bool.and_eq_true, Bool.not_eq_true', Bool.not_eq_true', ← List.isPrefixOf_iff_prefix,
    Bool.not_eq_true, List.contains_iff_mem]

theorem findMethod_eq_some_iff {t shown : List Char} :
    findMethod t = some shown ↔ ∃ name, CsharpDefines t name ∧ shown = name.take 20 := by
  rw [findMethod, shown_eq_some_iff]
  constructor
  · rintro ⟨name, hcandidate, hname, hkeyword, rfl⟩
    obtain ⟨hline, -⟩ := methodCandidate_iff.1 hcandidate
    exact ⟨name, csharpDefines_iff.2 ⟨hline, hname, hkeyword⟩, rfl⟩
  · rintro ⟨name, h, rfl⟩
    obtain ⟨hline, hname, hkeyword⟩ := csharpDefines_iff.1 h
    -- a line that can be cut has a parenthesis
    obtain ⟨_, _, _, _, _, hcut, -⟩ := h.cut
    have hparen : '(' ∈ trim t := (mem_trim (by decide)).2 hcut.open_mem
    exact ⟨name, methodCandidate_iff.2 ⟨hline, hparen⟩, hname, hkeyword, rfl⟩

/-- **The methods shown of C#** are those that a line defines, cut to 20 characters; the filter on properties
changes nothing. -/
theorem findCsharp_iff_defines (t : List Char) :
    (∀ shown, findCsharp t = some shown ↔ ∃ name, CsharpDefines t name ∧ shown = name.take 20) ∧
      findCsharp t = findMethod t := by
  refine ⟨fun shown => ?_, findCsharp_eq_findMethod t⟩
  rw [findCsharp_eq_findMethod]
  exact findMethod_eq_some_iff

end Landmarks.Rule.FunctionHead
