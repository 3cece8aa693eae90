import Landmarks.Proofs.FunctionHeads

/-!
# Functions of the C family

* `CppBefore`, `CppAfter` : what may stand before the name of a function and behind its parameters.
* `cppName_eq_some_iff` : the pattern of a definition, as a way to cut the line.
* `isStatement_eq_false_iff` and the like : the filters on the line, said without searching.
* `CppDefines` : when a line defines a function of a given name.
* `findCpp_iff_defines` : the rule shows exactly the functions that are defined so.
-/

namespace Landmarks.Rule.FunctionHead

open Text

/-! ## The shape of a definition -/

/-- What may stand before the name of a function of the C family: a lead, and a scope behind it. -/
def CppBefore (x : List Char) : Prop :=
  Lead "*&<>:,".toList x ∨ ∃ lead scope, x = lead ++ scope ++ "::".toList ∧ Lead "*&<>:,".toList lead ∧
    scope ≠ [] ∧ ∀ c ∈ scope, isWord c = true

/-- A word that may be missing, with the blanks behind it. -/
def Qualified (w : String) (q : List Char) : Prop :=
  q = [] ∨ ∃ gap, q = w.toList ++ gap ∧ ∀ c ∈ gap, isBlank c = true

/-- What may follow the parameters in the C family: qualifiers, and the end of the line or a body. -/
def CppAfter (r : List Char) : Prop :=
  ∃ gap const override final rest, r = gap ++ const ++ override ++ final ++ rest ∧
    (∀ c ∈ gap, isBlank c = true) ∧ Qualified "const" const ∧ Qualified "override" override ∧
    Qualified "final" final ∧ (rest = [] ∨ ['{'] <+: rest)

theorem isCppLead_iff (c : Char) :
    isCppLead c = true ↔ isWord c = true ∨ isBlank c = true ∨ c ∈ "*&<>:,".toList := by
  simp [isCppLead, or_assoc]

theorem cppBefore_eq :
    runs isBlank * (runs1 isCppLead * runs1 isBlank + 1) * (runs1 isWord * oneOf ["::".toList] + 1) =
      {x | CppBefore x} := by
  ext x
  constructor
  · rintro ⟨lead, hlead, _, ⟨scope, hscope, colons, hcolons, rfl⟩ | rfl, rfl⟩
    · obtain rfl := mem_oneOf_singleton.1 hcolons
      refine Or.inr ⟨lead, scope, (List.append_assoc _ _ _).symm, ?_, hscope⟩
      exact (mem_lead_iff isCppLead_iff).1 hlead
    · refine Or.inl ?_
      simpa using (mem_lead_iff isCppLead_iff).1 hlead
  · rintro (hlead | ⟨lead, scope, rfl, hlead, hscope⟩)
    · exact ⟨x, (mem_lead_iff isCppLead_iff).2 hlead, [], Or.inr rfl, List.append_nil x⟩
    · rw [List.append_assoc]
      refine Language.append_mem_mul ((mem_lead_iff isCppLead_iff).2 hlead) (Or.inl ?_)
      exact Language.append_mem_mul hscope (mem_oneOf_singleton.2 rfl)

theorem accepts_cppBefore : Accepts (α := List Char)
    (fun k => many isBlank <| optionally (fun k => many1 isCppLead (many1 isBlank k)) <| optionally scope k)
    {x | CppBefore x} := by
  have hlead := ((accepts_many1 (α := List Char) isCppLead).comp (accepts_many1 isBlank)).optionally
  have hscope := ((accepts_many1 (α := List Char) isWord).comp (accepts_word "::".toList)).optionally
  have hall := (accepts_many isBlank).comp (hlead.comp hscope)
  rw [← mul_assoc, cppBefore_eq] at hall
  exact hall

theorem CppBefore.open_notMem {x : List Char} (h : CppBefore x) : '(' ∉ x := by
  obtain hlead | ⟨lead, scope, rfl, hlead, -, hscope⟩ := h
  · exact hlead.open_notMem (by decide)
  · simp only [List.mem_append, not_or]
    exact ⟨⟨hlead.open_notMem (by decide), notMem_of_run (by decide) hscope⟩, by decide⟩

theorem CppBefore.endsOutside {x : List Char} (h : CppBefore x) : EndsOutside isWord x := by
  obtain hlead | ⟨lead, scope, rfl, -⟩ := h
  · exact hlead.endsOutside
  · intro c hc
    obtain rfl : ':' = c := by simpa using hc
    decide

/-- A language whose texts may be followed by any blanks. -/
def BlankClosed (X : Language Char) : Prop := ∀ x ∈ X, ∀ b ∈ runs isBlank, x ++ b ∈ X

theorem BlankClosed.mul_qualifier {X : Language Char} (hX : BlankClosed X) (w : List Char) :
    BlankClosed (X * (oneOf [w] * runs isBlank + 1)) := by
  rintro _ ⟨x, hx, _, ⟨v, hv, gap, hgap, rfl⟩ | rfl, rfl⟩ b hb
  · refine ⟨x, hx, v ++ (gap ++ b), Or.inl ?_, by simp⟩
    exact Language.append_mem_mul hv (append_mem_runs hgap hb)
  · exact ⟨x ++ b, hX x hx b hb, [], Or.inr rfl, by simp⟩

theorem mem_qualifier_iff {w : String} {q : List Char} :
    q ∈ oneOf [w.toList] * runs isBlank + 1 ↔ Qualified w q := by
  constructor
  · rintro (⟨v, hv, gap, hgap, rfl⟩ | rfl)
    · obtain rfl := mem_oneOf_singleton.1 hv
      exact Or.inr ⟨gap, rfl, hgap⟩
    · exact Or.inl rfl
  · rintro (rfl | ⟨gap, rfl, hgap⟩)
    · exact Or.inr rfl
    · exact Or.inl (Language.append_mem_mul (mem_oneOf_singleton.2 rfl) hgap)

theorem answers_bodyOrEnd (name : List Char) :
    Answers (fun cs => orElse (one (· == '{') (fun _ => some name) cs) (atEnd (fun _ => some name) cs)) name
      (single (· == '{') * ⊤ + (1 + oneOf [['\n']])) :=
  ((accepts_one _).answers (answers_const name)).or (answers_const name).atEnd

/-- Blanks, and the three qualifiers of a function of the C family. -/
def qualifiers : Language Char :=
  runs isBlank * (oneOf ["const".toList] * runs isBlank + 1) * (oneOf ["override".toList] * runs isBlank + 1) *
    (oneOf ["final".toList] * runs isBlank + 1)

theorem blankClosed_qualifiers : BlankClosed qualifiers := by
  have hblank : BlankClosed (runs isBlank) := fun _ hx _ hb => append_mem_runs hx hb
  exact ((hblank.mul_qualifier _).mul_qualifier _).mul_qualifier _

/-- A language whose texts may lose blanks at the end. -/
def BlankReduced (X : Language Char) : Prop := ∀ x, ∀ b ∈ runs isBlank, x ++ b ∈ X → x ∈ X

theorem BlankReduced.mul_qualifier {X : Language Char} (hX : BlankReduced X) {w : List Char} (hne : w ≠ [])
    (hw : EndsOutside isBlank w) : BlankReduced (X * (oneOf [w] * runs isBlank + 1)) := by
  rintro x b hb ⟨y, hy, _, ⟨v, hv, gap, hgap, rfl⟩ | rfl, heq⟩
  · obtain rfl := mem_oneOf_singleton.1 hv
    have heq : y ++ (v ++ gap) = x ++ b := heq
    have hpre : y ++ v <+: x ++ b := ⟨gap, by rw [← heq, List.append_assoc]⟩
    obtain ⟨gap', rfl⟩ := (isPrefix_append_run (endsOutside_append hne hw y) hb x).1 hpre
    obtain rfl : gap = gap' ++ b := by simpa using heq
    refine ⟨y, hy, v ++ gap', Or.inl ?_, (List.append_assoc _ _ _).symm⟩
    exact Language.append_mem_mul hv fun c hc => hgap c (List.mem_append_left b hc)
  · have heq : y ++ [] = x ++ b := heq
    rw [List.append_nil] at heq
    subst heq
    exact ⟨x, hX x b hb hy, [], Or.inr rfl, List.append_nil x⟩

theorem blankReduced_qualifiers : BlankReduced qualifiers := by
  have hblank : BlankReduced (runs isBlank) := fun x b _ h => fun c hc => h c (List.mem_append_left b hc)
  have hconst : EndsOutside isBlank "const".toList := endsOutside_concat (by decide) "cons".toList
  have hoverride : EndsOutside isBlank "override".toList := endsOutside_concat (by decide) "overrid".toList
  have hfinal : EndsOutside isBlank "final".toList := endsOutside_concat (by decide) "fina".toList
  exact ((hblank.mul_qualifier (by simp) hconst).mul_qualifier (by simp) hoverride).mul_qualifier (by simp) hfinal

theorem mem_qualifiers_iff {y : List Char} :
    y ∈ qualifiers ↔ ∃ gap const override final, y = gap ++ const ++ override ++ final ∧
      (∀ c ∈ gap, isBlank c = true) ∧ Qualified "const" const ∧ Qualified "override" override ∧
      Qualified "final" final := by
  constructor
  · rintro ⟨_, ⟨_, ⟨gap, hgap, const, hconst, rfl⟩, override, hoverride, rfl⟩, final, hfinal, rfl⟩
    exact ⟨gap, const, override, final, rfl, hgap, mem_qualifier_iff.1 hconst, mem_qualifier_iff.1 hoverride,
      mem_qualifier_iff.1 hfinal⟩
  · rintro ⟨gap, const, override, final, rfl, hgap, hconst, hoverride, hfinal⟩
    exact Language.append_mem_mul (Language.append_mem_mul (Language.append_mem_mul hgap
      (mem_qualifier_iff.2 hconst)) (mem_qualifier_iff.2 hoverride)) (mem_qualifier_iff.2 hfinal)

theorem cppAfter_iff {r : List Char} :
    CppAfter r ↔ ∃ y ∈ qualifiers, ∃ rest, r = y ++ rest ∧ (rest = [] ∨ ['{'] <+: rest) := by
  constructor
  · rintro ⟨gap, const, override, final, rest, rfl, hgap, hconst, hoverride, hfinal, hrest⟩
    refine ⟨gap ++ const ++ override ++ final, ?_, rest, rfl, hrest⟩
    exact mem_qualifiers_iff.2 ⟨gap, const, override, final, rfl, hgap, hconst, hoverride, hfinal⟩
  · rintro ⟨y, hy, rest, rfl, hrest⟩
    obtain ⟨gap, const, override, final, rfl, hgap, hconst, hoverride, hfinal⟩ := mem_qualifiers_iff.1 hy
    exact ⟨gap, const, override, final, rest, rfl, hgap, hconst, hoverride, hfinal, hrest⟩

/-- Blanks before the end of the line or a body belong to those behind a qualifier, a line feed included. -/
theorem cppAfter_eq :
    qualifiers * (runs isBlank * (single (· == '{') * ⊤ + (1 + oneOf [['\n']]))) = {r | CppAfter r} := by
  ext r
  constructor
  · rintro ⟨x, hx, _, ⟨b, hb, e, he, rfl⟩, rfl⟩
    have hxb := blankClosed_qualifiers x hx b hb
    show CppAfter (x ++ (b ++ e))
    rw [← List.append_assoc, cppAfter_iff]
    obtain ⟨_, ⟨c, hc, rfl⟩, rest, -, rfl⟩ | rfl | he := he
    · obtain rfl := beq_iff_eq.1 hc
      exact ⟨_, hxb, _, rfl, Or.inr ⟨rest, rfl⟩⟩
    · exact ⟨_, hxb, _, rfl, Or.inl rfl⟩
    · obtain rfl := mem_oneOf_singleton.1 he
      have hfeed := blankClosed_qualifiers _ hxb ['\n'] (List.forall_mem_singleton.2 rfl)
      exact ⟨_, hfeed, [], (List.append_nil _).symm, Or.inl rfl⟩
  · intro hr
    obtain ⟨y, hy, rest, rfl, hrest⟩ := cppAfter_iff.1 hr
    refine Language.append_mem_mul hy ⟨[], nil_mem_runs _, rest, ?_, rfl⟩
    obtain rfl | ⟨rest, rfl⟩ := hrest
    · exact Or.inr (Or.inl rfl)
    · exact Or.inl (Language.append_mem_mul ⟨'{', rfl, rfl⟩ trivial)

theorem answers_cppTail (name : List Char) : Answers (cppTail fun _ => some name) name {r | CppAfter r} := by
  have hqualifier : ∀ w : String, Accepts (α := List Char) (qualifier w) (oneOf [w.toList] * runs isBlank + 1) :=
    fun w => ((accepts_word _).comp (accepts_many isBlank)).optionally
  have htail := (((accepts_many isBlank).comp (hqualifier "const")).comp (hqualifier "override")).comp
    (hqualifier "final") |>.answers ((accepts_many isBlank).answers (answers_bodyOrEnd name))
  exact cppAfter_eq ▸ htail

/-- The name of a function of the C family, by cutting the line. -/
theorem cppName_eq_some_iff {t name : List Char} :
    cppName t = some name ↔ ∃ before gap params after, Cut t before name gap params after ∧ CppBefore before ∧
      CppAfter after :=
  named_eq_some_iff accepts_cppBefore (fun _ => CppBefore.open_notMem) (fun _ => CppBefore.endsOutside)
    answers_cppTail

/-! ## The filters -/

theorem isStatement_eq_false_iff {cs : List Char} :
    isStatement cs = false ↔
      ';' ∉ cs ∨ ∃ head rest, cs = head ++ ';' :: rest ∧ ';' ∉ head ∧ ['}'] <:+ trim head := by
  by_cases hsemi : ';' ∈ cs
  · obtain ⟨head, rest, rfl, hhead⟩ := List.eq_append_cons_of_mem hsemi
    rw [isStatement, takeWhile_bne_append hhead]
    simp only [List.contains_eq_mem, hsemi, decide_true, Bool.true_and, Bool.not_eq_false',
      List.isSuffixOf_iff_suffix, not_true_eq_false, false_or]
    constructor
    · exact fun h => ⟨head, rest, rfl, hhead, h⟩
    · rintro ⟨head', rest', heq, hhead', h⟩
      rwa [(append_cons_inj heq hhead hhead').1]
  · simp [isStatement, hsemi]

theorem quoteBeforeParen_eq_false_iff {cs : List Char} :
    quoteBeforeParen cs = false ↔
      ∀ head rest, cs = head ++ '(' :: rest → '(' ∉ head → '"' ∉ head ∧ '\x27' ∉ head := by
  by_cases hparen : '(' ∈ cs
  · obtain ⟨head, rest, rfl, hhead⟩ := List.eq_append_cons_of_mem hparen
    rw [quoteBeforeParen, takeWhile_bne_append hhead]
    simp only [List.contains_eq_mem, hparen, decide_true, Bool.true_and, List.any_eq_false]
    constructor
    · intro h head' rest' heq hhead'
      obtain ⟨rfl, -⟩ := append_cons_inj heq hhead hhead'
      exact ⟨fun hc => absurd (h _ hc) (by decide), fun hc => absurd (h _ hc) (by decide)⟩
    · intro h c hc hquote
      obtain ⟨hdouble, hsingle⟩ := h head rest rfl hhead
      rw [Bool.or_eq_true, beq_iff_eq, beq_iff_eq] at hquote
      rcases hquote with rfl | rfl
      · exact hdouble hc
      · exact hsingle hc
  · rw [quoteBeforeParen, List.contains_eq_mem, decide_eq_false hparen, Bool.false_and, eq_self_iff_true, true_iff]
    intro head rest heq
    exact absurd (by simp [heq]) hparen

theorem startsWithAny_eq_false_iff {ws : List String} {cs : List Char} :
    startsWithAny ws cs = false ↔ ∀ w ∈ ws, ¬w.toList <+: cs := by
  simp [startsWithAny, List.isPrefixOf_iff_prefix]

/-- A call in ASCII capitals: a name, blanks, and a parenthesis. -/
def MacroCall (u : List Char) : Prop :=
  ∃ name gap rest, u = name ++ gap ++ '(' :: rest ∧ name ≠ [] ∧
    (∀ c ∈ name, ('A' ≤ c ∧ c ≤ 'Z') ∨ c = '_') ∧ ∀ c ∈ gap, isBlank c = true

theorem isMacroChar_iff {c : Char} : isMacroChar c = true ↔ ('A' ≤ c ∧ c ≤ 'Z') ∨ c = '_' := by
  simp [isMacroChar]

theorem isMacroCall_iff {u : List Char} (hu : StartsOutside isBlank u) : isMacroCall u = true ↔ MacroCall u := by
  have hanswers := ((accepts_many isBlank).comp <| (accepts_many1 isMacroChar).comp <|
    (accepts_many isBlank).comp <| accepts_one (· == '(')).answers (answers_const ())
  rw [isMacroCall, hanswers.isSome]
  constructor
  · rintro ⟨_, ⟨lead, hlead, _, ⟨name, hname, _, ⟨gap, hgap, _, ⟨c, hc, rfl⟩, rfl⟩, rfl⟩, rfl⟩, rest, -, rfl⟩
    obtain rfl := beq_iff_eq.1 hc
    -- a text without white space at the front leaves none to be skipped
    obtain rfl : lead = [] := by
      cases lead with
      | nil => rfl
      | cons d lead => exact absurd (hlead d List.mem_cons_self) (by simp [hu d rfl])
    exact ⟨name, gap, rest, by simp, hname.1, fun c hc => isMacroChar_iff.1 (hname.2 c hc), hgap⟩
  · rintro ⟨name, gap, rest, rfl, hne, hname, hgap⟩
    refine ⟨name ++ gap ++ ['('], ?_, rest, trivial, by simp⟩
    refine ⟨[], nil_mem_runs _, name ++ (gap ++ ['(']), ?_, by simp⟩
    refine Language.append_mem_mul ⟨hne, fun c hc => isMacroChar_iff.2 (hname c hc)⟩ ?_
    exact Language.append_mem_mul hgap ⟨'(', rfl, rfl⟩

/-- The last place of a name in a line is directly followed by a parenthesis. -/
def LastCalled (name t : List Char) : Prop :=
  ∃ head rest, t = head ++ name ++ '(' :: rest ∧
    ∀ head' rest', t = head' ++ name ++ rest' → head'.length ≤ head.length

theorem lastCalled_iff {name t : List Char} : LastCalled name t ↔
    ∃ head, head ++ name ++ ['('] <+: t ∧ ∀ head', head' ++ name <+: t → head'.length ≤ head.length := by
  constructor
  · rintro ⟨head, rest, rfl, hlast⟩
    refine ⟨head, ⟨rest, by simp⟩, ?_⟩
    rintro head' ⟨rest', heq⟩
    exact hlast head' rest' heq.symm
  · rintro ⟨head, ⟨rest, rfl⟩, hlast⟩
    refine ⟨head, rest, by simp, ?_⟩
    intro head' rest' heq
    exact hlast head' ⟨rest', heq.symm⟩

/-- A name in capitals and underscores that are not all of it. -/
def Capitals (name : List Char) : Prop :=
  (∃ c ∈ name, c ≠ '_') ∧ ∀ c ∈ name, c ≠ '_' → isUpper c = true

theorem isMacroName_iff {name : List Char} (hne : name ≠ []) : isMacroName name = true ↔ Capitals name := by
  rw [isMacroName, List.isEmpty_eq_false_iff.2 hne, Bool.false_or]
  simp [Capitals, or_iff_not_imp_left]

theorem isMacroUse_iff {name t : List Char} (hne : name ≠ []) :
    isMacroUse name t = true ↔ LastCalled name t ∧ Capitals name := by
  have hlast : LastCalled name t ↔ ∃ rest, restAfterLast? name t = some ('(' :: rest) := by
    simp only [LastCalled, restAfterLast?_eq_some_iff]
    exact exists_comm
  rw [hlast, ← isMacroName_iff hne, isMacroUse]
  split
  · rename_i rest hrest
    simp [hrest]
  · rename_i hother
    simp only [Bool.false_eq_true, false_iff, not_and]
    rintro ⟨rest, hrest⟩
    exact absurd hrest (hother rest)

/-! ## Definitions -/

/-- A line that defines a function of the C family. -/
structure CppDefines (t name : List Char) : Prop where
  not_blank : ∃ c ∈ t, isBlank c = false
  not_comment : ¬"//".toList <+: trimStart t
  not_statement : ';' ∉ trim t ∨
    ∃ head rest, trim t = head ++ ';' :: rest ∧ ';' ∉ head ∧ ['}'] <:+ trim head
  no_quote : ∀ head rest, trim t = head ++ '(' :: rest → '(' ∉ head → '"' ∉ head ∧ '\x27' ∉ head
  not_control : ∀ w ∈ ["if", "while", "for", "switch", "return"], ¬w.toList <+: trim t
  not_macro_call : ¬MacroCall (trim t)
  cut : ∃ before gap params after, Cut t before name gap params after ∧ CppBefore before ∧ CppAfter after
  not_keyword : ∀ w ∈ keywords, lower name ≠ w.toList
  not_capitals : ¬(LastCalled name t ∧ Capitals name)

theorem cppCandidate_iff {t : List Char} (hparen : '(' ∈ t) :
    cppCandidate t = true ↔ isBlankOrComment t = false ∧ isStatement (trim t) = false ∧
      quoteBeforeParen (trim t) = false ∧ startsWithAny controlWords (trim t) = false ∧
      ¬isMacroCall (trim t) = true := by
  have hinner : '(' ∈ trim t := (mem_trim (by decide)).2 hparen
  simp [cppCandidate, hinner, and_assoc]

/-- The conditions on a line are the filters and the pattern together. -/
theorem cppDefines_iff {t name : List Char} :
    CppDefines t name ↔ cppCandidate t = true ∧ cppName t = some name ∧ ¬isMacroUse name t = true ∧
      isKeyword name = false := by
  constructor
  · intro h
    obtain ⟨_, _, _, _, hcut, -⟩ := h.cut
    rw [cppCandidate_iff hcut.open_mem, isBlankOrComment_eq_false_iff, isStatement_eq_false_iff,
      quoteBeforeParen_eq_false_iff, startsWithAny_eq_false_iff, isMacroCall_iff (startsOutside_trim t),
      cppName_eq_some_iff, isMacroUse_iff hcut.name_ne_nil, isKeyword_eq_false_iff]
    exact ⟨⟨⟨h.not_blank, h.not_comment⟩, h.not_statement, h.no_quote, h.not_control, h.not_macro_call⟩, h.cut,
      h.not_capitals, h.not_keyword⟩
  · rintro ⟨hcandidate, hname, hcapitals, hkeyword⟩
    rw [cppName_eq_some_iff] at hname
    obtain ⟨_, _, _, _, hcut, -⟩ := id hname
    rw [cppCandidate_iff hcut.open_mem, isBlankOrComment_eq_false_iff, isStatement_eq_false_iff,
      quoteBeforeParen_eq_false_iff, startsWithAny_eq_false_iff,
      isMacroCall_iff (startsOutside_trim t)] at hcandidate
    rw [isMacroUse_iff hcut.name_ne_nil] at hcapitals
    rw [isKeyword_eq_false_iff] at hkeyword
    obtain ⟨⟨hblank, hcomment⟩, hstatement, hquote, hcontrol, hcall⟩ := hcandidate
    exact ⟨hblank, hcomment, hstatement, hquote, hcontrol, hcall, hname, hkeyword, hcapitals⟩

/-- **The functions shown of the C family** are those that a line defines, cut to 20 characters. -/
theorem findCpp_iff_defines (t shown : List Char) :
    findCpp t = some shown ↔ ∃ name, CppDefines t name ∧ shown = name.take 20 := by
  rw [findCpp, shown_eq_some_iff]
  refine exists_congr fun name => ?_
  rw [cppDefines_iff, Bool.or_eq_false_iff, Bool.not_eq_true]
  simp only [and_assoc]

end Landmarks.Rule.FunctionHead
