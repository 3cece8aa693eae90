import Landmarks.Proofs.Languages
import Landmarks.Proofs.Shapes

/-!
# Types of the C family

* `CppKeyword` : what stands before the declared names. `CppKeyword.unique` : there is one way to take it off.
* `declared` : the part of a declaration that holds the name. `upTo_isClosing` : in a text of more than one
  line a line break may end it too.
* `bind_afterKeyword`, `bind_cppDeclared` : the pattern hands on the words of that part, whatever it tries first.
* `CanName`, `CppDeclares` : which words can name a type, and when a line declares one.
* `findCpp_iff_declares` : the rule shows the last word of the declaration that can name the type.
-/

namespace Landmarks.Rule.TypeHead

open Text

/-! ## Before the name -/

/-- A template head, with the blanks behind it. -/
def TemplateHead (x : List Char) : Prop :=
  ∃ gap args gap', x = "template".toList ++ gap ++ '<' :: args ++ '>' :: gap' ∧ (∀ c ∈ gap, isBlank c = true) ∧
    '>' ∉ args ∧ ∀ c ∈ gap', isBlank c = true

/-- The keywords that declare a type. -/
def TypeKeyword (x : List Char) : Prop := x = "class".toList ∨ x = "struct".toList

/-- What stands before the declared names: a keyword, maybe behind a template head. -/
def CppKeyword (x : List Char) : Prop :=
  ∃ template keyword, x = template ++ keyword ∧ (template = [] ∨ TemplateHead template) ∧ TypeKeyword keyword

def templateHeads : Language Char := {x | TemplateHead x}

def cppKeywords : Language Char := {x | CppKeyword x}

theorem accepts_template : Accepts (α := List Char) template templateHeads := by
  have hall := (accepts_word (α := List Char) "template".toList).comp <| (accepts_many isBlank).comp <|
    (accepts_one (· == '<')).comp <| (accepts_many (· != '>')).comp <| (accepts_one (· == '>')).comp <|
      accepts_many isBlank
  have hlanguage : oneOf ["template".toList] * (runs isBlank * (single (· == '<') * (runs (· != '>') *
      (single (· == '>') * runs isBlank)))) = templateHeads := by
    ext x
    constructor
    · rintro ⟨w, hw, _, ⟨gap, hgap, _, ⟨_, ⟨c, hc, rfl⟩, _, ⟨args, hargs, _, ⟨_, ⟨d, hd, rfl⟩, gap', hgap', rfl⟩,
        rfl⟩, rfl⟩, rfl⟩, rfl⟩
      obtain rfl := mem_oneOf_singleton.1 hw
      obtain rfl := beq_iff_eq.1 hc
      obtain rfl := beq_iff_eq.1 hd
      exact ⟨gap, args, gap', by simp, hgap, forall_bne_iff.1 hargs, hgap'⟩
    · rintro ⟨gap, args, gap', rfl, hgap, hargs, hgap'⟩
      have hclose : '>' :: gap' ∈ single (· == '>') * runs isBlank := ⟨['>'], ⟨'>', rfl, rfl⟩, gap', hgap', rfl⟩
      have hopen : '<' :: (args ++ '>' :: gap') ∈ single (· == '<') * (runs (· != '>') *
          (single (· == '>') * runs isBlank)) :=
        ⟨['<'], ⟨'<', rfl, rfl⟩, _, Language.append_mem_mul (forall_bne_iff.2 hargs) hclose, rfl⟩
      have hword := Language.append_mem_mul (mem_oneOf_singleton.2 rfl : "template".toList ∈ oneOf _)
        (Language.append_mem_mul (mem_runs.2 hgap) hopen)
      simpa using hword
  exact hlanguage ▸ hall

theorem accepts_cppKeyword : Accepts (α := List Char)
    (fun k => optionally template <| anyOf ["class".toList, "struct".toList] k) cppKeywords := by
  have hlanguage : (templateHeads + 1) * oneOf ["class".toList, "struct".toList] = cppKeywords := by
    have hword : ∀ {w}, w ∈ oneOf ["class".toList, "struct".toList] ↔ TypeKeyword w := List.mem_pair
    ext x
    constructor
    · rintro ⟨template, htemplate, keyword, hkeyword, rfl⟩
      exact ⟨template, keyword, rfl, htemplate.symm, hword.1 hkeyword⟩
    · rintro ⟨template, keyword, rfl, htemplate, hkeyword⟩
      exact ⟨template, htemplate.symm, keyword, hword.2 hkeyword, rfl⟩
  exact hlanguage ▸ accepts_template.optionally.comp (accepts_anyOf _)

section Keyword

variable {keyword keyword' template template' s s' : List Char}

/-- The keywords start with different letters. -/
theorem TypeKeyword.unique (h : TypeKeyword keyword) (h' : TypeKeyword keyword')
    (heq : keyword ++ s = keyword' ++ s') : s = s' := by
  rcases h with rfl | rfl <;> rcases h' with rfl | rfl <;> simp_all

theorem TypeKeyword.startsOutside (h : TypeKeyword keyword) (s : List Char) :
    StartsOutside isBlank (keyword ++ s) := by
  rcases h with rfl | rfl <;> exact startsOutside_cons (by decide) _

theorem TypeKeyword.ne_template (h : TypeKeyword keyword) (htemplate : TemplateHead template) :
    keyword ++ s ≠ template ++ s' := by
  obtain ⟨gap, args, gap', rfl, -⟩ := htemplate
  rcases h with rfl | rfl <;> simp

/-- A template head ends with the blanks behind its first closing bracket. -/
theorem TemplateHead.unique (h : TemplateHead template) (h' : TemplateHead template')
    (hs : StartsOutside isBlank s) (hs' : StartsOutside isBlank s') (heq : template ++ s = template' ++ s') :
    s = s' := by
  obtain ⟨gap, args, after, rfl, hgap, hargs, hafter⟩ := h
  obtain ⟨gap', args', after', rfl, hgap', hargs', hafter'⟩ := h'
  have hbracket : isBlank '<' = false := by decide
  simp only [List.append_assoc, List.cons_append] at heq
  obtain ⟨-, hinner⟩ := append_cons_inj (List.append_cancel_left heq) (notMem_of_run hbracket hgap)
    (notMem_of_run hbracket hgap')
  obtain ⟨-, hback⟩ := append_cons_inj hinner hargs hargs'
  exact (run_append_inj hback hafter hs hafter' hs').2

/-- There is one way to take the keyword off a line, with the template head before it. -/
theorem CppKeyword.unique {x x' : List Char} (h : CppKeyword x) (h' : CppKeyword x') (heq : x ++ s = x' ++ s') :
    s = s' := by
  obtain ⟨template, keyword, rfl, htemplate, hkeyword⟩ := h
  obtain ⟨template', keyword', rfl, htemplate', hkeyword'⟩ := h'
  rw [List.append_assoc, List.append_assoc] at heq
  refine hkeyword.unique hkeyword' ?_
  rcases htemplate with rfl | htemplate
  · rcases htemplate' with rfl | htemplate'
    · exact heq
    · rw [List.nil_append] at heq
      exact absurd heq (hkeyword.ne_template htemplate')
  · rcases htemplate' with rfl | htemplate'
    · rw [List.nil_append] at heq
      exact absurd heq.symm (hkeyword'.ne_template htemplate)
    · exact htemplate.unique htemplate' (hkeyword.startsOutside s) (hkeyword'.startsOutside s') heq

theorem CppKeyword.startsOutside {x : List Char} (h : CppKeyword x) (s : List Char) :
    StartsOutside isBlank (x ++ s) := by
  obtain ⟨template, keyword, rfl, rfl | ⟨_, _, _, rfl, -⟩, hkeyword⟩ := h
  · exact hkeyword.startsOutside s
  · exact startsOutside_cons (by decide) _

theorem TypeKeyword.endsOutside (h : TypeKeyword keyword) (s : List Char) : EndsOutside isBlank (s ++ keyword) := by
  rcases h with rfl | rfl
  · exact endsOutside_append (by simp) (endsOutside_concat (by decide) "clas".toList) s
  · exact endsOutside_append (by simp) (endsOutside_concat (by decide) "struc".toList) s

theorem CppKeyword.endsOutside {x : List Char} (h : CppKeyword x) (s : List Char) :
    EndsOutside isBlank (s ++ x) := by
  obtain ⟨template, keyword, rfl, -, hkeyword⟩ := h
  rw [← List.append_assoc]
  exact hkeyword.endsOutside (s ++ template)

end Keyword

/-! ## The part that holds the name -/

/-- What ends the part of a declaration that holds the name: a base list or a body. -/
def isStop (c : Char) : Bool := c == ':' || c == '{'

/-- What ends that part in a text of more than one line: a base list, a body or a line break. -/
def isClosing (c : Char) : Bool := c == ':' || c == '{' || c == '\r' || c == '\n'

theorem isClosing_eq_isStop {c : Char} (hcr : c ≠ '\r') (hlf : c ≠ '\n') : isClosing c = isStop c := by
  rw [isClosing, isStop, beq_false_of_ne hcr, beq_false_of_ne hlf, Bool.or_false, Bool.or_false]

/-- A text up to the first character of a class behind its first one. -/
def upTo (stop : Char → Bool) (v : List Char) : List Char := v.take (1 + v.tail.findIdx stop)

/-- The part of a declaration that holds the name: up to the first base list or body behind its first
character. -/
def declared (v : List Char) : List Char := upTo isStop v

theorem upTo_cons (stop : Char → Bool) (c : Char) (v : List Char) :
    upTo stop (c :: v) = c :: v.takeWhile (!stop ·) := by
  rw [upTo, List.tail_cons, Nat.add_comm, List.take_succ_cons, List.takeWhile_eq_take_findIdx_not]
  simp only [Bool.not_not]

theorem takeWhile_isClosing {v : List Char} (hcr : '\r' ∉ v) (hlf : '\n' ∉ v) :
    v.takeWhile (!isClosing ·) = v.takeWhile (!isStop ·) := by
  induction v with
  | nil => rfl
  | cons c v ih =>
    simp only [List.mem_cons, not_or] at hcr hlf
    rw [List.takeWhile_cons, List.takeWhile_cons, isClosing_eq_isStop (Ne.symm hcr.1) (Ne.symm hlf.1),
      ih hcr.2 hlf.2]

/-- On one line only a base list or a body ends the part that holds the name. -/
theorem upTo_isClosing {v : List Char} (hcr : '\r' ∉ v) (hlf : '\n' ∉ v) : upTo isClosing v = declared v := by
  cases v with
  | nil => rfl
  | cons c v =>
    simp only [List.mem_cons, not_or] at hcr hlf
    rw [upTo_cons, takeWhile_isClosing hcr.2 hlf.2, declared, upTo_cons]

/-- The language of what may follow the captured part of a declaration. -/
def closings : Language Char :=
  runs isBlank * (single isClosing * ⊤) + (1 + oneOf [['\n']])

theorem answers_closing (captured : List Char) : Answers (closing fun _ => some captured) captured closings := by
  have hconst := answers_const captured
  exact ((accepts_many isBlank).answers ((accepts_one _).answers hconst)).or hconst.atEnd

theorem cons_mem_closings {d : Char} (hd : isClosing d = true) (back : List Char) : d :: back ∈ closings :=
  Or.inl ⟨[], nil_mem_runs isBlank, _, ⟨[d], ⟨d, hd, rfl⟩, back, trivial, rfl⟩, rfl⟩

/-- Up to the base list, body or line break, only blanks follow the captured part. -/
theorem blank_takeWhile_of_mem_closings {rest : List Char} (h : rest ∈ closings) :
    ∀ c ∈ rest.takeWhile (!isClosing ·), isBlank c = true := by
  rcases h with ⟨gap, hgap, _, ⟨_, ⟨d, hd, rfl⟩, back, -, rfl⟩, rfl⟩ | rfl | hbreak
  · have hd : isClosing d = true := hd
    have hstop : (d :: back).takeWhile (!isClosing ·) = [] := List.takeWhile_cons_of_neg (by simp [hd])
    intro c hc
    have hmem : c ∈ (gap ++ d :: back).takeWhile (!isClosing ·) := hc
    rw [List.takeWhile_append, hstop, List.append_nil] at hmem
    split at hmem
    · exact hgap c hmem
    · exact hgap c ((List.takeWhile_prefix _).subset hmem)
  · simp
  · obtain rfl := mem_oneOf_singleton.1 hbreak
    simp [isClosing]

/-- What is captured holds the words of the part that holds the name. -/
theorem words_captured {v captured : List Char}
    (h : grabLeast (· != '\n') (fun w => closing fun _ => some w) v = some captured) :
    words captured = words (upTo isClosing v) := by
  obtain ⟨w, hw, rest, hrest, rfl, rfl, hleast⟩ := (grabLeast_eq_some_iff answers_closing).1 h
  obtain ⟨c, w, rfl⟩ := List.exists_cons_of_ne_nil hw.1
  obtain ⟨hc, hw⟩ := List.forall_mem_cons.1 hw.2
  -- behind a base list, body or line break in the word, a shorter one would have done
  have hfree : ∀ d ∈ w, (!isClosing d) = true := by
    intro d hd
    rw [Bool.not_eq_true']
    by_contra hstop
    obtain ⟨a, b, rfl⟩ := List.append_of_mem hd
    have hback := cons_mem_closings (Bool.not_eq_false _ ▸ hstop) (b ++ rest)
    have hle := hleast (c :: a) (cons_mem_runs1 hc fun e he => hw e (by simp [he])) _ hback (by simp)
    simp only [List.length_cons, List.length_append] at hle
    omega
  rw [List.cons_append, upTo_cons, List.takeWhile_append_of_pos hfree, ← List.cons_append,
    words_append_blank _ (blank_takeWhile_of_mem_closings hrest)]

/-- A part that holds the name is found behind anything but white space. -/
theorem exists_captured {v : List Char} (hne : v ≠ []) (hv : StartsOutside isBlank v) :
    ∃ captured, grabLeast (· != '\n') (fun w => closing fun _ => some w) v = some captured := by
  obtain ⟨c, v, rfl⟩ := List.exists_cons_of_ne_nil hne
  have hc : (c != '\n') = true := by
    rw [bne_iff_ne]
    rintro rfl
    exact absurd (hv '\n' rfl) (by decide)
  have hrun : c :: v.takeWhile (!isClosing ·) ∈ runs1 (· != '\n') := by
    refine cons_mem_runs1 hc fun d hd => ?_
    have hd := List.mem_takeWhile_imp hd
    rw [bne_iff_ne]
    rintro rfl
    exact absurd hd (by decide)
  have hrest : v.dropWhile (!isClosing ·) ∈ closings := by
    have hhead := List.head?_dropWhile_not (!isClosing ·) v
    cases hback : v.dropWhile (!isClosing ·) with
    | nil => exact Or.inr (Or.inl rfl)
    | cons d back =>
      rw [hback] at hhead
      exact cons_mem_closings (by simpa using hhead) back
  have hsome := isSome_grabLeast (k := fun w => closing fun _ => some w) hrun
    ((answers_closing _).isSome.2 hrest)
  rw [List.cons_append, List.takeWhile_append_dropWhile] at hsome
  exact Option.isSome_iff_exists.1 hsome

/-- The pattern behind the keyword. -/
def afterKeyword : Next (List Char) :=
  many1 isBlank <| grabLeast (· != '\n') fun captured => closing fun _ => some captured

/-- Behind the keyword, the words of the part that holds the name are handed on. Without such a part the
pattern goes back into the blanks, and finds no word in them. -/
theorem bind_afterKeyword {gap v : List Char} (hgap : gap ∈ runs1 isBlank) (hv : StartsOutside isBlank v) :
    (afterKeyword (gap ++ v)).bind pickName = pickName (upTo isClosing v) := by
  by_cases hne : v = []
  · subst hne
    have hwords : ∀ captured, afterKeyword (gap ++ []) = some captured → words captured = [] := by
      intro captured h
      obtain ⟨g, -, u, hcut, hu⟩ := (accepts_many1 isBlank).sound h
      obtain ⟨w, -, rest, -, rfl, rfl, -⟩ := (grabLeast_eq_some_iff answers_closing).1 hu
      rw [List.append_nil] at hcut
      exact words_of_blank fun c hc => hgap.2 c (by simp [hcut, hc])
    cases h : afterKeyword (gap ++ []) with
    | none => rfl
    | some captured =>
      rw [Option.bind_some, pickName, hwords captured h]
      rfl
  · obtain ⟨captured, hcaptured⟩ := exists_captured hne hv
    have hafter : afterKeyword (gap ++ v) = some captured := many1_append_of_some hgap hv hcaptured
    rw [hafter, Option.bind_some, pickName, words_captured hcaptured, pickName]

/-! ## Declarations -/

/-- A line with what follows the keyword of its declaration, from the first character that is not blank. -/
def Declaration (t v : List Char) : Prop :=
  ∃ x gap, trimStart t = x ++ gap ++ v ∧ CppKeyword x ∧ gap ≠ [] ∧ (∀ c ∈ gap, isBlank c = true) ∧
    StartsOutside isBlank v

theorem accepts_upToKeyword : Accepts (α := List Char)
    (fun k => many isBlank <| optionally template <| anyOf ["class".toList, "struct".toList] k)
    (runs isBlank * cppKeywords) :=
  (accepts_many isBlank).comp accepts_cppKeyword

theorem cppDeclared_append {b x : List Char} (hb : ∀ c ∈ b, isBlank c = true) (hx : CppKeyword x)
    (s : List Char) : cppDeclared (b ++ x ++ s) = afterKeyword s := by
  refine accepts_upToKeyword.eq_of_unique (Language.append_mem_mul hb hx) ?_
  rintro _ ⟨b', hb', x', hx', rfl⟩ s' hcut -
  have hcut : b' ++ (x' ++ s') = b ++ (x ++ s) := by simpa using hcut
  obtain ⟨-, hkeyword⟩ := run_append_inj hcut hb' (hx'.startsOutside s') hb (hx.startsOutside s)
  exact hx'.unique hx hkeyword

/-- The pattern hands on the words of the part that holds the name. -/
theorem bind_cppDeclared {t v : List Char} (hcr : '\r' ∉ t) (hlf : '\n' ∉ t) (h : Declaration t v) :
    (cppDeclared t).bind pickName = pickName (declared v) := by
  obtain ⟨x, gap, htrim, hx, hne, hgap, hv⟩ := h
  have htext : t = t.takeWhile isBlank ++ x ++ (gap ++ v) := by
    conv_lhs => rw [← takeWhile_append_trimStart t, htrim]
    simp
  have hmem : ∀ {c}, c ∈ v → c ∈ t := by
    intro c hc
    rw [htext]
    simp [hc]
  rw [htext, cppDeclared_append (fun c hc => List.mem_takeWhile_imp hc) hx]
  rw [bind_afterKeyword ⟨hne, hgap⟩ hv, upTo_isClosing (fun h => hcr (hmem h)) (fun h => hlf (hmem h))]

theorem exists_declaration {t captured : List Char} (h : cppDeclared t = some captured) :
    ∃ v, Declaration t v := by
  obtain ⟨_, ⟨b, hb, x, hx, rfl⟩, s, rfl, hs⟩ := accepts_upToKeyword.sound h
  obtain ⟨gap, hgap, u, rfl, -⟩ := (accepts_many1 isBlank).sound hs
  refine ⟨trimStart u, x, gap ++ u.takeWhile isBlank, ?_, hx, by simp [hgap.1], ?_, startsOutside_trimStart u⟩
  · have htrim := trimStart_append hb (hx.startsOutside (gap ++ u))
    rw [List.append_assoc x, List.append_assoc gap, takeWhile_append_trimStart, ← htrim]
    simp
  · exact append_mem_runs hgap.2 fun c hc => List.mem_takeWhile_imp hc

/-! ## The declared name -/

/-- A word that can name a type. -/
structure CanName (w : List Char) : Prop where
  not_api : ¬"_API".toList <:+ w
  not_export : ¬"_EXPORT".toList <:+ w
  not_final : lower w ≠ "final".toList
  not_abstract : lower w ≠ "abstract".toList
  type_name : ∃ c rest, w = c :: rest ∧ (('A' ≤ c ∧ c ≤ 'Z') ∨ c = '_') ∧ ∀ d ∈ rest, isWord d = true

theorem isTypeName_iff {w : List Char} : isTypeName w = true ↔
    ∃ c rest, w = c :: rest ∧ (('A' ≤ c ∧ c ≤ 'Z') ∨ c = '_') ∧ ∀ d ∈ rest, isWord d = true := by
  cases w with
  | nil => simp [isTypeName]
  | cons c rest => simp [isTypeName, isNameStart]

theorem canName_iff {w : List Char} : canName w = true ↔ CanName w := by
  have hends : endsWithAny macroSuffixes w = false ↔ ¬"_API".toList <:+ w ∧ ¬"_EXPORT".toList <:+ w := by
    simp only [endsWithAny, macroSuffixes, List.any_cons, List.any_nil, Bool.or_false, Bool.or_eq_false_iff,
      ← List.isSuffixOf_iff_suffix, Bool.not_eq_true]
  have hqualifier : isAny qualifiers (lower w) = false ↔
      lower w ≠ "final".toList ∧ lower w ≠ "abstract".toList := by
    simp only [isAny, qualifiers, List.any_cons, List.any_nil, Bool.or_false, Bool.or_eq_false_iff,
      beq_eq_false_iff_ne]
    exact and_congr ne_comm ne_comm
  rw [canName, Bool.and_eq_true, Bool.and_eq_true, Bool.not_eq_true', Bool.not_eq_true', hends, hqualifier,
    isTypeName_iff]
  constructor
  · rintro ⟨⟨⟨hapi, hexport⟩, hfinal, habstract⟩, hname⟩
    exact ⟨hapi, hexport, hfinal, habstract, hname⟩
  · intro h
    exact ⟨⟨⟨h.not_api, h.not_export⟩, h.not_final, h.not_abstract⟩, h.type_name⟩

theorem pickName_eq_some_iff {captured w : List Char} : pickName captured = some w ↔
    ∃ ws ws', words captured = ws ++ w :: ws' ∧ CanName w ∧ ∀ u ∈ ws', ¬CanName u := by
  rw [pickName, List.find?_eq_some_iff_append, canName_iff]
  constructor
  · rintro ⟨hw, after, before, hrev, hafter⟩
    refine ⟨before.reverse, after.reverse, ?_, hw, ?_⟩
    · rw [← List.reverse_inj, hrev]
      simp
    · intro u hu
      have hnot := hafter u (List.mem_reverse.1 hu)
      rw [← canName_iff]
      simpa using hnot
  · rintro ⟨before, after, hwords, hw, hafter⟩
    refine ⟨hw, after.reverse, before.reverse, by simp [hwords], ?_⟩
    intro u hu
    have hnot := hafter u (List.mem_reverse.1 hu)
    rw [← canName_iff] at hnot
    simpa using hnot

/-- A line that is neither blank nor a comment, with what follows the keyword of its declaration. -/
structure CppDeclares (t v : List Char) : Prop where
  not_blank : ∃ c ∈ t, isBlank c = false
  not_comment : ¬"//".toList <+: trimStart t
  declaration : Declaration t v

theorem findCpp_eq (t : List Char) :
    findCpp t = if isBlankOrComment t then none else ((cppDeclared t).bind pickName).map (·.take 20) := by
  rw [findCpp, Option.map_bind]
  rfl

/-- The rule shows the first 20 characters of the last word that can name the type, among those between
the keyword and the base list or body. -/
theorem findCpp_iff_declares (t shown : List Char) (hcr : '\r' ∉ t) (hlf : '\n' ∉ t) :
    findCpp t = some shown ↔ ∃ v ws w ws', CppDeclares t v ∧ words (declared v) = ws ++ w :: ws' ∧
      CanName w ∧ (∀ u ∈ ws', ¬CanName u) ∧ shown = w.take 20 := by
  rw [findCpp_eq]
  split
  · rename_i hskip
    simp only [reduceCtorEq, false_iff]
    rintro ⟨v, _, _, _, h, -⟩
    rw [isBlankOrComment_eq_false_iff.2 ⟨h.not_blank, h.not_comment⟩] at hskip
    exact absurd hskip Bool.false_ne_true
  · rename_i hkeep
    obtain ⟨hblank, hcomment⟩ := isBlankOrComment_eq_false_iff.1 (Bool.not_eq_true _ ▸ hkeep)
    rw [Option.map_eq_some_iff]
    constructor
    · rintro ⟨w, hpick, rfl⟩
      obtain ⟨captured, hcaptured, -⟩ := Option.bind_eq_some_iff.1 hpick
      obtain ⟨v, hv⟩ := exists_declaration hcaptured
      rw [bind_cppDeclared hcr hlf hv] at hpick
      obtain ⟨ws, ws', hwords, hw, hlast⟩ := pickName_eq_some_iff.1 hpick
      exact ⟨v, ws, w, ws', ⟨hblank, hcomment, hv⟩, hwords, hw, hlast, rfl⟩
    · rintro ⟨v, ws, w, ws', hv, hwords, hw, hlast, rfl⟩
      refine ⟨w, ?_, rfl⟩
      rw [bind_cppDeclared hcr hlf hv.declaration]
      exact pickName_eq_some_iff.2 ⟨ws, ws', hwords, hw, hlast⟩

/-- Between an export macro and a qualifier, behind a template head. -/
theorem findCpp_exported_template :
    let t := "  template <typename T> class MYLIB_API Widget final : public Base \x7b".toList
    '\r' ∉ t ∧ '\n' ∉ t ∧ ∃ v ws w ws', CppDeclares t v ∧ words (declared v) = ws ++ w :: ws' ∧
      CanName w ∧ (∀ u ∈ ws', ¬CanName u) ∧ "Widget".toList = w.take 20 := by
  intro t
  have hcr : '\r' ∉ t := by decide
  have hlf : '\n' ∉ t := by decide
  have hfind : findCpp t = some "Widget".toList := by decide +kernel
  exact ⟨hcr, hlf, (findCpp_iff_declares t _ hcr hlf).1 hfind⟩

end Landmarks.Rule.TypeHead
