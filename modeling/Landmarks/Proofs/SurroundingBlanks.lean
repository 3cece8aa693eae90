import Landmarks.Proofs.CppFunctionHeads
import Landmarks.Proofs.CppTypeHeads
import Landmarks.Proofs.CsharpFunctionHeads
import Landmarks.Proofs.CsharpTypeHeads

/-!
# White space around a line

White space before a line is cut off once, before any shape is asked. White space behind it stays, and every
shape has its own way to pass over it.

* `Shape.find_append_blank` : no shape but that of a banner sees white space behind a line.
* `Rule.Banner.find_append` : a banner does not see spaces and tabs there.
* `classify_surround` : a line is the same with and without both.
-/

namespace Landmarks

open Text

/-! ## How a line begins -/

namespace Rule

section Blank

variable {z : List Char} (hz : ∀ c ∈ z, isBlank c = true)

include hz

theorem isBlankOrComment_append (cs : List Char) : isBlankOrComment (cs ++ z) = isBlankOrComment cs := by
  have hslashes : EndsOutside isBlank "//".toList := endsOutside_concat (by decide) ['/']
  have hcomment : "//".toList.isPrefixOf (trimStart (cs ++ z)) = "//".toList.isPrefixOf (trimStart cs) := by
    rw [Bool.eq_iff_iff, List.isPrefixOf_iff_prefix, List.isPrefixOf_iff_prefix]
    exact isPrefix_trimStart_append hslashes hz cs
  rw [isBlankOrComment, trim_append_blank cs hz, hcomment, isBlankOrComment]

theorem startsWithAny_append {ws : List String} (hws : ∀ w ∈ ws, EndsOutside isBlank w.toList) (cs : List Char) :
    startsWithAny ws (cs ++ z) = startsWithAny ws cs := by
  rw [startsWithAny, startsWithAny, Bool.eq_iff_iff, List.any_eq_true, List.any_eq_true]
  refine exists_congr fun w => and_congr_right fun hw => ?_
  rw [List.isPrefixOf_iff_prefix, List.isPrefixOf_iff_prefix]
  exact isPrefix_append_run (hws w hw) hz cs

/-! ## Types -/

namespace TypeHead

theorem words_upTo_append {stop : Char → Bool} {v : List Char} (hv : v ≠ []) :
    words (upTo stop (v ++ z)) = words (upTo stop v) := by
  obtain ⟨c, v, rfl⟩ := List.exists_cons_of_ne_nil hv
  have hblank : ∀ d ∈ z.takeWhile (!stop ·), isBlank d = true := fun d hd =>
    hz d ((List.takeWhile_prefix _).subset hd)
  rw [List.cons_append, upTo_cons, upTo_cons, List.takeWhile_append]
  split
  · rename_i hall
    rw [(List.takeWhile_prefix _).eq_of_length hall, ← List.cons_append, words_append_blank _ hblank]
  · rfl

theorem bind_afterKeyword_blank : (afterKeyword z).bind pickName = none := by
  by_cases hne : z = []
  · subst hne
    rfl
  · have hbind := bind_afterKeyword ⟨hne, hz⟩ (fun c hc => by simp at hc : StartsOutside isBlank [])
    rw [List.append_nil] at hbind
    rw [hbind]
    rfl

/-- White space at the end adds no word to what follows the keyword. -/
theorem bind_afterKeyword_append (s : List Char) :
    (afterKeyword (s ++ z)).bind pickName = (afterKeyword s).bind pickName := by
  by_cases hblank : ∀ c ∈ s, isBlank c = true
  · rw [bind_afterKeyword_blank hblank, bind_afterKeyword_blank (List.forall_mem_append.2 ⟨hblank, hz⟩)]
  · have hv : trimStart s ≠ [] := fun hnil => hblank (List.dropWhile_eq_nil_iff.1 hnil)
    obtain ⟨c, v, hcut⟩ := List.exists_cons_of_ne_nil hv
    have hstarts : ∀ y, StartsOutside isBlank (trimStart s ++ y) := fun y => by
      rw [hcut]
      exact startsOutside_cons (isBlank_head_trimStart hcut) _
    rw [← takeWhile_append_trimStart s, List.append_assoc]
    by_cases hgap : s.takeWhile isBlank = []
    · -- without white space behind the keyword there is no declaration
      have hnone : ∀ y, afterKeyword (trimStart s ++ y) = none := fun y => by
        rw [hcut]
        exact one_cons_of_not _ (isBlank_head_trimStart hcut) _
      have hself := hnone []
      rw [List.append_nil] at hself
      rw [hgap, List.nil_append, List.nil_append, hnone z, hself]
    · have hrun : s.takeWhile isBlank ∈ runs1 isBlank := ⟨hgap, fun c hc => List.mem_takeWhile_imp hc⟩
      rw [bind_afterKeyword hrun (hstarts z), bind_afterKeyword hrun (startsOutside_trimStart s), pickName,
        words_upTo_append hz hv, pickName]

theorem bind_cppDeclared_append (t : List Char) :
    (cppDeclared (t ++ z)).bind pickName = (cppDeclared t).bind pickName := by
  by_cases hkeyword : ∃ b ∈ runs isBlank, ∃ x, CppKeyword x ∧ b ++ x <+: t
  · obtain ⟨b, hb, x, hx, s, rfl⟩ := hkeyword
    rw [List.append_assoc (b ++ x), cppDeclared_append hb hx, cppDeclared_append hb hx,
      bind_afterKeyword_append hz]
  · -- the white space holds no part of a keyword
    have hnone : ∀ y, (∀ c ∈ y, isBlank c = true) → cppDeclared (t ++ y) = none := by
      intro y hy
      rw [Option.eq_none_iff_forall_ne_some]
      intro captured h
      obtain ⟨_, ⟨b, hb, x, hx, rfl⟩, s, hcut, -⟩ := accepts_upToKeyword.sound h
      have hpre : b ++ x <+: t ++ y := ⟨s, hcut.symm⟩
      exact hkeyword ⟨b, hb, x, hx, (isPrefix_append_run (hx.endsOutside b) hy t).1 hpre⟩
    have hself := hnone [] (by simp)
    rw [List.append_nil] at hself
    rw [hnone z hz, hself]

theorem findCpp_append (cs : List Char) : findCpp (cs ++ z) = findCpp cs := by
  rw [findCpp_eq, findCpp_eq, isBlankOrComment_append hz, bind_cppDeclared_append hz]

theorem findCsharp_append (cs : List Char) : findCsharp (cs ++ z) = findCsharp cs := by
  rw [findCsharp_eq, findCsharp_eq, words_append_blank cs hz]

end TypeHead

/-! ## Functions -/

namespace FunctionHead

/-- White space behind a line is cut off with what follows the parameters. -/
theorem Cut.of_append {t before name gap params after : List Char}
    (h : Cut (t ++ z) before name gap params after) :
    ∃ rest, after = rest ++ z ∧ Cut t before name gap params rest := by
  have hhead : before ++ name ++ gap ++ '(' :: params ++ [')'] <+: t ++ z := ⟨after, by rw [h.text]; simp⟩
  obtain ⟨rest, rfl⟩ := (isPrefix_append_run (endsOutside_concat (by decide) _) hz t).1 hhead
  refine ⟨rest, ?_, ?_, h.open_notMem, h.close_notMem, h.gap_blank, h.name_ne_nil, h.name_word⟩
  · simpa using h.text.symm
  · simp

theorem exists_cut_append_iff {t before name gap params : List Char} {P : List Char → Prop}
    (hP : ∀ r, P (r ++ z) ↔ P r) :
    (∃ after, Cut (t ++ z) before name gap params after ∧ P after) ↔
      ∃ after, Cut t before name gap params after ∧ P after := by
  constructor
  · rintro ⟨_, hcut, hafter⟩
    obtain ⟨rest, rfl, hrest⟩ := hcut.of_append hz
    exact ⟨rest, hrest, (hP rest).1 hafter⟩
  · rintro ⟨after, hcut, hafter⟩
    refine ⟨after ++ z, ⟨?_, hcut.open_notMem, hcut.close_notMem, hcut.gap_blank, hcut.name_ne_nil,
      hcut.name_word⟩, (hP after).2 hafter⟩
    rw [hcut.text]
    simp

/-! ### The C family -/

theorem cppAfter_append {r : List Char} : CppAfter (r ++ z) ↔ CppAfter r := by
  rw [cppAfter_iff, cppAfter_iff]
  constructor
  · rintro ⟨y, hy, rest, heq, rfl | ⟨back, rfl⟩⟩
    · rw [List.append_nil] at heq
      exact ⟨r, blankReduced_qualifiers r z hz (heq ▸ hy), [], (List.append_nil r).symm, Or.inl rfl⟩
    · have hpre : y ++ ['{'] <+: r ++ z := ⟨back, by rw [heq, List.append_assoc]⟩
      obtain ⟨back', rfl⟩ := (isPrefix_append_run (endsOutside_concat (by decide) y) hz r).1 hpre
      exact ⟨y, hy, ['{'] ++ back', List.append_assoc _ _ _, Or.inr ⟨back', rfl⟩⟩
  · rintro ⟨y, hy, rest, rfl, rfl | ⟨back, rfl⟩⟩
    · exact ⟨y ++ z, blankClosed_qualifiers y hy z hz, [], by simp, Or.inl rfl⟩
    · exact ⟨y, hy, ['{'] ++ (back ++ z), by simp, Or.inr ⟨back ++ z, rfl⟩⟩

theorem cppName_append (t : List Char) : cppName (t ++ z) = cppName t := by
  refine Option.ext fun name => ?_
  rw [cppName_eq_some_iff, cppName_eq_some_iff]
  refine exists_congr fun before => exists_congr fun gap => exists_congr fun params => ?_
  exact exists_cut_append_iff hz fun r => and_congr_right fun _ => cppAfter_append hz

/-- White space holds no place of a name. -/
theorem isMacroUse_append {name t : List Char} (hname : WordIn name t) :
    isMacroUse name (t ++ z) = isMacroUse name t := by
  have hends : EndsOutside isBlank name := fun c hc => isBlank_of_isWord (hname.isWord c (List.mem_of_mem_getLast? hc))
  have hplace : ∀ head, head ++ name <+: t ++ z ↔ head ++ name <+: t := fun head =>
    isPrefix_append_run (endsOutside_append hname.ne_nil hends head) hz t
  have hcall : ∀ head, head ++ name ++ ['('] <+: t ++ z ↔ head ++ name ++ ['('] <+: t := fun head =>
    isPrefix_append_run (endsOutside_concat (by decide) _) hz t
  rw [Bool.eq_iff_iff, isMacroUse_iff hname.ne_nil, isMacroUse_iff hname.ne_nil, lastCalled_iff, lastCalled_iff]
  simp only [hplace, hcall]

theorem findCpp_append (t : List Char) : findCpp (t ++ z) = findCpp t := by
  have hcandidate : cppCandidate (t ++ z) = cppCandidate t := by
    simp only [cppCandidate, trim_append_blank t hz, isBlankOrComment_append hz]
  rw [findCpp, findCpp, hcandidate, cppName_append hz]
  cases hname : cppName t with
  | none => rfl
  | some name => rw [Option.bind_some, Option.bind_some, isMacroUse_append hz (wordIn_cppName hname)]

/-! ### C# -/

theorem csharpAfter_append {r : List Char} : CsharpAfter (r ++ z) ↔ CsharpAfter r := by
  have hnil : trimStart (r ++ z) = [] ↔ trimStart r = [] := by
    rw [trimStart_append_blank r hz]
    split
    · rename_i hnil
      simp [hnil]
    · rename_i hne
      simp [hne]
  have hbody : EndsOutside isBlank ['{'] := endsOutside_concat (by decide) []
  have harrow : EndsOutside isBlank "=>".toList := endsOutside_concat (by decide) ['=']
  rw [CsharpAfter, CsharpAfter, hnil, isPrefix_trimStart_append hbody hz, isPrefix_trimStart_append harrow hz]

theorem csharpName_append (t : List Char) : csharpName (t ++ z) = csharpName t := by
  refine Option.ext fun name => ?_
  rw [csharpName_eq_some_iff, csharpName_eq_some_iff]
  refine exists_congr fun before => exists_congr fun word => exists_congr fun gap => exists_congr fun params => ?_
  refine exists_cut_append_iff hz fun r => and_congr_right fun _ => and_congr_left fun _ => ?_
  exact csharpAfter_append hz

theorem findCsharp_append (t : List Char) : findCsharp (t ++ z) = findCsharp t := by
  have hcandidate : csharpCandidate (t ++ z) = csharpCandidate t := by
    simp only [csharpCandidate, trim_append_blank t hz, isBlankOrComment_append hz]
  rw [findCsharp, findCsharp, hcandidate, csharpName_append hz]

end FunctionHead

/-! ## Access labels and banners -/

theorem AccessLabel.find_append (short : Bool) (cs : List Char) :
    AccessLabel.find short (cs ++ z) = AccessLabel.find short cs := by
  rw [AccessLabel.find, trim_append_blank cs hz, AccessLabel.find]

end Blank

namespace Banner

section Padding

variable {z : List Char} (hz : ∀ c ∈ z, c = ' ' ∨ c = '\t')

include hz

theorem title_append (cs : List Char) : title (cs ++ z) = title cs := by
  have hmark : ∀ c ∈ z, isCommentMark c = true := run_of_padding rfl rfl hz
  have hdecoration : ∀ c ∈ z, isDecoration c = true := run_of_padding rfl rfl hz
  have hnil : stripStart isCommentMark z = [] := List.dropWhile_eq_nil_iff.2 hmark
  rw [title, stripStart_append, hnil, title]
  split
  · rename_i hempty
    rw [hempty]
  · rw [strip_append_run _ hdecoration]

theorem find_append (cs : List Char) : find (cs ++ z) = find cs := by
  have hblank := isBlank_of_padding hz
  have hopeners : ∀ w ∈ openers, EndsOutside isBlank w.toList := by
    intro w hw
    rcases List.mem_pair.1 hw with rfl | rfl
    · exact endsOutside_concat (by decide) ['/']
    · exact endsOutside_concat (by decide) ['/']
  rw [find, startsWithAny_append hblank hopeners, title_append hz, find]
  cases hopen : startsWithAny openers cs with
  | false => rfl
  | true =>
    have hlen : 2 ≤ cs.length := by
      obtain ⟨w, hw, hpre⟩ := List.any_eq_true.1 hopen
      have hle := (List.isPrefixOf_iff_prefix.1 hpre).length_le
      rcases List.mem_pair.1 hw with rfl | rfl
      · exact hle
      · exact hle
    rw [List.drop_append_of_le_length hlen, trim_append_blank _ hblank]

end Padding

-- a line break is no decoration, and stays in the title
example : find "// == Setup\n".toList = some "Setup\n".toList := by decide

end Banner

end Rule

/-! ## All shapes -/

/-- No shape but that of a banner sees white space behind a line. -/
theorem Shape.find_append_blank {s : Shape} (hs : s ≠ .banner) {z : List Char} (hz : ∀ c ∈ z, isBlank c = true)
    (flags : Flags) (cs : List Char) : s.find flags (cs ++ z) = s.find flags cs := by
  cases s with
  | banner => exact absurd rfl hs
  | cppType => exact congrArg Except.ok (Rule.TypeHead.findCpp_append hz cs)
  | csharpType => exact congrArg Except.ok (Rule.TypeHead.findCsharp_append hz cs)
  | cppFunction => exact congrArg Except.ok (Rule.FunctionHead.findCpp_append hz cs)
  | csharpFunction => exact congrArg Except.ok (Rule.FunctionHead.findCsharp_append hz cs)
  | accessLabel => exact Rule.AccessLabel.find_append hz flags.shortenAccessSpecifiers cs

theorem firstFit_congr {flags : Flags} {cs cs' : List Char} (h : ∀ s : Shape, s.find flags cs = s.find flags cs')
    (shapes : List Shape) :
    firstFit flags cs (shapes.map Shape.toRule) = firstFit flags cs' (shapes.map Shape.toRule) := by
  induction shapes with
  | nil => rfl
  | cons s rest ih =>
    have hs : s.toRule.find flags cs = s.toRule.find flags cs' := h s
    rw [List.map_cons, firstFit, firstFit, hs, ih]

/-- **White space around a line** changes nothing: any before it, spaces and tabs behind it. -/
theorem classify_surround (mode : Mode) (flags : Flags) (text : List Char) {w z : List Char}
    (hw : ∀ c ∈ w, isBlank c = true) (hz : ∀ c ∈ z, c = ' ' ∨ c = '\t') :
    classify mode flags (w ++ text ++ z) = classify mode flags text := by
  have hblank := isBlank_of_padding hz
  have hfind : ∀ (s : Shape) (cs : List Char), s.find flags (cs ++ z) = s.find flags cs := by
    intro s cs
    by_cases hs : s = .banner
    · subst hs
      exact congrArg Except.ok (Rule.Banner.find_append hz cs)
    · exact Shape.find_append_blank hs hblank flags cs
  have hfront : trimStart (w ++ (text ++ z)) = trimStart (text ++ z) := List.dropWhile_append_of_pos hw
  rw [classify, classify, classifyWith, classifyWith, List.append_assoc, hfront, trimStart_append_blank text hblank]
  split
  · rename_i hnil
    rw [hnil]
  · exact firstFit_congr (fun s => hfind s _) _

/-- A declaration that runs over line breaks, with a break and a wide blank before it. -/
theorem classify_surround_declaration :
    let w := "\n \u3000".toList
    let text := "class\n MYLIB_API Widget final\n : Base".toList
    let z := " \t".toList
    (∀ c ∈ w, isBlank c = true) ∧ (∀ c ∈ z, c = ' ' ∨ c = '\t') ∧
      classify .clike {} (w ++ text ++ z) = classify .clike {} text ∧
      classify .clike {} text = .ok (some { kind := .type, name := "Widget".toList }) := by
  intro w text z
  have hw : ∀ c ∈ w, isBlank c = true := List.all_eq_true.1 rfl
  have hz : ∀ c ∈ z, c = ' ' ∨ c = '\t' := by simp [z]
  exact ⟨hw, hz, classify_surround .clike {} text hw hz, by decide +kernel⟩

end Landmarks
