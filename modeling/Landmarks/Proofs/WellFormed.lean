import Landmarks.Proofs.FlagLaws

/-!
# Well-formed markers

* `Marker.WellFormed` : what a marker promises about its name, its kind and the line it stands for.
* `classify_wellFormed` : the marker of a line is well formed for that line.
* `scan_wellFormed` : every marker of a scan is well formed for the line at its place.

A name is cut to length after it has been checked. The cut keeps all promises: it leaves a front part of
the name, and a name so long that it is cut is no keyword in any letter case.
-/

namespace Landmarks

open Text Document

namespace Rule

theorem truncate_eq_take (name : List Char) : truncate name = name.take maxNameLength := rfl

theorem isPrefix_truncate (name : List Char) : truncate name <+: name := List.take_prefix _ name

theorem truncate_of_length_le {name : List Char} (h : name.length ≤ maxNameLength) : truncate name = name :=
  List.take_of_length_le h

theorem WordIn.truncate {name cs : List Char} (h : WordIn name cs) : WordIn (truncate name) cs where
  ne_nil := by
    obtain ⟨c, rest, rfl⟩ := List.exists_cons_of_ne_nil h.ne_nil
    exact List.cons_ne_nil c _
  isWord c hc := h.isWord c ((isPrefix_truncate name).subset hc)
  inText := (isPrefix_truncate name).isInfix.trans h.inText

/-- A text of the greatest length is longer than all keywords, in lower case as well. -/
theorem isKeyword_of_length {name : List Char} (h : name.length = maxNameLength) :
    isKeyword name = false := by
  have hshort : ∀ w ∈ keywords, w.toList.length < maxNameLength := by decide
  rw [isKeyword, isAny, List.any_eq_false]
  intro w hw heq
  have hlen := hshort w hw
  rw [eq_of_beq heq, ← h] at hlen
  exact Nat.not_lt.2 (length_le_lower name) hlen

theorem isKeyword_truncate {name : List Char} (h : isKeyword name = false) :
    isKeyword (truncate name) = false := by
  rcases Nat.le_total name.length maxNameLength with hle | hge
  · rw [truncate_of_length_le hle]
    exact h
  · refine isKeyword_of_length ?_
    rw [truncate_eq_take, List.length_take]
    exact Nat.min_eq_left hge

namespace AccessLabel

theorem infix_of_specifier? {cs w : List Char} (h : specifier? cs = some w) : w <:+: cs := by
  unfold specifier? at h
  dsimp only at h
  split at h
  · rw [← Option.some.inj h]
    exact (isInfix_strip _ _).trans <| (isPrefix_stripEnd _ _).isInfix.trans (isInfix_strip _ cs)
  · simp at h

/-- Short forms hold no break, so shortening brings none into a text. -/
theorem shorten_no_break {room : Nat} {cs short : List Char} (hcs : ∀ c ∈ cs, isBreakChar c = false)
    (h : shorten room cs = .ok short) : ∀ c ∈ short, isBreakChar c = false := by
  have hforms : ∀ p ∈ shortForms, p.2.toList.all (!isBreakChar ·) = true := by decide
  have hleads : ∀ lead ∈ leads, ((shortForm? lead.dropLast).getD lead.dropLast).all (!isBreakChar ·) = true := by
    decide
  induction room generalizing cs short with
  | zero => simp [shorten] at h
  | succ room ih =>
    rw [shorten] at h
    split at h
    · rename_i word hword
      obtain ⟨p, hp, rfl⟩ := Option.map_eq_some_iff.1 hword
      rw [← Except.ok.inj h]
      simpa using hforms p (List.mem_of_find?_eq_some hp)
    · split at h
      · rename_i head rest hsplit
        obtain ⟨lead, hlead, heq⟩ := Option.map_eq_some_iff.1 hsplit
        obtain ⟨rfl, rfl⟩ := Prod.mk.inj heq
        obtain ⟨tail, htail, rfl⟩ := exists_of_map_eq_ok h
        intro c hc
        rcases List.mem_append.1 hc with hc | hc
        · have hall := List.all_eq_true.1 (hleads lead (List.mem_of_find?_eq_some hlead)) c hc
          simpa using hall
        · rcases List.mem_cons.1 hc with rfl | hc
          · rfl
          · exact ih (fun d hd => hcs d (List.mem_of_mem_drop hd)) htail c hc
      · exact Except.ok.inj h ▸ hcs

theorem display_no_break {short : Bool} {cs shown : List Char} (hcs : ∀ c ∈ cs, isBreakChar c = false)
    (h : display short cs = .ok shown) : ∀ c ∈ shown, isBreakChar c = false := by
  rw [display] at h
  split at h
  · exact shorten_no_break hcs h
  · exact Except.ok.inj h ▸ hcs

end AccessLabel

end Rule

/-- What a marker promises about the line it stands for. -/
structure Marker.WellFormed (mode : Mode) (flags : Flags) (line : List Char) (m : Marker) : Prop where
  enabled : flags.get m.kind.flag = true
  accessMode : m.kind = .accessSpecifier → mode = .clike
  shown : ∃ c ∈ m.name, isBlank c = false
  length_le : m.name.length ≤ 20
  no_break : '\r' ∉ m.name ∧ '\n' ∉ m.name
  inLine : ¬(m.kind = .accessSpecifier ∧ flags.shortenAccessSpecifiers = true) → m.name <:+: line
  isWord : m.kind = .type ∨ m.kind = .function → m.name ≠ [] ∧ ∀ c ∈ m.name, isWord c = true
  not_keyword : m.kind = .function → ∀ w ∈ Rule.keywords, lower m.name ≠ w.toList

/-! ## What each shape keeps of these promises -/

section Reads

variable {s : Shape} {flags : Flags} {cs w : List Char}

theorem Shape.Reads.inText (h : s.Reads flags cs w)
    (hs : ¬(s.kind = .accessSpecifier ∧ flags.shortenAccessSpecifiers = true)) : w <:+: cs := by
  cases s with
  | banner => exact h
  | cppType | csharpType => exact h.inText
  | cppFunction | csharpFunction => exact h.1.inText
  | accessLabel =>
    obtain ⟨specifier, hspec, hshown⟩ := h
    rw [Rule.AccessLabel.display, if_neg fun hshort => hs ⟨rfl, hshort⟩] at hshown
    exact Except.ok.inj hshown ▸ Rule.AccessLabel.infix_of_specifier? hspec

theorem Shape.Reads.no_break (h : s.Reads flags cs w) (hcs : ∀ c ∈ cs, isBreakChar c = false) :
    ∀ c ∈ w, isBreakChar c = false := by
  by_cases hs : s.kind = .accessSpecifier ∧ flags.shortenAccessSpecifiers = true
  · cases s with
    | accessLabel =>
      obtain ⟨specifier, hspec, hshown⟩ := h
      refine Rule.AccessLabel.display_no_break (fun c hc => ?_) hshown
      exact hcs c ((Rule.AccessLabel.infix_of_specifier? hspec).subset hc)
    | _ => exact absurd hs.1 (by decide)
  · exact fun c hc => hcs c ((h.inText hs).subset hc)

theorem Shape.Reads.wordIn (h : s.Reads flags cs w) (hs : s.kind = .type ∨ s.kind = .function) :
    Rule.WordIn w cs := by
  cases s with
  | cppType | csharpType => exact h
  | cppFunction | csharpFunction => exact h.1
  | banner | accessLabel => exact absurd hs (by decide)

theorem Shape.Reads.isKeyword (h : s.Reads flags cs w) (hs : s.kind = .function) :
    Rule.isKeyword w = false := by
  cases s with
  | cppFunction | csharpFunction => exact h.2
  | _ => exact absurd hs (by decide)

end Reads

theorem Mode.clike_of_label {mode : Mode} {s : Shape} (hs : s ∈ mode.chain)
    (hkind : s.kind = .accessSpecifier) : mode = .clike := by
  have hsupports : s.supports mode = true := (List.mem_filter.1 hs).2
  cases s with
  | accessLabel => exact eq_of_beq hsupports
  | _ => exact absurd hkind (by decide)

theorem classify_wellFormed {mode : Mode} {flags : Flags} {line : List Char} {m : Marker}
    (hline : ∀ c ∈ line, isBreakChar c = false) (h : classify mode flags line = .ok (some m)) :
    m.WellFormed mode flags line := by
  obtain ⟨s, hs, hon, name, hfind, hmarker⟩ := exists_of_firstFit h
  obtain ⟨w, hw, rfl⟩ := Shape.exists_of_find hfind
  have htext : trimStart line <:+: line := (isSuffix_stripStart _ line).isInfix
  have hcut := Rule.isPrefix_truncate w
  rw [markerOf] at hmarker
  split at hmarker
  · simp at hmarker
  rename_i hshown
  obtain rfl := Option.some.inj hmarker
  have hbreak : ∀ c ∈ Rule.truncate w, isBreakChar c = false := fun c hc =>
    hw.no_break (fun d hd => hline d (htext.subset hd)) c (hcut.subset hc)
  exact {
    enabled := s.flag_kind ▸ hon
    accessMode := Mode.clike_of_label hs
    shown := exists_not_blank_of_trim (Bool.eq_false_iff.2 hshown)
    length_le := Rule.length_truncate_le w
    no_break := ⟨fun hc => Bool.noConfusion (hbreak _ hc), fun hc => Bool.noConfusion (hbreak _ hc)⟩
    inLine := fun hlabel => hcut.isInfix.trans ((hw.inText hlabel).trans htext)
    isWord := fun hkind => ⟨(hw.wordIn hkind).truncate.ne_nil, (hw.wordIn hkind).truncate.isWord⟩
    not_keyword := by
      intro hkind k hk heq
      have hfree := Rule.isKeyword_truncate (hw.isKeyword hkind)
      rw [Rule.isKeyword, isAny, List.any_eq_false] at hfree
      exact hfree k hk (beq_iff_eq.2 heq.symm) }

theorem lineAt_no_break (text : List Char) (p : Nat) : ∀ c ∈ lineAt text p, isBreakChar c = false := by
  intro c hc
  simpa using List.mem_takeWhile_imp hc

/-- **Every marker of a scan is well formed** for the line at its offset. -/
theorem scan_wellFormed (mode : Mode) (flags : Flags) (text : List Char) {m : Marker}
    (hm : m ∈ scan mode flags text) :
    ∃ p ∈ lineStarts text, m.offset = p ∧ m.line = 1 + linesBefore text p ∧
      m.WellFormed mode flags (lineAt text p) := by
  rw [scan_eq_filterMap, linesAt, List.mem_filterMap] at hm
  obtain ⟨l, hl, hmark⟩ := hm
  obtain ⟨p, hp, rfl⟩ := List.mem_map.1 hl
  obtain ⟨found, hfound, rfl⟩ := Option.map_eq_some_iff.1 hmark
  have hform := classify_wellFormed (lineAt_no_break text p) (classify_of_marked? hfound)
  exact ⟨p, hp, Int.zero_add _, rfl, { hform with }⟩

/-- A method behind a scope and a blank margin, with a name that is cut. -/
theorem scan_wellFormed_method :
    ⟨.function, "recomputeEverythingN".toList, 8, 2⟩ ∈
        scan .clike {} "int a;\r\n  void Widget::recomputeEverythingNow() const \x7b".toList ∧
      ∃ p ∈ lineStarts "int a;\r\n  void Widget::recomputeEverythingNow() const \x7b".toList,
        (8 : Int) = p ∧ (2 : Int) =
          1 + linesBefore "int a;\r\n  void Widget::recomputeEverythingNow() const \x7b".toList p ∧
        Marker.WellFormed .clike {}
          (lineAt "int a;\r\n  void Widget::recomputeEverythingNow() const \x7b".toList p)
          ⟨.function, "recomputeEverythingN".toList, 8, 2⟩ := by
  have hm : ⟨.function, "recomputeEverythingN".toList, 8, 2⟩ ∈
      scan .clike {} "int a;\r\n  void Widget::recomputeEverythingNow() const \x7b".toList := by
    rw [scan_eq_filterMap]
    decide
  exact ⟨hm, scan_wellFormed .clike {} _ hm⟩

end Landmarks
