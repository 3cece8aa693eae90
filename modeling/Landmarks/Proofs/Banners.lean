import Landmarks.Proofs.WellFormed

/-!
# Titles of banners

The title of a banner is found by two cuts: comment marks go from the front, and then decoration from both ends.
The stars and blanks belong to both classes, so the first cut may take away part of the decoration.

* `Lead` : what stands between the start of a comment and the title.
* `find_surround` : both cuts together stop at the ends of the title.
* `classify_banner` : the title comes back from every banner built around it.
* `classify_closed_banner` : the end of a comment is no decoration, and is shown with the title.
-/

namespace Landmarks

open Text

namespace Rule.Banner

/-! ## The parts of a banner -/

/-- What decoration is made of. -/
def ornaments : List Char := ['=', '-', '#', '*', ' ', '\t']

/-- Blanks, then decoration that begins with two of a kind. -/
structure Lead (gap d : List Char) : Prop where
  gap : ∀ c ∈ gap, c = ' ' ∨ c = '\t'
  decoration : ∀ c ∈ d, c ∈ ornaments
  pair : ∃ c ∈ ['=', '-', '#', '*'], [c, c] <+: d

/-- A text that begins as titles do: not with white space, a slash or decoration. -/
def Begins (t : List Char) : Prop :=
  ∃ c rest, t = c :: rest ∧ isBlank c = false ∧ c ∉ ['/', '=', '-', '#', '*']

theorem isDecoration_iff {c : Char} : isDecoration c = true ↔ c ∈ ornaments := by
  simp [isDecoration, ornaments, or_assoc]

theorem isCommentMark_iff {c : Char} : isCommentMark c = true ↔ c ∈ ['/', '*', ' ', '\t'] := by
  simp [isCommentMark, or_assoc]

theorem Begins.startsOutside {t : List Char} (ht : Begins t) (rest : List Char) :
    StartsOutside isCommentMark (t ++ rest) ∧ StartsOutside isDecoration (t ++ rest) := by
  obtain ⟨c, t, rfl, hblank, hc⟩ := ht
  have hspace : c ≠ ' ' := by rintro rfl; exact absurd hblank (by decide)
  have htab : c ≠ '\t' := by rintro rfl; exact absurd hblank (by decide)
  simp only [List.mem_cons, List.not_mem_nil, or_false, not_or] at hc
  refine ⟨startsOutside_cons ?_ _, startsOutside_cons ?_ _⟩
  · rw [Bool.eq_false_iff, ne_eq, isCommentMark_iff]
    simp [hc, hspace, htab]
  · rw [Bool.eq_false_iff, ne_eq, isDecoration_iff]
    simp [ornaments, hc, hspace, htab]

theorem Begins.append {t : List Char} (ht : Begins t) (rest : List Char) : Begins (t ++ rest) := by
  obtain ⟨c, t, rfl, hc⟩ := ht
  exact ⟨c, t ++ rest, rfl, hc⟩

theorem Begins.shown_take {t : List Char} (ht : Begins t) : Shown (t.take 20) := by
  obtain ⟨c, t, rfl, hblank, -⟩ := ht
  exact shown_cons hblank _

theorem Lead.startsWithAny_trim {gap d : List Char} (h : Lead gap d) (rest : List Char) :
    startsWithAny decorations (trim (gap ++ (d ++ rest))) = true := by
  obtain ⟨c, hc, d, rfl⟩ := h.pair
  obtain ⟨hblank, hmem⟩ : isBlank c = false ∧ String.ofList [c, c] ∈ decorations := by
    simp only [List.mem_cons, List.not_mem_nil, or_false] at hc
    rcases hc with rfl | rfl | rfl | rfl <;> exact ⟨rfl, by decide⟩
  have htrim : trimStart (gap ++ ([c, c] ++ d ++ rest)) = [c, c] ++ (d ++ rest) := by
    rw [List.append_assoc]
    exact trimStart_append (isBlank_of_padding h.gap) (startsOutside_cons hblank _)
  have hpre : [c, c] <+: trim (gap ++ ([c, c] ++ d ++ rest)) := by
    rw [trim, strip, ← trimStart, htrim]
    exact isPrefix_stripEnd_of_prefix (endsOutside_concat hblank [c]) (List.prefix_append _ _)
  refine List.any_eq_true.2 ⟨_, hmem, List.isPrefixOf_iff_prefix.2 ?_⟩
  rwa [String.toList_ofList]

section Surround

variable {opener gap d t e : List Char} (hopener : opener ∈ openers.map String.toList) (hlead : Lead gap d)

include hopener hlead

theorem isCommentMark_of_mem_append : ∀ c ∈ opener ++ gap, isCommentMark c = true := by
  have hopeners : ∀ w ∈ openers.map String.toList, w.all isCommentMark = true := by decide
  exact List.forall_mem_append.2
    ⟨List.all_eq_true.1 (hopeners opener hopener), run_of_padding rfl rfl hlead.gap⟩

/-- The first cut leaves some of the decoration before the title, and the second one takes it. -/
theorem title_surround (ht : Begins t) (hend : EndsOutside isDecoration t) (he : ∀ c ∈ e, isDecoration c = true) :
    title (opener ++ gap ++ (d ++ (t ++ e))) = t.take 20 := by
  have hfront : stripStart isCommentMark (opener ++ gap ++ (d ++ (t ++ e))) =
      stripStart isCommentMark d ++ t ++ e := by
    rw [stripStart, List.dropWhile_append_of_pos (isCommentMark_of_mem_append hopener hlead), ← stripStart,
      stripStart_append_outside d (ht.startsOutside e).1, List.append_assoc]
  have hleft : ∀ c ∈ stripStart isCommentMark d, isDecoration c = true := fun c hc =>
    isDecoration_iff.2 (hlead.decoration c ((isSuffix_stripStart _ d).subset hc))
  have hstart : StartsOutside isDecoration t := by
    simpa using (ht.startsOutside []).2
  rw [title, hfront, strip_surround hleft hstart hend he]
  rfl

theorem find_surround (ht : Begins t) (hend : EndsOutside isDecoration t) (he : ∀ c ∈ e, isDecoration c = true) :
    find (opener ++ gap ++ (d ++ (t ++ e))) = some (t.take 20) := by
  have hopen : startsWithAny openers (opener ++ gap ++ (d ++ (t ++ e))) = true := by
    obtain ⟨w, hw, rfl⟩ := List.mem_map.1 hopener
    refine List.any_eq_true.2 ⟨w, hw, List.isPrefixOf_iff_prefix.2 ?_⟩
    rw [List.append_assoc]
    exact List.prefix_append _ _
  have hdrop : (opener ++ gap ++ (d ++ (t ++ e))).drop 2 = gap ++ (d ++ (t ++ e)) := by
    have hlength : ∀ w ∈ openers.map String.toList, w.length = 2 := by decide
    rw [List.append_assoc, ← hlength opener hopener, List.drop_left]
  rw [find, hopen, hdrop, hlead.startsWithAny_trim, title_surround hopener hlead ht hend he]
  rfl

end Surround

end Rule.Banner

/-! ## Lines that are banners -/

open Rule.Banner (Lead Begins ornaments isDecoration isDecoration_iff find_surround)

theorem take_append_eq_left_iff {t u : List Char} (hu : u ≠ []) {n : Nat} : (t ++ u).take n = t ↔ t.length = n := by
  have hpos := List.length_pos_of_ne_nil hu
  constructor
  · intro h
    have hlen := congrArg List.length h
    rw [List.length_take, List.length_append] at hlen
    omega
  · rintro rfl
    exact List.take_left

theorem classify_of_banner (mode : Mode) {flags : Flags} (hon : flags.headers = true) {w line name : List Char}
    (hw : ∀ c ∈ w, isBlank c = true) (hfind : Rule.Banner.find line = some name) (hname : Rule.Shown name) :
    classify mode flags (w ++ line) = .ok (some { kind := .header, name }) := by
  obtain ⟨rest, rfl⟩ := Rule.Banner.exists_slash hfind
  have htrim : trimStart (w ++ '/' :: rest) = '/' :: rest := trimStart_append hw (startsOutside_cons (by decide) rest)
  have hchain : mode.chain = .banner :: mode.chain.tail := by cases mode <;> rfl
  have hbanner : Shape.banner.find flags ('/' :: rest) = .ok (some name) := congrArg Except.ok hfind
  rw [classify, classifyWith, htrim, Mode.rules, hchain, List.map_cons,
    firstFit_cons_some (r := Shape.banner.toRule) _ hon hbanner]
  exact congrArg Except.ok (hname.markerOf _)

/-- **Titles come back**: what a banner is built around is shown, cut to 20 characters. -/
theorem classify_banner (mode : Mode) {flags : Flags} (hon : flags.headers = true)
    {w opener gap d t e : List Char} (hw : ∀ c ∈ w, isBlank c = true)
    (hopener : opener = "//".toList ∨ opener = "/*".toList) (hlead : Lead gap d)
    (ht : Begins t) (hend : ∀ c ∈ t.getLast?, c ∉ ornaments)
    (he : ∀ c ∈ e, c ∈ ornaments) :
    classify mode flags (w ++ opener ++ gap ++ d ++ t ++ e) = .ok (some { kind := .header, name := t.take 20 }) := by
  have hends : EndsOutside isDecoration t := fun c hc => by
    rw [Bool.eq_false_iff, ne_eq, isDecoration_iff]
    exact hend c hc
  have hfind := find_surround (List.mem_pair.2 hopener) hlead ht hends
    fun c hc => isDecoration_iff.2 (he c hc)
  have hmarker := classify_of_banner mode hon hw hfind ht.shown_take
  simpa only [List.append_assoc] using hmarker

/-- Stars that end a comment mark and begin the decoration, and a title with both inside. -/
theorem classify_banner_starred :
    let w := "\n \t".toList
    let gap := " \t".toList
    let d := "** =- ".toList
    let t := "Load * Save / and more/".toList
    let e := " ##\t".toList
    (∀ c ∈ w, isBlank c = true) ∧ Lead gap d ∧ Begins t ∧
      (∀ c ∈ t.getLast?, c ∉ ornaments) ∧
      (∀ c ∈ e, c ∈ ornaments) ∧
      t.take 20 = "Load * Save / and mo".toList ∧
      classify .csharp {} (w ++ "/*".toList ++ gap ++ d ++ t ++ e) =
        .ok (some { kind := .header, name := t.take 20 }) := by
  intro w gap d t e
  have hw : ∀ c ∈ w, isBlank c = true := List.all_eq_true.1 rfl
  have hlead : Lead gap d := ⟨by simp [gap], by simp [d, ornaments], '*', by simp, by decide⟩
  have ht : Begins t := ⟨'L', _, rfl, rfl, by decide⟩
  have hend : ∀ c ∈ t.getLast?, c ∉ ornaments := by simp [t, ornaments]
  have he : ∀ c ∈ e, c ∈ ornaments := by simp [e, ornaments]
  exact ⟨hw, hlead, ht, hend, he, by decide, classify_banner .csharp rfl hw (Or.inr rfl) hlead ht hend he⟩

/-- **Closed banners**: the end of the comment and what stands before it are shown with the title, and the title
alone only where it leaves no room for them. -/
theorem classify_closed_banner (mode : Mode) {flags : Flags} (hon : flags.headers = true)
    {gap d t e z line : List Char} (hlead : Lead gap d) (ht : Begins t)
    (hz : ∀ c ∈ z, c = ' ' ∨ c = '\t')
    (hline : line = "/*".toList ++ gap ++ d ++ t ++ e ++ "*/".toList ++ z) :
    classify mode flags line = .ok (some { kind := .header, name := (t ++ e ++ "*/".toList).take 20 }) ∧
      (classify mode flags line = .ok (some { kind := .header, name := t }) ↔ t.length = 20) := by
  -- to the rule, all up to the slash is the title
  have htitle : Begins (t ++ e ++ "*/".toList) := (ht.append e).append _
  have hends : EndsOutside isDecoration (t ++ e ++ "*/".toList) :=
    endsOutside_append (by decide) (endsOutside_concat (by decide) ['*']) _
  have hpadding : ∀ c ∈ z, isDecoration c = true := run_of_padding rfl rfl hz
  have hopener : "/*".toList ∈ Rule.Banner.openers.map String.toList := by decide
  have hfind := find_surround hopener hlead htitle hends hpadding
  have hmarker := classify_of_banner mode hon (w := []) (by simp) hfind htitle.shown_take
  have hclassify : classify mode flags line =
      .ok (some { kind := .header, name := (t ++ e ++ "*/".toList).take 20 }) := by
    rw [hline]
    simpa only [List.append_assoc, List.nil_append] using hmarker
  refine ⟨hclassify, ?_⟩
  rw [hclassify, Except.ok.injEq, Option.some.injEq, Marker.mk.injEq, List.append_assoc, take_append_eq_left_iff (by simp)]
  simp

theorem classify_closed_banner_setup :
    let d := "== ".toList
    let t := "Setup".toList
    Lead " ".toList d ∧ Begins t ∧ (∀ c ∈ "\t".toList, c = ' ' ∨ c = '\t') ∧
      classify .clike {} "/* == Setup == */\t".toList =
        .ok (some { kind := .header, name := "Setup == */".toList }) ∧
      (classify .clike {} "/* == Setup == */\t".toList = .ok (some { kind := .header, name := t }) ↔ t.length = 20) := by
  intro d t
  have hlead : Lead " ".toList d := ⟨by simp, by simp [d, ornaments], '=', by simp, by decide⟩
  have ht : Begins t := ⟨'S', _, rfl, rfl, by decide⟩
  have hz : ∀ c ∈ "\t".toList, c = ' ' ∨ c = '\t' := by simp
  have hline : "/* == Setup == */\t".toList =
      "/*".toList ++ " ".toList ++ d ++ t ++ " == ".toList ++ "*/".toList ++ "\t".toList := by decide
  exact ⟨hlead, ht, hz, classify_closed_banner .clike rfl hlead ht hz hline⟩

/-- Not every closed banner shows just its title. -/
theorem closed_banner_shows_mark :
    ¬∀ (mode : Mode) (flags : Flags) (gap d t e z : List Char), flags.headers = true → Lead gap d →
      Begins t → t.length ≤ 20 → ¬"*/".toList <:+: t →
      (∀ c ∈ t.getLast?, c ∉ '/' :: ornaments) →
      (∀ c ∈ e, c ∈ ornaments) → (∀ c ∈ z, c = ' ' ∨ c = '\t') →
      classify mode flags ("/*".toList ++ gap ++ d ++ t ++ e ++ "*/".toList ++ z) =
        .ok (some { kind := .header, name := t }) := by
  intro h
  have hlead : Lead " ".toList "== ".toList := ⟨by simp, by simp [ornaments], '=', by simp, by decide⟩
  have ht : Begins "Setup".toList := ⟨'S', _, rfl, rfl, by decide⟩
  have hmarker := h .clike {} _ _ _ " == ".toList [] rfl hlead ht (by decide) (by decide)
    (by simp [ornaments]) (by simp [ornaments]) (by simp)
  exact absurd hmarker (by decide)

end Landmarks
