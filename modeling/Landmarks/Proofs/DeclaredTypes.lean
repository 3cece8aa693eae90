import Landmarks.Proofs.CsharpTypeHeads
import Landmarks.Proofs.WellFormed

/-!
# The types that C# lines declare

* `Declares` : some words are modifiers, a keyword, and the word that the name is taken from.
* `findCsharp_iff_words` : what the rule shows is said by the words of the line alone.
* `classify_type_iff` : no other rule stands between a declaration and its marker.
* `classify_keyword_iff` : a marker has the name of a keyword where two keywords follow each other.
-/

namespace Landmarks

open Text

namespace Rule.TypeHead

/-! ## Words that declare a type -/

/-- Modifiers, a keyword, and behind it the word `k`. -/
def Declares (ks : List (List Char)) (k : List Char) : Prop :=
  ∃ modifiers keyword rest, ks = modifiers ++ keyword :: k :: rest ∧
    (∀ m ∈ modifiers, m ∈ ["public", "private", "protected", "internal", "static", "sealed", "abstract",
      "partial"].map String.toList) ∧
    keyword ∈ ["class", "struct", "interface", "record"].map String.toList

section Declares

variable {w k : List Char} {ks : List (List Char)}

theorem not_declares_nil : ¬Declares [] k := by
  rintro ⟨modifiers, keyword, rest, heq, -⟩
  exact absurd heq (by simp)

theorem declares_cons_modifier (hw : w ∈ csharpModifiers) : Declares (w :: ks) k ↔ Declares ks k := by
  constructor
  · rintro ⟨modifiers, keyword, rest, heq, hmodifiers, hkeyword⟩
    cases modifiers with
    | nil =>
      obtain ⟨rfl, -⟩ := List.cons.inj heq
      exact absurd hkeyword (not_keyword_of_modifier hw)
    | cons m modifiers =>
      obtain ⟨-, rfl⟩ := List.cons.inj heq
      exact ⟨modifiers, keyword, rest, rfl, (List.forall_mem_cons.1 hmodifiers).2, hkeyword⟩
  · rintro ⟨modifiers, keyword, rest, rfl, hmodifiers, hkeyword⟩
    exact ⟨w :: modifiers, keyword, rest, rfl, List.forall_mem_cons.2 ⟨hw, hmodifiers⟩, hkeyword⟩

theorem declares_cons_of_not_modifier (hw : w ∉ csharpModifiers) :
    Declares (w :: ks) k ↔ w ∈ csharpKeywords ∧ ks.head? = some k := by
  constructor
  · rintro ⟨modifiers, keyword, rest, heq, hmodifiers, hkeyword⟩
    cases modifiers with
    | nil =>
      obtain ⟨rfl, rfl⟩ := List.cons.inj heq
      exact ⟨hkeyword, rfl⟩
    | cons m modifiers =>
      obtain ⟨rfl, -⟩ := List.cons.inj heq
      exact absurd (List.forall_mem_cons.1 hmodifiers).1 hw
  · rintro ⟨hkeyword, hhead⟩
    obtain ⟨rest, rfl⟩ := List.head?_eq_some_iff.1 hhead
    exact ⟨[], w, rest, rfl, by simp, hkeyword⟩

end Declares

theorem leadingName_eq_some_iff {k name : List Char} :
    leadingName k = some name ↔ (∃ c ∈ k.head?, isWord c = true) ∧ name = k.takeWhile isWord := by
  rw [leadingName, ← takeWhile_ne_nil_iff]
  split
  · rename_i hnil
    simp [hnil]
  · rename_i hne
    rw [Option.some.injEq, eq_comm, and_iff_right hne]

theorem declaredIn_eq_some_iff {ks : List (List Char)} {name : List Char} :
    declaredIn ks = some name ↔
      ∃ k, Declares ks k ∧ (∃ c ∈ k.head?, isWord c = true) ∧ name = k.takeWhile isWord := by
  simp only [← leadingName_eq_some_iff]
  induction ks with
  | nil => simp [declaredIn, not_declares_nil]
  | cons w ks ih =>
    rw [declaredIn]
    split
    · rename_i hmodifier
      simp only [declares_cons_modifier hmodifier, ih]
    · rename_i hmodifier
      simp only [declares_cons_of_not_modifier hmodifier]
      split
      · rename_i hkeyword
        simp only [hkeyword, true_and, Option.bind_eq_some_iff]
      · rename_i hkeyword
        simp [hkeyword]

/-! ## The rule and the words of a line -/

theorem findCsharp_trimStart (t : List Char) : findCsharp (trimStart t) = findCsharp t := by
  rw [findCsharp_eq, findCsharp_eq, words_trimStart]

/-- **Types by words**: behind modifiers and a keyword, the first 20 of the word characters that the next word
begins with. -/
theorem findCsharp_iff_words (t shown : List Char) :
    findCsharp t = some shown ↔ ∃ k, Declares (words t) k ∧ (∃ c ∈ k.head?, isWord c = true) ∧
      shown = (k.takeWhile isWord).take 20 := by
  rw [findCsharp_eq, Option.map_eq_some_iff]
  constructor
  · rintro ⟨name, hname, rfl⟩
    obtain ⟨k, hk, hstart, rfl⟩ := declaredIn_eq_some_iff.1 hname
    exact ⟨k, hk, hstart, rfl⟩
  · rintro ⟨k, hk, hstart, rfl⟩
    exact ⟨_, declaredIn_eq_some_iff.2 ⟨k, hk, hstart, rfl⟩, rfl⟩

theorem take_mem_keywords {w : List Char} : w.take 20 ∈ csharpKeywords ↔ w ∈ csharpKeywords := by
  have hshort : ∀ k ∈ csharpKeywords, k.length < 20 := by decide
  by_cases hlen : w.length < 20
  · rw [List.take_of_length_le hlen.le]
  · refine iff_of_false (fun hmem => ?_) (fun hmem => hlen (hshort w hmem))
    have hlt := hshort _ hmem
    rw [List.length_take] at hlt
    omega

end Rule.TypeHead

/-! ## Markers of types -/

open Rule.TypeHead

/-- A line of C# is marked as a type exactly if classes are shown and the rule for types finds a name. -/
theorem classify_type_iff {flags : Flags} {line : List Char} {m : Marker} :
    (classify .csharp flags line = .ok (some m) ∧ m.kind = .type) ↔ flags.classes = true ∧
      ∃ name, findCsharp line = some name ∧ m = { kind := .type, name } := by
  rw [← findCsharp_trimStart]
  constructor
  · rintro ⟨hm, hkind⟩
    obtain ⟨s, hs, hon, name, hname, hmarker⟩ := exists_of_firstFit hm
    have htypes : ∀ s ∈ Mode.csharp.chain, s.kind = .type → s = .csharpType := by decide
    obtain rfl := htypes s hs (kind_of_markerOf hmarker ▸ hkind)
    rw [(Shape.shown_find (by decide) hname).markerOf] at hmarker
    exact ⟨hon, name, Except.ok.inj hname, (Option.some.inj hmarker).symm⟩
  · rintro ⟨hon, name, hname, rfl⟩
    have htype : Shape.csharpType.find flags (trimStart line) = .ok (some name) := congrArg Except.ok hname
    have hbanner : Shape.banner.find flags (trimStart line) = .ok none := by
      by_contra hfits
      rw [find_eq_none_of_banner hfits (by decide)] at htype
      exact absurd htype (by simp)
    refine ⟨?_, rfl⟩
    have hchain : Mode.csharp.chain = [.banner, .csharpType, .csharpFunction] := by decide
    rw [classify, classifyWith, Mode.rules, hchain, List.map_cons, List.map_cons,
      firstFit_cons_none (r := Shape.banner.toRule) _ hbanner,
      firstFit_cons_some (r := Shape.csharpType.toRule) _ hon htype]
    exact congrArg Except.ok ((Shape.shown_find (by decide) htype).markerOf _)

/-- **Markers with the name of a keyword** stand on the lines whose first keyword is followed by another one. -/
theorem classify_keyword_iff (flags : Flags) (line : List Char) :
    (∃ m, classify .csharp flags line = .ok (some m) ∧ m.kind = .type ∧ m.name ∈ csharpKeywords) ↔
      flags.classes = true ∧ ∃ k, Declares (words line) k ∧
        k.takeWhile isWord ∈ csharpKeywords := by
  constructor
  · rintro ⟨m, hm, hkind, hkeyword⟩
    obtain ⟨hon, shown, hshown, rfl⟩ := classify_type_iff.1 ⟨hm, hkind⟩
    rw [findCsharp_eq] at hshown
    obtain ⟨name, hname, rfl⟩ := Option.map_eq_some_iff.1 hshown
    obtain ⟨k, hk, -, rfl⟩ := declaredIn_eq_some_iff.1 hname
    exact ⟨hon, k, hk, take_mem_keywords.1 hkeyword⟩
  · rintro ⟨hon, k, hk, hkeyword⟩
    have hrun : k.takeWhile isWord ≠ [] := (known_word (List.mem_append_right _ hkeyword)).1
    have hname : declaredIn (words line) = some (k.takeWhile isWord) :=
      declaredIn_eq_some_iff.2 ⟨k, hk, takeWhile_ne_nil_iff.1 hrun, rfl⟩
    have hshown : findCsharp line = some ((k.takeWhile isWord).take 20) := by
      rw [findCsharp_eq, hname, Option.map_some]
    obtain ⟨hm, hkind⟩ := classify_type_iff.2 ⟨hon, _, hshown, rfl⟩
    exact ⟨_, hm, hkind, take_mem_keywords.2 hkeyword⟩

-- the second keyword need not end at white space
example : classify .csharp {} "record struct(int X)".toList = .ok (some { kind := .type, name := "struct".toList }) := by
  decide +kernel

/-- Not every marker of a type names the type. -/
theorem classify_record_struct :
    ¬∀ (flags : Flags) (line : List Char) (m : Marker), classify .csharp flags line = .ok (some m) →
      m.kind = .type → m.name ∉ csharpKeywords := by
  intro h
  have hname := h {} "public record struct Point(int X, int Y);".toList
    { kind := .type, name := "struct".toList } (by decide +kernel) rfl
  exact hname (by decide)

end Landmarks
