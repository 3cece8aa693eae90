import Landmarks.Proofs.Languages
import Landmarks.Proofs.Shapes

/-!
# Types of C#

The pattern of a declaration asks for white space behind every word it knows, so what it finds can be said of
the words of the line alone.

* `word_many1_append` : a word with white space behind it is found only as the whole first word.
* `declaredIn` : the name that the words of a line declare.
* `csharpDeclared_eq_declaredIn` : the pattern finds that name.
* `findCsharp_eq` : so does the rule, since the words of a blank line or a comment declare none.
-/

namespace Landmarks.Rule.TypeHead

open Text

/-! ## The first word of a line -/

section FirstWord

variable {α : Type} {k s : List Char}

/-- A word with white space behind it is found only as the whole first word of a text. -/
theorem word_many1_append {w : List Char} (hw : ∀ c ∈ w, isBlank c = false) (hk : ∀ c ∈ k, isBlank c = false)
    (hs : StartsOutside (!isBlank ·) s) (next : Next α) :
    word w (many1 isBlank next) (k ++ s) = if w = k then many1 isBlank next s else none := by
  by_cases hpre : w <+: k ++ s
  · obtain ⟨d, rfl⟩ := isPrefix_of_append (p := (!isBlank ·)) (by simpa using hw) hs hpre
    rw [List.append_assoc, word_append]
    cases d with
    | nil => simp
    | cons c d =>
      rw [List.cons_append, many1, one_cons_of_not _ (hk c (by simp)), if_neg (by simp)]
  · have hne : w ≠ k := by
      rintro rfl
      exact hpre (List.prefix_append w s)
    rw [if_neg hne]
    exact word_of_not_prefix hpre _

/-- Of several words the first word of a text is found, if it is among them. -/
theorem findSome?_word_append {ws : List (List Char)} (hws : ∀ w ∈ ws, ∀ c ∈ w, isBlank c = false)
    (hk : ∀ c ∈ k, isBlank c = false) (hs : StartsOutside (!isBlank ·) s) (next : Next α) :
    (ws.findSome? fun w => word w (many1 isBlank next) (k ++ s)) =
      if k ∈ ws then many1 isBlank next s else none := by
  have hword : ∀ w ∈ ws, word w (many1 isBlank next) (k ++ s) = if w = k then many1 isBlank next s else none :=
    fun w hw => word_many1_append (hws w hw) hk hs next
  split
  · rename_i hmem
    rw [findSome?_of_unique hmem fun w hw hne => by rw [hword w hw, if_neg hne], hword k hmem, if_pos rfl]
  · rename_i hmem
    rw [List.findSome?_eq_none_iff]
    intro w hw
    rw [hword w hw, if_neg]
    rintro rfl
    exact hmem hw

/-- Behind white space, what refuses white space is asked of the rest of the text. -/
theorem many1_blank_eq {next : Next α} (hnil : next [] = none)
    (hblank : ∀ c cs, isBlank c = true → next (c :: cs) = none)
    (hs : StartsOutside (!isBlank ·) s) : many1 isBlank next s = next (trimStart s) := by
  cases s with
  | nil => rw [trimStart_nil, hnil]; rfl
  | cons c s =>
    have hc : isBlank c = true := by simpa using hs c rfl
    have hgap : (c :: s).takeWhile isBlank ∈ runs1 isBlank := by
      rw [List.takeWhile_cons_of_pos hc]
      exact cons_mem_runs1 hc fun d hd => List.mem_takeWhile_imp hd
    conv_lhs => rw [← takeWhile_append_trimStart (c :: s)]
    exact many1_eq_of_refuses hblank hgap (startsOutside_trimStart _)

end FirstWord

/-! ## The words of a declaration -/

/-- The word characters that a word begins with. -/
def leadingName (k : List Char) : Option (List Char) :=
  if k.takeWhile isWord = [] then none else some (k.takeWhile isWord)

theorem grab_eq_leadingName (u : List Char) : grab isWord (fun name _ => some name) u = leadingName u :=
  grab_some (fun name => name) u

/-- What the first word of a text begins with is what the text begins with. -/
theorem leadingName_eq {u : List Char} (hu : StartsOutside isBlank u) :
    leadingName u = (words u).head?.bind leadingName := by
  by_cases hne : u = []
  · subst hne
    rfl
  · obtain ⟨k, s, rfl, hk, hblank, hs⟩ := exists_first_word hne hu
    have hstop : s.takeWhile isWord = [] := by
      cases s with
      | nil => rfl
      | cons c s =>
        have hc : isBlank c = true := by simpa using hs c rfl
        rw [List.takeWhile_cons_of_neg (by simp [isWord_of_isBlank hc])]
    have htake : (k ++ s).takeWhile isWord = k.takeWhile isWord := by
      rw [List.takeWhile_append, hstop, List.append_nil]
      split
      · rename_i hall
        exact ((List.takeWhile_prefix isWord).eq_of_length hall).symm
      · rfl
    rw [words_run_append hk hblank hs, List.head?_cons, Option.bind_some, leadingName, leadingName, htake]

/-- The name that some words declare: what the word behind the modifiers and the keyword begins with. -/
def declaredIn : List (List Char) → Option (List Char)
  | [] => none
  | k :: ks =>
    if k ∈ csharpModifiers then declaredIn ks
    else if k ∈ csharpKeywords then ks.head?.bind leadingName
    else none

/-- The words that the pattern knows. -/
def knownWords : List (List Char) := csharpModifiers ++ csharpKeywords

theorem known_word {w : List Char} (hw : w ∈ knownWords) : w ≠ [] ∧ ∀ c ∈ w, isBlank c = false := by
  have hall : ∀ w ∈ knownWords, w ≠ [] ∧ w.all (!isBlank ·) = true := by decide
  obtain ⟨hne, hblank⟩ := hall w hw
  exact ⟨hne, fun c hc => by simpa using List.all_eq_true.1 hblank c hc⟩

theorem not_keyword_of_modifier {k : List Char} (hk : k ∈ csharpModifiers) : k ∉ csharpKeywords := by
  revert k
  decide

/-- The keyword of a declaration, and the name behind it. -/
def declaredName : Next (List Char) :=
  anyOf csharpKeywords <| many1 isBlank <| grab isWord fun name _ => some name

/-- The modifiers of a declaration, and what they stand before. -/
def modified : Next (List Char) := manyOf csharpModifiers (many1 isBlank) declaredName

theorem csharpDeclared_eq : csharpDeclared = many isBlank modified := rfl

theorem modified_nil : modified [] = none := by
  rw [modified, manyOf]
  rfl

section Refuses

variable {c : Char} (hc : isBlank c = true) (cs : List Char)

include hc

theorem head_of_known {w : List Char} (hw : w ∈ knownWords) : w ≠ [] ∧ w.head? ≠ some c := by
  obtain ⟨hne, hblank⟩ := known_word hw
  refine ⟨hne, fun hhead => ?_⟩
  rw [hblank c (List.mem_of_mem_head? hhead)] at hc
  exact Bool.noConfusion hc

theorem modified_blank : modified (c :: cs) = none := by
  have hmodifiers : ∀ w ∈ csharpModifiers, w ≠ [] ∧ w.head? ≠ some c := fun w hw =>
    head_of_known hc (List.mem_append_left _ hw)
  have hkeywords : ∀ w ∈ csharpKeywords, w ≠ [] ∧ w.head? ≠ some c := fun w hw =>
    head_of_known hc (List.mem_append_right _ hw)
  rw [modified, manyOf_cons_of_head_ne cs hmodifiers, declaredName, anyOf_cons_of_head_ne cs hkeywords]

end Refuses

/-! ## The pattern and the words of a line -/

theorem length_trimStart_lt {k : List Char} (hk : k ≠ []) (s : List Char) :
    (trimStart s).length < (k ++ s).length := by
  have hle := (isSuffix_stripStart isBlank s).length_le
  have hpos := List.length_pos_of_ne_nil hk
  rw [trimStart, List.length_append]
  omega

section Append

variable {k s : List Char} (hk : ∀ c ∈ k, isBlank c = false) (hs : StartsOutside (!isBlank ·) s)

include hk hs

theorem declaredName_append :
    declaredName (k ++ s) = if k ∈ csharpKeywords then leadingName (trimStart s) else none := by
  have hws : ∀ w ∈ csharpKeywords, ∀ c ∈ w, isBlank c = false := fun w hw =>
    (known_word (List.mem_append_right _ hw)).2
  have hgrab : ∀ c cs, isBlank c = true → grab isWord (fun name _ => some name) (c :: cs) = none :=
    fun c cs hc => grab_cons_of_not cs (isWord_of_isBlank hc) _
  rw [declaredName, anyOf, findSome?_word_append hws hk hs, many1_blank_eq rfl hgrab hs, grab_eq_leadingName]

theorem modified_append (hne : k ≠ []) :
    modified (k ++ s) = if k ∈ csharpModifiers then modified (trimStart s) else declaredName (k ++ s) := by
  have hws : ∀ w ∈ csharpModifiers, ∀ c ∈ w, isBlank c = false := fun w hw =>
    (known_word (List.mem_append_left _ hw)).2
  have hlt := length_trimStart_lt hne s
  rw [modified, manyOf, findSome?_word_append hws hk hs, many1_blank_eq _ _ hs, dif_pos hlt]
  · split
    · rename_i hmodifier
      rw [declaredName_append hk hs, if_neg (not_keyword_of_modifier hmodifier)]
      cases manyOf csharpModifiers (many1 isBlank) declaredName (trimStart s) <;> rfl
    · rfl
  · split
    · exact modified_nil
    · rfl
  · intro c cs hc
    split
    · exact modified_blank hc cs
    · rfl

end Append

theorem modified_eq_declaredIn {u : List Char} (hu : StartsOutside isBlank u) :
    modified u = declaredIn (words u) := by
  -- The words of a text get fewer as its modifiers are read.
  induction hn : u.length using Nat.strongRecOn generalizing u with
  | ind n ih =>
    by_cases hne : u = []
    · subst hne
      exact modified_nil
    · obtain ⟨k, s, rfl, hk, hblank, hs⟩ := exists_first_word hne hu
      have hlt : (trimStart s).length < n := by
        rw [← hn]
        exact length_trimStart_lt hk s
      have hrest := startsOutside_trimStart s
      rw [modified_append hblank hs hk, declaredName_append hblank hs, words_run_append hk hblank hs, declaredIn,
        ih _ hlt hrest rfl, leadingName_eq hrest, words_trimStart]

/-- What the pattern of a declaration finds in a line is said by the words of the line. -/
theorem csharpDeclared_eq_declaredIn (cs : List Char) : csharpDeclared cs = declaredIn (words cs) := by
  have hrest := startsOutside_trimStart cs
  have hskip : many isBlank modified (cs.takeWhile isBlank ++ trimStart cs) = modified (trimStart cs) :=
    many_eq_of_refuses (fun c cs hc => modified_blank hc cs) (fun c hc => List.mem_takeWhile_imp hc) hrest
  rw [takeWhile_append_trimStart] at hskip
  rw [csharpDeclared_eq, hskip, modified_eq_declaredIn hrest, words_trimStart]

theorem declaredIn_of_isBlankOrComment {t : List Char} (h : isBlankOrComment t = true) :
    declaredIn (words t) = none := by
  rw [isBlankOrComment, Bool.or_eq_true] at h
  rcases h with hblank | hcomment
  · have hall : ∀ c ∈ t, isBlank c = true := by
      intro c hc
      by_contra hnot
      rw [trim_isEmpty_eq_false_iff.2 ⟨c, hc, Bool.not_eq_true _ ▸ hnot⟩] at hblank
      exact Bool.noConfusion hblank
    rw [words_of_blank hall, declaredIn]
  · -- a comment begins with a slash, and no word of the pattern does
    obtain ⟨rest, hrest⟩ := List.isPrefixOf_iff_prefix.1 hcomment
    rw [← words_trimStart, ← csharpDeclared_eq_declaredIn, ← hrest]
    exact csharpDeclared_slash _

theorem findCsharp_eq (t : List Char) : findCsharp t = (declaredIn (words t)).map (·.take 20) := by
  rw [findCsharp, csharpDeclared_eq_declaredIn]
  split
  · rename_i hskip
    rw [declaredIn_of_isBlankOrComment hskip]
    rfl
  · rfl

end Landmarks.Rule.TypeHead
