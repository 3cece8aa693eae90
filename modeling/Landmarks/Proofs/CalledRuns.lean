import Landmarks.Proofs.CsharpFunctionHeads

/-!
# The word before the parenthesis

The word right before the parameters of a method is its name. The row of modifiers that the pattern takes off
a line needs no white space behind it, so of a line that begins with that word only a part of it may be shown.

* `calledRun`, `calledLead` : the word before the first parenthesis, and what stands before the word.
* `Cut.called_eq` : a line is cut around that word.
* `ModifierCuts` : nothing stands before the word, and it goes on behind a modifier.
* `Unmodified.take_eq_iff` : without its modifiers a word looks the same only if it has none.
* `findCsharp_shows_run_iff` : the word is shown unless a modifier is cut off it.
-/

namespace Landmarks.Rule.FunctionHead

open Text

/-! ## The word that is called -/

/-- What stands before the first parenthesis, without the blanks right before it. -/
def beforeParen (t : List Char) : List Char := stripEnd isBlank (t.takeWhile (· != '('))

/-- The longest run of word characters before the first parenthesis and its blanks. -/
def calledRun (t : List Char) : List Char := (beforeParen t).rtakeWhile isWord

/-- What stands before that run. -/
def calledLead (t : List Char) : List Char := stripEnd isWord (beforeParen t)

section Cut

variable {t before word gap params after : List Char}

theorem Cut.beforeParen_eq (h : Cut t before word gap params after) : beforeParen t = before ++ word := by
  rw [beforeParen, h.text_eq, takeWhile_bne_append h.open_notMem, stripEnd_append_run _ h.gap_blank,
    stripEnd_eq_self h.endsOutside_blank]

theorem Cut.called_eq (h : Cut t before word gap params after) (hbefore : EndsOutside isWord before) :
    calledLead t = before ∧ calledRun t = word := by
  have hcut : calledLead t ++ calledRun t = before ++ word := by
    rw [← h.beforeParen_eq]
    exact List.rdropWhile_append_rtakeWhile
  exact append_run_inj hcut (endsOutside_stripEnd _ _) (fun c hc => List.mem_rtakeWhile_imp hc) hbefore h.name_word

end Cut

/-- Nothing but blanks stands before the called word, and it goes on behind a modifier. -/
def ModifierCuts (t : List Char) : Prop :=
  (∀ c ∈ calledLead t, isBlank c = true) ∧ ∃ m ∈ csharpModifiers, m <+: calledRun t ∧ m ≠ calledRun t

/-! ## Words and their modifiers -/

theorem length_modifier_lt {m : List Char} (hm : m ∈ csharpModifiers) : m.length < 20 := by
  revert m
  decide

section Unmodified

variable {word name : List Char}

theorem Unmodified.eq_iff (h : Unmodified word name) :
    name = word ↔ ¬∃ m ∈ csharpModifiers, m <+: word ∧ m ≠ word := by
  obtain ⟨row, hrow, rfl, hne, hlongest⟩ := h
  constructor
  · rintro heq ⟨m, hm, ⟨v, hv⟩, hproper⟩
    have hrest : v ≠ [] := by
      rintro rfl
      exact hproper (by simpa using hv)
    -- the modifier is a longer row than none
    have hle := hlongest [m] v (by simpa using hm) (by simpa using hv.symm) hrest
    have hnil : row.flatten = [] := by simpa using heq
    have hpos := List.length_pos_of_ne_nil (modifier_word hm).1
    simp only [List.flatten_singleton, hnil, List.length_nil] at hle
    omega
  · intro hnone
    cases row with
    | nil => rfl
    | cons m row =>
      refine absurd ⟨m, hrow m List.mem_cons_self, ?_, ?_⟩ hnone
      · simp
      · intro heq
        have hlen := congrArg List.length heq
        have hpos := List.length_pos_of_ne_nil hne
        simp only [List.flatten_cons, List.length_append] at hlen
        omega

/-- A word that is cut shows by its first characters: they are not those of a modifier any more. -/
theorem Unmodified.take_eq_iff (h : Unmodified word name) : name.take 20 = word.take 20 ↔ name = word := by
  refine ⟨fun htake => ?_, fun heq => by rw [heq]⟩
  obtain ⟨row, hrow, rfl, hne, hlongest⟩ := h
  cases row with
  | nil => rfl
  | cons m row =>
    obtain ⟨hm, hrow⟩ := List.forall_mem_cons.1 hrow
    have hpos := List.length_pos_of_ne_nil (modifier_word hm).1
    have hlt := length_modifier_lt hm
    have hlen := congrArg List.length htake
    simp only [List.flatten_cons, List.length_take, List.length_append] at hlen
    -- a name so long would begin with the modifier too, and could be cut further
    have hpre : m <+: name := by
      have hword : m <+: ((m :: row).flatten ++ name).take 20 := by
        rw [List.prefix_take_iff]
        exact ⟨by simp, by omega⟩
      rw [← htake] at hword
      exact hword.trans (List.take_prefix 20 name)
    obtain ⟨v, rfl⟩ := hpre
    have hv : v ≠ [] := by
      rintro rfl
      simp only [List.length_append, List.length_nil] at hlen
      omega
    have hmore : ∀ m' ∈ m :: row ++ [m], m' ∈ csharpModifiers :=
      List.forall_mem_append.2 ⟨List.forall_mem_cons.2 ⟨hm, hrow⟩, List.forall_mem_singleton.2 hm⟩
    have hle := hlongest (m :: row ++ [m]) v hmore (by simp) hv
    simp only [List.flatten_append, List.flatten_cons, List.flatten_nil, List.length_append, List.length_nil] at hle
    omega

end Unmodified

/-- **Whole names of methods**: the first 20 characters of the word before the parenthesis are shown, except
where nothing stands before that word and it goes on behind a modifier. -/
theorem findCsharp_shows_run_iff {t shown : List Char} (h : findCsharp t = some shown) :
    shown = (calledRun t).take 20 ↔ ¬ModifierCuts t := by
  rw [findCsharp_eq_findMethod] at h
  obtain ⟨name, hdefines, rfl⟩ := findMethod_eq_some_iff.1 h
  obtain ⟨before, word, gap, params, after, hcut, hlead, -, hshows⟩ := hdefines.cut
  obtain ⟨hbefore, hrun⟩ := hcut.called_eq hlead.endsOutside
  rw [ModifierCuts, hbefore, hrun]
  by_cases hblank : ∀ c ∈ before, isBlank c = true
  · have hname := hshows.1 hblank
    rw [hname.take_eq_iff, hname.eq_iff, and_iff_right hblank]
  · have hsome : ∃ c ∈ before, isBlank c = false := by simpa using hblank
    rw [hshows.2 hsome]
    exact iff_of_true rfl fun hcuts => hblank hcuts.1

/-- Behind modifiers with white space between them the name is whole. -/
theorem findCsharp_shows_run_spaced :
    let t := "public async Task<int> publicKey(string s) \x7b".toList
    findCsharp t = some "publicKey".toList ∧ "publicKey".toList = (calledRun t).take 20 ∧ ¬ModifierCuts t := by
  intro t
  have hfind : findCsharp t = some "publicKey".toList := by decide +kernel
  have hrun : "publicKey".toList = (calledRun t).take 20 := by decide
  exact ⟨hfind, hrun, (findCsharp_shows_run_iff hfind).1 hrun⟩

/-- Not every name that is shown is that of the word before the parenthesis. -/
theorem findCsharp_cuts_name :
    ¬∀ t shown : List Char, findCsharp t = some shown → shown = (calledRun t).take 20 := by
  intro h
  have hrun := h "publicKey() \x7b".toList "Key".toList (by decide +kernel)
  exact absurd hrun (by decide)

end Landmarks.Rule.FunctionHead
