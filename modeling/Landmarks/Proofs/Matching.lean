import Landmarks.Text.Backtrack

/-!
# What matchers ask

* `Consumes` : a matcher whose answer is the answer of what follows it, on some end of the text. All
  matchers without a word of their own to hand on are of this kind, and so are rows of them.
* `exists_of_grab`, `exists_of_grabLeast` : a word that is handed on stands in the text, is not empty and
  lies in its class.
* `many_cons_of_not` and the like : what a matcher does with a character it has no use for.
-/

namespace Landmarks.Text

variable {α : Type}

/-- A matcher that answers only what is answered behind it. -/
def Consumes (m : Next α → Next α) : Prop :=
  ∀ (k : Next α) (cs : List Char) (r : α), m k cs = some r → ∃ rest, rest <:+ cs ∧ k rest = some r

theorem orElse_eq_some {first second : Option α} {r : α} (h : orElse first second = some r) :
    first = some r ∨ second = some r := by
  cases first with
  | none => exact Or.inr h
  | some a => exact Or.inl h

theorem consumes_self : Consumes (α := α) fun k => k := fun _ cs _ h => ⟨cs, List.suffix_rfl, h⟩

theorem Consumes.comp {m n : Next α → Next α} (hm : Consumes m) (hn : Consumes n) :
    Consumes fun k => m (n k) := by
  intro k cs r h
  obtain ⟨mid, hmid, hnext⟩ := hm (n k) cs r h
  obtain ⟨rest, hrest, hk⟩ := hn k mid r hnext
  exact ⟨rest, hrest.trans hmid, hk⟩

theorem Consumes.or {m n : Next α → Next α} (hm : Consumes m) (hn : Consumes n) :
    Consumes fun k cs => orElse (m k cs) (n k cs) := by
  intro k cs r h
  rcases orElse_eq_some h with h | h
  · exact hm k cs r h
  · exact hn k cs r h

theorem consumes_one (p : Char → Bool) : Consumes (α := α) (one p) := by
  intro k cs r h
  cases cs with
  | nil => simp [one] at h
  | cons c cs =>
    rw [one] at h
    split at h
    · exact ⟨cs, List.suffix_cons c cs, h⟩
    · simp at h

theorem consumes_many (p : Char → Bool) : Consumes (α := α) (many p) := by
  intro k cs r h
  induction cs with
  | nil => exact ⟨[], List.suffix_rfl, h⟩
  | cons c cs ih =>
    rw [many] at h
    split at h
    · rcases orElse_eq_some h with h | h
      · obtain ⟨rest, hrest, hk⟩ := ih h
        exact ⟨rest, hrest.trans (List.suffix_cons c cs), hk⟩
      · exact ⟨c :: cs, List.suffix_rfl, h⟩
    · exact ⟨c :: cs, List.suffix_rfl, h⟩

theorem consumes_many1 (p : Char → Bool) : Consumes (α := α) (many1 p) :=
  (consumes_one p).comp (consumes_many p)

theorem consumes_word (w : List Char) : Consumes (α := α) (word w) := by
  intro k cs r h
  rw [word] at h
  split at h
  · exact ⟨cs.drop w.length, List.drop_suffix _ _, h⟩
  · simp at h

theorem consumes_optionally {m : Next α → Next α} (hm : Consumes m) : Consumes (optionally m) :=
  hm.or consumes_self

theorem consumes_anyOf (ws : List (List Char)) : Consumes (α := α) (anyOf ws) := by
  intro k cs r h
  obtain ⟨w, -, hw⟩ := List.exists_of_findSome?_eq_some h
  exact consumes_word w k cs r hw

theorem consumes_atEnd : Consumes (α := α) atEnd := by
  intro k cs r h
  unfold atEnd at h
  split at h
  · exact ⟨[], List.suffix_rfl, h⟩
  · exact ⟨['\n'], List.suffix_rfl, h⟩
  · simp at h

theorem consumes_manyOf (ws : List (List Char)) {gap : Next α → Next α} (hgap : Consumes gap) :
    Consumes (manyOf ws gap) := by
  intro k cs r h
  -- on the length of the text: a further word leaves a shorter one
  induction hn : cs.length using Nat.strongRecOn generalizing cs with
  | ind n ih =>
    subst hn
    rw [manyOf] at h
    rcases orElse_eq_some h with h | h
    · obtain ⟨w, -, hw⟩ := List.exists_of_findSome?_eq_some h
      obtain ⟨mid, hmid, hnext⟩ := (consumes_word w).comp hgap _ cs r hw
      split at hnext
      · rename_i hlt
        obtain ⟨rest, hrest, hk⟩ := ih mid.length hlt mid hnext rfl
        exact ⟨rest, hrest.trans hmid, hk⟩
      · simp at hnext
    · exact ⟨cs, List.suffix_rfl, h⟩

theorem exists_of_grab {p : Char → Bool} {k : List Char → Next α} {cs : List Char} {r : α}
    (h : grab p k cs = some r) :
    ∃ w rest, cs = w ++ rest ∧ w ≠ [] ∧ (∀ c ∈ w, p c = true) ∧ k w rest = some r := by
  induction cs generalizing k with
  | nil => simp [grab] at h
  | cons c cs ih =>
    rw [grab] at h
    split at h
    · rename_i hc
      rcases orElse_eq_some h with h | h
      · obtain ⟨w, rest, rfl, -, hall, hk⟩ := ih h
        exact ⟨c :: w, rest, rfl, by simp, List.forall_mem_cons.2 ⟨hc, hall⟩, hk⟩
      · exact ⟨[c], cs, rfl, by simp, by simpa using hc, h⟩
    · simp at h

theorem exists_of_grabLeast {p : Char → Bool} {k : List Char → Next α} {cs : List Char} {r : α}
    (h : grabLeast p k cs = some r) :
    ∃ w rest, cs = w ++ rest ∧ w ≠ [] ∧ (∀ c ∈ w, p c = true) ∧ k w rest = some r := by
  induction cs generalizing k with
  | nil => simp [grabLeast] at h
  | cons c cs ih =>
    rw [grabLeast] at h
    split at h
    · rename_i hc
      rcases orElse_eq_some h with h | h
      · exact ⟨[c], cs, rfl, by simp, by simpa using hc, h⟩
      · obtain ⟨w, rest, rfl, -, hall, hk⟩ := ih h
        exact ⟨c :: w, rest, rfl, by simp, List.forall_mem_cons.2 ⟨hc, hall⟩, hk⟩
    · simp at h

/-! ## Refusals -/

section Refuse

variable {p : Char → Bool} {c : Char} (cs : List Char)

theorem many_cons_of_not (hc : p c = false) (k : Next α) : many p k (c :: cs) = k (c :: cs) := by
  rw [many, hc, if_neg Bool.false_ne_true]

theorem one_cons_of_not (hc : p c = false) (k : Next α) : one p k (c :: cs) = none := by
  rw [one, hc, if_neg Bool.false_ne_true]

theorem grab_cons_of_not (hc : p c = false) (k : List Char → Next α) : grab p k (c :: cs) = none := by
  rw [grab, hc, if_neg Bool.false_ne_true]

theorem word_cons_of_head_ne {w : List Char} (hw : w ≠ [] ∧ w.head? ≠ some c) (k : Next α) :
    word w k (c :: cs) = none := by
  obtain ⟨hne, hhead⟩ := hw
  cases w with
  | nil => exact absurd rfl hne
  | cons d w =>
    have hd : (d == c) = false := by simpa using hhead
    rw [word, List.isPrefixOf_cons_cons, hd, Bool.false_and, if_neg Bool.false_ne_true]

theorem anyOf_cons_of_head_ne {ws : List (List Char)} (hws : ∀ w ∈ ws, w ≠ [] ∧ w.head? ≠ some c)
    (k : Next α) : anyOf ws k (c :: cs) = none := by
  rw [anyOf, List.findSome?_eq_none_iff]
  intro w hw
  exact word_cons_of_head_ne cs (hws w hw) k

theorem manyOf_cons_of_head_ne {ws : List (List Char)} (hws : ∀ w ∈ ws, w ≠ [] ∧ w.head? ≠ some c)
    (gap : Next α → Next α) (k : Next α) : manyOf ws gap k (c :: cs) = k (c :: cs) := by
  rw [manyOf, List.findSome?_eq_none_iff.2 fun w hw => word_cons_of_head_ne cs (hws w hw) _, orElse]

end Refuse

theorem optionally_of_none {m : Next α → Next α} {k : Next α} {cs : List Char} (h : m k cs = none) :
    optionally m k cs = k cs := by
  rw [optionally, h, orElse]

end Landmarks.Text
