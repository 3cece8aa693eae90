import Landmarks.Proofs.Matching
import Landmarks.Proofs.Text
import Mathlib.Computability.Language

/-!
# The languages of matchers

A matcher makes its choices in an order, but whether it finds a way through depends only on the texts it
may take. `Accepts m L` says that the matcher `m` takes exactly the texts of `L`: it answers if and only if
what follows answers behind one of them, and then with an answer of what follows. A row of matchers takes
the product of their languages.

* `runs`, `runs1`, `single` : the languages of classes of characters.
* `Accepts` : a matcher and its language, for every matcher (`accepts_many`, `Accepts.comp` and so on).
* `Answers` : what follows gives one answer on the texts of a language, and none on others.
* `Accepts.eq_of_unique`, `many_eq_of_refuses` : with one way to cut the text, the order of the choices does
  not matter.
* `grab_some` : the longest word is handed on.
* `grabLeast_eq_some_iff` : the shortest word is the one after which the text goes on as asked.
-/

namespace Landmarks.Text

open Computability

variable {α : Type}

/-- The runs of characters of a class. -/
def runs (p : Char → Bool) : Language Char := {w | ∀ c ∈ w, p c = true}

/-- The runs of characters of a class that are not empty. -/
def runs1 (p : Char → Bool) : Language Char := {w | w ≠ [] ∧ ∀ c ∈ w, p c = true}

/-- The single characters of a class. -/
def single (p : Char → Bool) : Language Char := {w | ∃ c, p c = true ∧ w = [c]}

/-- The texts of a list. -/
def oneOf (ws : List (List Char)) : Language Char := {w | w ∈ ws}

theorem mem_runs {p : Char → Bool} {w : List Char} : w ∈ runs p ↔ ∀ c ∈ w, p c = true := Iff.rfl

theorem mem_oneOf_singleton {v w : List Char} : w ∈ oneOf [v] ↔ w = v := List.mem_singleton

theorem nil_mem_runs (p : Char → Bool) : [] ∈ runs p := by simp [mem_runs]

theorem append_mem_runs {p : Char → Bool} {a b : List Char} (ha : a ∈ runs p) (hb : b ∈ runs p) :
    a ++ b ∈ runs p := by
  intro c hc
  rcases List.mem_append.1 hc with hc | hc
  · exact ha c hc
  · exact hb c hc

theorem single_mul_runs (p : Char → Bool) : single p * runs p = runs1 p := by
  ext w
  rw [Language.mem_mul]
  constructor
  · rintro ⟨a, ⟨c, hc, rfl⟩, b, hb, rfl⟩
    exact ⟨by simp, List.forall_mem_cons.2 ⟨hc, hb⟩⟩
  · rintro ⟨hne, hall⟩
    obtain ⟨c, rest, rfl⟩ := List.exists_cons_of_ne_nil hne
    obtain ⟨hc, hrest⟩ := List.forall_mem_cons.1 hall
    exact ⟨[c], ⟨c, hc, rfl⟩, rest, hrest, rfl⟩

/-- A matcher takes exactly the texts of a language. -/
structure Accepts (m : Next α → Next α) (L : Language Char) : Prop where
  sound : ∀ {k : Next α} {cs : List Char} {r : α}, m k cs = some r →
    ∃ w ∈ L, ∃ rest, cs = w ++ rest ∧ k rest = some r
  complete : ∀ {k : Next α} {w rest : List Char}, w ∈ L → (k rest).isSome = true →
    (m k (w ++ rest)).isSome = true

theorem isSome_orElse {first second : Option α} :
    (orElse first second).isSome = true ↔ first.isSome = true ∨ second.isSome = true := by
  cases first <;> simp [orElse]

theorem accepts_self : Accepts (α := α) (fun k => k) 1 where
  sound h := ⟨[], rfl, _, rfl, h⟩
  complete := by
    rintro k w rest rfl hk
    exact hk

theorem Accepts.comp {m n : Next α → Next α} {L M : Language Char} (hm : Accepts m L) (hn : Accepts n M) :
    Accepts (fun k => m (n k)) (L * M) where
  sound h := by
    obtain ⟨a, ha, mid, rfl, hmid⟩ := hm.sound h
    obtain ⟨b, hb, rest, rfl, hk⟩ := hn.sound hmid
    exact ⟨a ++ b, Language.append_mem_mul ha hb, rest, (List.append_assoc a b rest).symm, hk⟩
  complete := by
    intro k w rest hw hk
    obtain ⟨a, ha, b, hb, rfl⟩ := Language.mem_mul.1 hw
    rw [List.append_assoc]
    exact hm.complete ha (hn.complete hb hk)

theorem Accepts.or {m n : Next α → Next α} {L M : Language Char} (hm : Accepts m L) (hn : Accepts n M) :
    Accepts (fun k cs => orElse (m k cs) (n k cs)) (L + M) where
  sound h := by
    rcases orElse_eq_some h with h | h
    · obtain ⟨w, hw, hrest⟩ := hm.sound h
      exact ⟨w, Or.inl hw, hrest⟩
    · obtain ⟨w, hw, hrest⟩ := hn.sound h
      exact ⟨w, Or.inr hw, hrest⟩
  complete := by
    intro k w rest hw hk
    rw [isSome_orElse]
    rcases hw with hw | hw
    · exact Or.inl (hm.complete hw hk)
    · exact Or.inr (hn.complete hw hk)

theorem Accepts.optionally {m : Next α → Next α} {L : Language Char} (hm : Accepts m L) :
    Accepts (optionally m) (L + 1) :=
  hm.or accepts_self

theorem accepts_one (p : Char → Bool) : Accepts (α := α) (one p) (single p) where
  sound := by
    intro k cs r h
    cases cs with
    | nil => simp [one] at h
    | cons c cs =>
      rw [one] at h
      split at h
      · rename_i hc
        exact ⟨[c], ⟨c, hc, rfl⟩, cs, rfl, h⟩
      · simp at h
  complete := by
    rintro k w rest ⟨c, hc, rfl⟩ hk
    rw [List.singleton_append, one, if_pos hc]
    exact hk

theorem accepts_many (p : Char → Bool) : Accepts (α := α) (many p) (runs p) where
  sound := by
    intro k cs r h
    induction cs with
    | nil => exact ⟨[], nil_mem_runs p, [], rfl, h⟩
    | cons c cs ih =>
      rw [many] at h
      split at h
      · rename_i hc
        rcases orElse_eq_some h with h | h
        · obtain ⟨w, hw, rest, rfl, hk⟩ := ih h
          exact ⟨c :: w, List.forall_mem_cons.2 ⟨hc, hw⟩, rest, rfl, hk⟩
        · exact ⟨[], nil_mem_runs p, c :: cs, rfl, h⟩
      · exact ⟨[], nil_mem_runs p, c :: cs, rfl, h⟩
  complete := by
    intro k w rest hw hk
    induction w with
    | nil =>
      cases rest with
      | nil => exact hk
      | cons c rest =>
        rw [List.nil_append, many]
        split
        · exact isSome_orElse.2 (Or.inr hk)
        · exact hk
    | cons c w ih =>
      obtain ⟨hc, hrest⟩ := List.forall_mem_cons.1 hw
      rw [List.cons_append, many, if_pos hc]
      exact isSome_orElse.2 (Or.inl (ih hrest))

theorem accepts_many1 (p : Char → Bool) : Accepts (α := α) (many1 p) (runs1 p) :=
  single_mul_runs p ▸ (accepts_one p).comp (accepts_many p)

theorem word_append (w rest : List Char) (k : Next α) : word w k (w ++ rest) = k rest := by
  rw [word, if_pos (List.isPrefixOf_iff_prefix.2 (List.prefix_append w rest)), List.drop_left]

theorem word_of_not_prefix {w cs : List Char} (h : ¬w <+: cs) (k : Next α) : word w k cs = none := by
  rw [word, if_neg]
  rwa [List.isPrefixOf_iff_prefix]

theorem accepts_word (w : List Char) : Accepts (α := α) (word w) (oneOf [w]) where
  sound := by
    intro k cs r h
    rw [word] at h
    split at h
    · rename_i hpre
      obtain ⟨rest, rfl⟩ := List.isPrefixOf_iff_prefix.1 hpre
      rw [List.drop_left] at h
      exact ⟨w, mem_oneOf_singleton.2 rfl, rest, rfl, h⟩
    · simp at h
  complete := by
    intro k v rest hv hk
    obtain rfl := mem_oneOf_singleton.1 hv
    rw [word_append]
    exact hk

theorem accepts_anyOf (ws : List (List Char)) : Accepts (α := α) (anyOf ws) (oneOf ws) where
  sound := by
    intro k cs r h
    obtain ⟨w, hmem, hw⟩ := List.exists_of_findSome?_eq_some h
    obtain ⟨v, hv, hrest⟩ := (accepts_word w).sound hw
    obtain rfl := mem_oneOf_singleton.1 hv
    exact ⟨v, hmem, hrest⟩
  complete := by
    intro k w rest hw hk
    rw [anyOf, List.findSome?_isSome_iff]
    exact ⟨w, hw, (accepts_word w).complete (mem_oneOf_singleton.2 rfl) hk⟩

theorem accepts_manyOf (ws : List (List Char)) {gap : Next α → Next α} {G : Language Char} (hgap : Accepts gap G) :
    Accepts (manyOf ws gap) (oneOf ws * G)∗ where
  sound := by
    intro k cs r h
    -- on the length of the text: a further word leaves a shorter one
    induction hn : cs.length using Nat.strongRecOn generalizing cs with
    | ind n ih =>
      subst hn
      rw [manyOf] at h
      rcases orElse_eq_some h with h | h
      · obtain ⟨w, hmem, hw⟩ := List.exists_of_findSome?_eq_some h
        obtain ⟨a, ha, mid, rfl, hmid⟩ := ((accepts_word w).comp hgap).sound hw
        split at hmid
        · rename_i hlt
          obtain ⟨b, hb, rest, rfl, hk⟩ := ih mid.length hlt hmid rfl
          have hpiece : a ∈ oneOf ws * G := by
            obtain ⟨v, hv, g, hg, rfl⟩ := Language.mem_mul.1 ha
            obtain rfl := mem_oneOf_singleton.1 hv
            exact Language.append_mem_mul hmem hg
          obtain ⟨pieces, rfl, hpieces⟩ := Language.mem_kstar.1 hb
          refine ⟨a ++ pieces.flatten, ?_, rest, (List.append_assoc _ _ rest).symm, hk⟩
          exact Language.mem_kstar.2 ⟨a :: pieces, rfl, List.forall_mem_cons.2 ⟨hpiece, hpieces⟩⟩
        · simp at hmid
      · exact ⟨[], Language.nil_mem_kstar _, cs, rfl, h⟩
  complete := by
    intro k w rest hw hk
    obtain ⟨pieces, rfl, hpieces⟩ := Language.mem_kstar_iff_exists_nonempty.1 hw
    clear hw
    induction pieces with
    | nil =>
      rw [List.flatten_nil, List.nil_append, manyOf]
      exact isSome_orElse.2 (Or.inr hk)
    | cons a pieces ih =>
      obtain ⟨⟨ha, hne⟩, hrest⟩ := List.forall_mem_cons.1 hpieces
      obtain ⟨v, hv, g, hg, rfl⟩ := Language.mem_mul.1 ha
      have hlt : (pieces.flatten ++ rest).length < (v ++ (g ++ (pieces.flatten ++ rest))).length := by
        have hpos := List.length_pos_of_ne_nil hne
        simp only [List.length_append] at hpos ⊢
        omega
      rw [List.flatten_cons, List.append_assoc, List.append_assoc, manyOf, isSome_orElse,
        List.findSome?_isSome_iff]
      refine Or.inl ⟨v, hv, ?_⟩
      rw [word_append]
      refine hgap.complete hg ?_
      rw [dif_pos hlt]
      exact ih hrest

/-! ## Answers -/

/-- What follows gives the answer `a` on the texts of `Q`, and none on any other. -/
def Answers (k : Next α) (a : α) (Q : Language Char) : Prop := ∀ cs r, k cs = some r ↔ r = a ∧ cs ∈ Q

theorem Answers.isSome {k : Next α} {a : α} {Q : Language Char} (h : Answers k a Q) {cs : List Char} :
    (k cs).isSome = true ↔ cs ∈ Q := by
  rw [Option.isSome_iff_exists]
  constructor
  · rintro ⟨r, hr⟩
    exact ((h cs r).1 hr).2
  · exact fun hcs => ⟨a, (h cs a).2 ⟨rfl, hcs⟩⟩

theorem answers_const (a : α) : Answers (fun _ => some a) a ⊤ := by
  intro cs r
  rw [Option.some.injEq]
  exact ⟨fun h => ⟨h.symm, trivial⟩, fun h => h.1.symm⟩

theorem Accepts.answers {m : Next α → Next α} {L : Language Char} (hm : Accepts m L) {k : Next α} {a : α}
    {Q : Language Char} (hk : Answers k a Q) : Answers (m k) a (L * Q) := by
  intro cs r
  rw [Language.mem_mul]
  constructor
  · intro h
    obtain ⟨w, hw, rest, rfl, hr⟩ := hm.sound h
    obtain ⟨rfl, hrest⟩ := (hk rest r).1 hr
    exact ⟨rfl, w, hw, rest, hrest, rfl⟩
  · rintro ⟨rfl, w, hw, rest, hrest, rfl⟩
    obtain ⟨r', hr'⟩ := Option.isSome_iff_exists.1 (hm.complete hw (hk.isSome.2 hrest))
    obtain ⟨w', -, rest', -, hk'⟩ := hm.sound hr'
    obtain ⟨rfl, -⟩ := (hk rest' r').1 hk'
    exact hr'

theorem Answers.or {k k' : Next α} {a : α} {Q Q' : Language Char} (h : Answers k a Q) (h' : Answers k' a Q') :
    Answers (fun cs => orElse (k cs) (k' cs)) a (Q + Q') := by
  intro cs r
  rw [Language.mem_add]
  dsimp only
  by_cases hcs : cs ∈ Q
  · rw [(h cs a).2 ⟨rfl, hcs⟩]
    simp [orElse, hcs, eq_comm]
  · have hnone : k cs = none := by
      rw [← Option.not_isSome_iff_eq_none, h.isSome]
      exact hcs
    rw [hnone]
    simpa [orElse, hcs] using h' cs r

theorem Answers.atEnd {k : Next α} {a : α} (h : Answers k a ⊤) : Answers (atEnd k) a (1 + oneOf [['\n']]) := by
  intro cs r
  have hk : ∀ cs, k cs = some r ↔ r = a := fun cs => (h cs r).trans (and_iff_left trivial)
  rw [Language.mem_add, Language.mem_one, mem_oneOf_singleton]
  unfold Text.atEnd
  split
  · simp [hk]
  · simp [hk]
  · rename_i hne hbreak
    simp only [reduceCtorEq, false_iff, not_and, not_or]
    exact fun _ => ⟨hne, hbreak⟩

/-- With one way to cut the text, a matcher answers what is answered behind the cut. -/
theorem Accepts.eq_of_unique {m : Next α → Next α} {L : Language Char} (hm : Accepts m L) {k : Next α}
    {w s : List Char} (hw : w ∈ L)
    (hunique : ∀ w' ∈ L, ∀ s', w' ++ s' = w ++ s → (k s').isSome = true → s' = s) : m k (w ++ s) = k s := by
  cases h : m k (w ++ s) with
  | some r =>
    obtain ⟨w', hw', s', hcut, hr⟩ := hm.sound h
    rw [← hunique w' hw' s' hcut.symm (by simp [hr]), hr]
  | none =>
    cases hs : k s with
    | none => rfl
    | some r =>
      have hsome : (m k (w ++ s)).isSome = true := hm.complete hw (by simp [hs])
      simp [h] at hsome

theorem findSome?_of_unique {β : Type} {f : β → Option α} {l : List β} {a : β} (ha : a ∈ l)
    (h : ∀ b ∈ l, b ≠ a → f b = none) : l.findSome? f = f a := by
  cases hfound : l.findSome? f with
  | none => exact (List.findSome?_eq_none_iff.1 hfound a ha).symm
  | some r =>
    obtain ⟨b, hb, hr⟩ := List.exists_of_findSome?_eq_some hfound
    by_cases hba : b = a
    · rw [← hba, hr]
    · rw [h b hb hba] at hr
      exact absurd hr (by simp)

/-- Behind a run, what refuses to begin with a character of the run is asked only where the run ends. -/
theorem many_eq_of_refuses {p : Char → Bool} {k : Next α} (hk : ∀ c cs, p c = true → k (c :: cs) = none)
    {w s : List Char} (hw : w ∈ runs p) (hs : StartsOutside p s) : many p k (w ++ s) = k s := by
  refine (accepts_many p).eq_of_unique hw fun w' hw' s' hcut hsome => ?_
  have hs' : StartsOutside p s' := by
    intro c hc
    obtain ⟨tail, rfl⟩ := List.head?_eq_some_iff.1 hc
    rw [← Bool.not_eq_true]
    intro hpc
    rw [hk c tail hpc] at hsome
    exact absurd hsome (by simp)
  exact (run_append_inj hcut hw' hs' hw hs).2

theorem many1_eq_of_refuses {p : Char → Bool} {k : Next α} (hk : ∀ c cs, p c = true → k (c :: cs) = none)
    {w s : List Char} (hw : w ∈ runs1 p) (hs : StartsOutside p s) : many1 p k (w ++ s) = k s := by
  obtain ⟨c, w, rfl⟩ := List.exists_cons_of_ne_nil hw.1
  obtain ⟨hc, hw⟩ := List.forall_mem_cons.1 hw.2
  rw [List.cons_append, many1, one, if_pos hc, many_eq_of_refuses hk hw hs]

/-- The longest run is tried first. -/
theorem many_append_of_some {p : Char → Bool} {k : Next α} {w rest : List Char} {r : α} (hw : w ∈ runs p)
    (hrest : StartsOutside p rest) (hk : k rest = some r) : many p k (w ++ rest) = some r := by
  induction w with
  | nil =>
    cases rest with
    | nil => exact hk
    | cons c rest => rw [List.nil_append, many_cons_of_not rest (hrest c rfl), hk]
  | cons c w ih =>
    obtain ⟨hc, hw⟩ := List.forall_mem_cons.1 hw
    rw [List.cons_append, many, if_pos hc, ih hw, orElse]

theorem many1_append_of_some {p : Char → Bool} {k : Next α} {w rest : List Char} {r : α} (hw : w ∈ runs1 p)
    (hrest : StartsOutside p rest) (hk : k rest = some r) : many1 p k (w ++ rest) = some r := by
  obtain ⟨c, w, rfl⟩ := List.exists_cons_of_ne_nil hw.1
  obtain ⟨hc, hw⟩ := List.forall_mem_cons.1 hw.2
  rw [List.cons_append, many1, one, if_pos hc]
  exact many_append_of_some hw hrest hk

/-! ## Words that are handed on -/

theorem isSome_grab {p : Char → Bool} {k : List Char → Next α} {w rest : List Char} (hw : w ∈ runs1 p)
    (hk : (k w rest).isSome = true) : (grab p k (w ++ rest)).isSome = true := by
  obtain ⟨hne, hall⟩ := hw
  induction w generalizing k with
  | nil => exact absurd rfl hne
  | cons c w ih =>
    obtain ⟨hc, hrest⟩ := List.forall_mem_cons.1 hall
    rw [List.cons_append, grab, if_pos hc, isSome_orElse]
    cases w with
    | nil => exact Or.inr hk
    | cons d w => exact Or.inl (ih hk (by simp) hrest)

theorem grab_some {p : Char → Bool} (f : List Char → α) (cs : List Char) :
    grab p (fun w _ => some (f w)) cs = if cs.takeWhile p = [] then none else some (f (cs.takeWhile p)) := by
  induction cs generalizing f with
  | nil => rfl
  | cons c cs ih =>
    rw [grab, ih fun w => f (c :: w)]
    by_cases hc : p c = true
    · rw [if_pos hc, List.takeWhile_cons_of_pos hc, if_neg (List.cons_ne_nil _ _)]
      split
      · rename_i hnil
        rw [hnil, orElse]
      · rw [orElse]
    · rw [if_neg hc, List.takeWhile_cons_of_neg hc, if_pos rfl]

theorem isSome_grabLeast {p : Char → Bool} {k : List Char → Next α} {w rest : List Char} (hw : w ∈ runs1 p)
    (hk : (k w rest).isSome = true) : (grabLeast p k (w ++ rest)).isSome = true := by
  obtain ⟨hne, hall⟩ := hw
  induction w generalizing k with
  | nil => exact absurd rfl hne
  | cons c w ih =>
    obtain ⟨hc, hrest⟩ := List.forall_mem_cons.1 hall
    rw [List.cons_append, grabLeast, if_pos hc, isSome_orElse]
    cases w with
    | nil => exact Or.inl hk
    | cons d w => exact Or.inr (ih hk (by simp) hrest)

/-- A word at the front of a text takes its first character. -/
theorem cons_of_mem_runs1 {p : Char → Bool} {c : Char} {cs w rest : List Char} (hw : w ∈ runs1 p)
    (hcut : c :: cs = w ++ rest) : p c = true ∧ ∃ v ∈ runs p, w = c :: v ∧ cs = v ++ rest := by
  obtain ⟨d, v, rfl⟩ := List.exists_cons_of_ne_nil hw.1
  obtain ⟨rfl, rfl⟩ := List.cons.inj hcut
  obtain ⟨hc, hv⟩ := List.forall_mem_cons.1 hw.2
  exact ⟨hc, v, hv, rfl, rfl⟩

theorem cons_mem_runs1 {p : Char → Bool} {c : Char} {v : List Char} (hc : p c = true) (hv : v ∈ runs p) :
    c :: v ∈ runs1 p := ⟨List.cons_ne_nil c v, List.forall_mem_cons.2 ⟨hc, hv⟩⟩

/-- The shortest word is found after which the text goes on as asked. -/
theorem grabLeast_eq_some_iff {p : Char → Bool} {k : List Char → Next α} {f : List Char → α} {Q : Language Char}
    (hk : ∀ w, Answers (k w) (f w) Q) {cs : List Char} {r : α} :
    grabLeast p k cs = some r ↔ ∃ w ∈ runs1 p, ∃ rest ∈ Q, cs = w ++ rest ∧ r = f w ∧
      ∀ w' ∈ runs1 p, ∀ rest' ∈ Q, cs = w' ++ rest' → w.length ≤ w'.length := by
  induction cs generalizing k f with
  | nil =>
    simp only [grabLeast, reduceCtorEq, false_iff]
    rintro ⟨w, ⟨hne, -⟩, rest, -, hcut, -⟩
    exact hne (List.append_eq_nil_iff.1 hcut.symm).1
  | cons c cs ih =>
    rw [grabLeast]
    split
    · rename_i hc
      have hfirst : [c] ∈ runs1 p := cons_mem_runs1 hc (nil_mem_runs p)
      by_cases hcs : cs ∈ Q
      · -- the text goes on after the first character
        rw [(hk [c] cs (f [c])).2 ⟨rfl, hcs⟩]
        constructor
        · intro h
          refine ⟨[c], hfirst, cs, hcs, rfl, (Option.some.inj h).symm, ?_⟩
          intro w' hw' _ _ _
          exact List.length_pos_of_ne_nil hw'.1
        · rintro ⟨w, hw, rest, hrest, hcut, rfl, hleast⟩
          have hone := hleast [c] hfirst cs hcs rfl
          obtain ⟨-, v, -, rfl, -⟩ := cons_of_mem_runs1 hw hcut
          obtain rfl : v = [] := List.eq_nil_of_length_eq_zero (by simpa using hone)
          rfl
      · have hnone : k [c] cs = none := by
          rw [← Option.not_isSome_iff_eq_none, (hk [c]).isSome]
          exact hcs
        -- so no word of one character will do
        have hmore : ∀ {w rest}, w ∈ runs1 p → rest ∈ Q → c :: cs = w ++ rest →
            ∃ v ∈ runs1 p, w = c :: v ∧ cs = v ++ rest := by
          intro w rest hw hrest hcut
          obtain ⟨-, v, hv, rfl, hcs'⟩ := cons_of_mem_runs1 hw hcut
          refine ⟨v, ⟨?_, hv⟩, rfl, hcs'⟩
          rintro rfl
          exact hcs (hcs' ▸ hrest)
        rw [hnone, orElse, ih fun w => hk (c :: w)]
        constructor
        · rintro ⟨w, hw, rest, hrest, hcut, rfl, hleast⟩
          refine ⟨c :: w, cons_mem_runs1 hc hw.2, rest, hrest, by rw [hcut, List.cons_append], rfl, ?_⟩
          intro w' hw' rest' hrest' hcut'
          obtain ⟨v, hv, rfl, hcs'⟩ := hmore hw' hrest' hcut'
          exact Nat.succ_le_succ (hleast v hv rest' hrest' hcs')
        · rintro ⟨w, hw, rest, hrest, hcut, rfl, hleast⟩
          obtain ⟨v, hv, rfl, hcs'⟩ := hmore hw hrest hcut
          refine ⟨v, hv, rest, hrest, hcs', rfl, ?_⟩
          intro w' hw' rest' hrest' hcut'
          have hle := hleast (c :: w') (cons_mem_runs1 hc hw'.2) rest' hrest' (by rw [hcut', List.cons_append])
          exact Nat.le_of_succ_le_succ hle
    · rename_i hc
      simp only [reduceCtorEq, false_iff]
      rintro ⟨w, hw, rest, -, hcut, -⟩
      exact hc (cons_of_mem_runs1 hw hcut).1

end Landmarks.Text
