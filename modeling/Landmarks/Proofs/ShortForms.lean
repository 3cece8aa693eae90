import Landmarks.Proofs.Text
import Landmarks.Rule.AccessLabel
import Mathlib.Data.String.Basic

/-!
# Short forms, field by field

A text is a row of fields with a space between each two of them; between two spaces in a row the field is empty.

* `fields`, `joined` : the fields of a text, and fields as a text.
* `IsDue` : whether a field gives way to its short form.
* `leadCount` : how many specifiers stand before others; each of them takes a call of its own.
* `shortenFields` : shortening from field to field; `shorten_joined` : this is how a text is shortened.
* `shorten_fields` : where there is room for the calls, just the fields that are due are shortened. Their number stays, no
  text gets longer, and a second time nothing is left to shorten. Without room there is no short form.
-/

namespace Landmarks.Rule.AccessLabel

open Text

/-- The fields of a text, cut at every single space. -/
def fields (cs : List Char) : List (List Char) := cs.splitOn ' '

/-- Fields with a space between each two. -/
def joined (fs : List (List Char)) : List Char := [' '].intercalate fs

/-- Whether the field `f` at place `i` gives way to its short form: all fields before it are specifiers that may stand
before others, and it is one itself, or it is the last field and a specifier of signals or slots. -/
def IsDue (fs : List (List Char)) (i : Nat) (f : List Char) : Prop :=
  (∀ g ∈ fs.take i, String.ofList g ∈ standard) ∧
    (String.ofList f ∈ standard ∨ i + 1 = fs.length ∧ String.ofList f ∈ signalLike)

instance (fs : List (List Char)) (i : Nat) (f : List Char) : Decidable (IsDue fs i f) :=
  inferInstanceAs (Decidable (_ ∧ _))

/-- The specifiers at the front of some fields that others follow. -/
def leading (fs : List (List Char)) : List (List Char) := fs.dropLast.takeWhile fun f => String.ofList f ∈ standard

/-- How many specifiers at the front of a text others follow. -/
def leadCount (cs : List Char) : Nat := (leading (fields cs)).length

/-! ## Fields -/

theorem joined_singleton (f : List Char) : joined [f] = f := List.intercalate_singleton

theorem joined_cons {fs : List (List Char)} (hne : fs ≠ []) (f : List Char) : joined (f :: fs) = f ++ ' ' :: joined fs := by
  obtain ⟨g, gs, rfl⟩ := List.exists_cons_of_ne_nil hne
  rw [joined, List.intercalate_cons_cons, List.append_assoc]
  rfl

theorem joined_fields (cs : List Char) : joined (fields cs) = cs := List.intercalate_splitOn ' '

theorem fields_ne_nil (cs : List Char) : fields cs ≠ [] := List.splitOn_ne_nil ' ' cs

theorem fields_cons (c : Char) (cs : List Char) :
    fields (c :: cs) = if c = ' ' then [] :: fields cs else (fields cs).modifyHead (c :: ·) := by
  rw [fields, List.splitOn, List.splitOnP_cons_eq_if_modifyHead]
  simp only [beq_iff_eq]
  rfl

theorem space_notMem_of_mem_fields (cs : List Char) : ∀ f ∈ fields cs, ' ' ∉ f := by
  induction cs with
  | nil => exact List.forall_mem_singleton.2 List.not_mem_nil
  | cons c cs ih =>
    rw [fields_cons]
    by_cases hc : c = ' '
    · rw [if_pos hc]
      exact List.forall_mem_cons.2 ⟨List.not_mem_nil, ih⟩
    · obtain ⟨first, rest, hfields⟩ := List.exists_cons_of_ne_nil (fields_ne_nil cs)
      rw [hfields] at ih ⊢
      obtain ⟨hfirst, hrest⟩ := List.forall_mem_cons.1 ih
      rw [if_neg hc, List.modifyHead_cons]
      refine List.forall_mem_cons.2 ⟨fun hmem => ?_, hrest⟩
      rcases List.mem_cons.1 hmem with hspace | hmem
      · exact hc hspace.symm
      · exact hfirst hmem

theorem fields_joined {fs : List (List Char)} (hne : fs ≠ []) (h : ∀ f ∈ fs, ' ' ∉ f) : fields (joined fs) = fs :=
  List.splitOn_intercalate ' ' h hne

/-! ## The table -/

/-- The specifiers with a short form are those that may stand before others and those of signals and slots. -/
theorem isSome_shortForm?_iff {f : List Char} :
    (shortForm? f).isSome ↔ String.ofList f ∈ standard ∨ String.ofList f ∈ signalLike := by
  have hnames : shortForms.map Prod.fst = standard ++ signalLike := rfl
  rw [← List.mem_append, ← hnames, List.mem_map, shortForm?, Option.isSome_map, List.find?_isSome]
  simp only [beq_iff_eq, @eq_comm String _ (String.ofList f), String.ofList_eq, @eq_comm _ f]

/-- A short form is shorter, has no space in it, and has no short form of its own. -/
theorem of_shortForm?_eq_some {f short : List Char} (h : shortForm? f = some short) :
    ' ' ∉ f ∧ ' ' ∉ short ∧ short.length ≤ f.length ∧ shortForm? short = none := by
  have htable : ∀ p ∈ shortForms, ' ' ∉ p.1.toList ∧ ' ' ∉ p.2.toList ∧ p.2.toList.length ≤ p.1.toList.length ∧
      shortForm? p.2.toList = none := by decide
  obtain ⟨p, hp, rfl⟩ := Option.map_eq_some_iff.1 h
  have hname := List.find?_some hp
  rw [← eq_of_beq hname]
  exact htable p (List.mem_of_find?_eq_some hp)

/-! ## Leading specifiers -/

/-- A leading specifier is taken off a text just if it is the first of several fields. -/
theorem isPrefixOf_lead_iff {w : String} (hw : w ∈ standard) {f : List Char} (hf : ' ' ∉ f) (rest : List Char) :
    (w.toList ++ [' ']).isPrefixOf (f ++ ' ' :: rest) = true ↔ w = String.ofList f := by
  have hspace : ∀ w ∈ standard, ' ' ∉ w.toList := by decide
  rw [List.isPrefixOf_iff_prefix, eq_comm, String.ofList_eq]
  constructor
  · rintro ⟨tail, htail⟩
    rw [List.append_assoc] at htail
    exact (append_cons_inj htail (hspace w hw) hf).1.symm
  · rintro rfl
    exact ⟨rest, List.append_assoc _ _ _⟩

theorem splitLead?_of_mem {f : List Char} (hf : ' ' ∉ f) (hstandard : String.ofList f ∈ standard) (rest : List Char) :
    splitLead? (f ++ ' ' :: rest) = some ((shortForm? f).getD f, rest) := by
  have hlead : f ++ [' '] ∈ leads := List.mem_map.2 ⟨_, hstandard, by rw [String.toList_ofList]⟩
  have hprefix : (f ++ [' ']).isPrefixOf (f ++ ' ' :: rest) = true := by
    rw [List.isPrefixOf_iff_prefix]
    exact ⟨rest, List.append_assoc _ _ _⟩
  obtain ⟨lead, hfind⟩ : ∃ lead, leads.find? (·.isPrefixOf (f ++ ' ' :: rest)) = some lead :=
    Option.isSome_iff_exists.1 (List.find?_isSome.2 ⟨_, hlead, hprefix⟩)
  obtain ⟨w, hw, rfl⟩ := List.mem_map.1 (List.mem_of_find?_eq_some hfind)
  have hfirst := List.find?_some hfind
  obtain rfl := (isPrefixOf_lead_iff hw hf rest).1 hfirst
  simp [splitLead?, hfind]

theorem splitLead?_of_notMem {f : List Char} (hf : ' ' ∉ f) (hstandard : String.ofList f ∉ standard) (rest : List Char) :
    splitLead? (f ++ ' ' :: rest) = none := by
  rw [splitLead?, Option.map_eq_none_iff, List.find?_eq_none, leads, List.forall_mem_map]
  intro w hw hprefix
  exact hstandard ((isPrefixOf_lead_iff hw hf rest).1 hprefix ▸ hw)

theorem splitLead?_of_space_notMem {f : List Char} (hf : ' ' ∉ f) : splitLead? f = none := by
  rw [splitLead?, Option.map_eq_none_iff, List.find?_eq_none, leads, List.forall_mem_map]
  intro w _ hprefix
  have hsubset := (List.isPrefixOf_iff_prefix.1 hprefix).subset
  exact hf (hsubset (List.mem_append_right _ List.mem_cons_self))

/-! ## Shortening field by field -/

/-- Fields in short form: from left to right, as long as specifiers come that may stand before others. -/
def shortenFields : List (List Char) → List (List Char)
  | [] => []
  | [f] => [(shortForm? f).getD f]
  | f :: g :: fs => if String.ofList f ∈ standard then (shortForm? f).getD f :: shortenFields (g :: fs) else f :: g :: fs

theorem shortenFields_cons_of_mem {fs : List (List Char)} (hne : fs ≠ []) {f : List Char} (h : String.ofList f ∈ standard) :
    shortenFields (f :: fs) = (shortForm? f).getD f :: shortenFields fs := by
  obtain ⟨g, gs, rfl⟩ := List.exists_cons_of_ne_nil hne
  rw [shortenFields, if_pos h]

theorem shortenFields_cons_of_notMem {fs : List (List Char)} (hne : fs ≠ []) {f : List Char}
    (h : String.ofList f ∉ standard) : shortenFields (f :: fs) = f :: fs := by
  obtain ⟨g, gs, rfl⟩ := List.exists_cons_of_ne_nil hne
  rw [shortenFields, if_neg h]

theorem length_shortenFields (fs : List (List Char)) : (shortenFields fs).length = fs.length := by
  fun_induction shortenFields fs with
  | case1 => rfl
  | case2 f => rfl
  | case3 f g fs h ih => exact congrArg (· + 1) ih
  | case4 f g fs h => rfl

theorem shortenFields_ne_nil {fs : List (List Char)} (hne : fs ≠ []) : shortenFields fs ≠ [] := by
  rw [← List.length_pos_iff, length_shortenFields, List.length_pos_iff]
  exact hne

theorem leading_cons {fs : List (List Char)} (hne : fs ≠ []) (f : List Char) :
    leading (f :: fs) = if String.ofList f ∈ standard then f :: leading fs else [] := by
  rw [leading, List.dropLast_cons_of_ne_nil hne, List.takeWhile_cons]
  simp only [decide_eq_true_eq]
  rfl

/-- A text is shortened field by field, with a call for each specifier at its front that others follow. -/
theorem shorten_joined {fs : List (List Char)} (hne : fs ≠ []) (h : ∀ f ∈ fs, ' ' ∉ f) (room : Nat) :
    shorten room (joined fs) =
      if (leading fs).length < room then .ok (joined (shortenFields fs)) else .error .tooDeep := by
  induction fs generalizing room with
  | nil => exact absurd rfl hne
  | cons f fs ih =>
    obtain ⟨hf, hfs⟩ := List.forall_mem_cons.1 h
    cases room with
    | zero => rw [shorten, if_neg (Nat.not_lt_zero _)]
    | succ room =>
      have hroom : 0 < room + 1 := Nat.zero_lt_succ room
      rcases eq_or_ne fs [] with rfl | hrest
      · have hlast : (leading [f]).length < room + 1 := hroom
        rw [joined_singleton, shortenFields, joined_singleton, shorten, splitLead?_of_space_notMem hf, if_pos hlast]
        cases shortForm? f <;> rfl
      · have hwhole : shortForm? (f ++ ' ' :: joined fs) = none := by
          rw [Option.eq_none_iff_forall_not_mem]
          intro short hshort
          exact (of_shortForm?_eq_some hshort).1 (List.mem_append_right f List.mem_cons_self)
        rw [joined_cons hrest, shorten, hwhole, leading_cons hrest]
        by_cases hstandard : String.ofList f ∈ standard
        · rw [splitLead?_of_mem hf hstandard, if_pos hstandard, shortenFields_cons_of_mem hrest hstandard,
            joined_cons (shortenFields_ne_nil hrest), List.length_cons]
          dsimp only
          rw [ih hrest hfs]
          simp only [Nat.add_lt_add_iff_right]
          split <;> rfl
        · rw [splitLead?_of_notMem hf hstandard, if_neg hstandard, shortenFields_cons_of_notMem hrest hstandard,
            joined_cons hrest, List.length_nil, if_pos hroom]

/-! ## The fields that are due -/

theorem isDue_zero {f : List Char} {fs : List (List Char)} :
    IsDue (f :: fs) 0 f ↔ String.ofList f ∈ standard ∨ fs = [] ∧ String.ofList f ∈ signalLike := by
  simp [IsDue]

theorem isDue_succ {f g : List Char} {fs : List (List Char)} {i : Nat} :
    IsDue (f :: fs) (i + 1) g ↔ String.ofList f ∈ standard ∧ IsDue fs i g := by
  simp [IsDue, and_assoc]

/-- Shortening from field to field is shortening of those that are due. -/
theorem map_some_shortenFields (fs : List (List Char)) :
    (shortenFields fs).map some = fs.mapIdx fun i f => if IsDue fs i f then shortForm? f else some f := by
  have hshort : ∀ {f : List Char}, (shortForm? f).isSome → shortForm? f = some ((shortForm? f).getD f) := by
    intro f hsome
    obtain ⟨short, hf⟩ := Option.isSome_iff_exists.1 hsome
    rw [hf]
    rfl
  fun_induction shortenFields fs with
  | case1 => rfl
  | case2 f =>
    have hdue : IsDue [f] 0 f ↔ (shortForm? f).isSome := by simp [isDue_zero, isSome_shortForm?_iff]
    rw [List.mapIdx_cons, List.mapIdx_nil, List.map_singleton]
    by_cases hsome : (shortForm? f).isSome
    · rw [if_pos (hdue.2 hsome), ← hshort hsome]
    · rw [if_neg (mt hdue.1 hsome), Option.not_isSome_iff_eq_none.1 hsome]
      rfl
  | case3 f g fs h ih =>
    rw [List.mapIdx_cons, List.map_cons, ih, if_pos (isDue_zero.2 (.inl h)), ← hshort (isSome_shortForm?_iff.2 (.inl h))]
    simp only [isDue_succ, h, true_and]
  | case4 f g fs h =>
    have hkept : ∀ i x, ¬ IsDue (f :: g :: fs) (i + 1) x := fun i x hdue => h (isDue_succ.1 hdue).1
    have hfirst : ¬ IsDue (f :: g :: fs) 0 f := by simp [isDue_zero, h]
    rw [List.mapIdx_cons, if_neg hfirst, List.map_cons]
    simp only [hkept, if_false]
    exact congrArg (some f :: ·) (List.mapIdx_eq_iff.2 fun i => List.getElem?_map).symm

theorem space_notMem_shortForm {f : List Char} (hf : ' ' ∉ f) : ' ' ∉ (shortForm? f).getD f := by
  cases hshort : shortForm? f with
  | none => exact hf
  | some short => exact (of_shortForm?_eq_some hshort).2.1

theorem length_shortForm_le (f : List Char) : ((shortForm? f).getD f).length ≤ f.length := by
  cases hshort : shortForm? f with
  | none => exact Nat.le_refl _
  | some short => exact (of_shortForm?_eq_some hshort).2.2.1

theorem shortForm?_shortForm (f : List Char) : shortForm? ((shortForm? f).getD f) = none := by
  cases hshort : shortForm? f with
  | none => exact hshort
  | some short => exact (of_shortForm?_eq_some hshort).2.2.2

theorem shortForm_notMem_standard (f : List Char) : String.ofList ((shortForm? f).getD f) ∉ standard := by
  intro hmem
  have hsome := isSome_shortForm?_iff.2 (.inl hmem)
  rw [shortForm?_shortForm] at hsome
  cases hsome

theorem space_notMem_shortenFields {fs : List (List Char)} (h : ∀ f ∈ fs, ' ' ∉ f) : ∀ f ∈ shortenFields fs, ' ' ∉ f := by
  fun_induction shortenFields fs with
  | case1 => exact h
  | case2 f => exact List.forall_mem_singleton.2 (space_notMem_shortForm (h f List.mem_cons_self))
  | case3 f g fs _ ih =>
    obtain ⟨hf, hrest⟩ := List.forall_mem_cons.1 h
    exact List.forall_mem_cons.2 ⟨space_notMem_shortForm hf, ih hrest⟩
  | case4 f g fs _ => exact h

/-- No short form leads on, so the first field that was shortened ends a second round. -/
theorem shortenFields_shortenFields (fs : List (List Char)) : shortenFields (shortenFields fs) = shortenFields fs := by
  fun_induction shortenFields fs with
  | case1 => rfl
  | case2 f => rw [shortenFields, shortForm?_shortForm, Option.getD_none]
  | case3 f g fs h _ =>
    exact shortenFields_cons_of_notMem (shortenFields_ne_nil (List.cons_ne_nil g fs)) (shortForm_notMem_standard f)
  | case4 f g fs h => exact shortenFields_cons_of_notMem (List.cons_ne_nil g fs) h

theorem length_joined_shortenFields_le (fs : List (List Char)) : (joined (shortenFields fs)).length ≤ (joined fs).length := by
  fun_induction shortenFields fs with
  | case1 => exact Nat.le_refl _
  | case2 f =>
    rw [joined_singleton, joined_singleton]
    exact length_shortForm_le f
  | case3 f g fs _ ih =>
    rw [joined_cons (shortenFields_ne_nil (List.cons_ne_nil g fs)), joined_cons (List.cons_ne_nil g fs), List.length_append,
      List.length_append, List.length_cons, List.length_cons]
    have hf := length_shortForm_le f
    omega
  | case4 f g fs _ => exact Nat.le_refl _

/-- After a first round no field is left that leads on. -/
theorem leading_shortenFields (fs : List (List Char)) : leading (shortenFields fs) = [] := by
  fun_induction shortenFields fs with
  | case1 => rfl
  | case2 f => rfl
  | case3 f g fs h _ =>
    rw [leading_cons (shortenFields_ne_nil (List.cons_ne_nil g fs)), if_neg (shortForm_notMem_standard f)]
  | case4 f g fs h => rw [leading_cons (List.cons_ne_nil g fs), if_neg h]

theorem shorten_eq (room : Nat) (cs : List Char) :
    shorten room cs = if leadCount cs < room then .ok (joined (shortenFields (fields cs))) else .error .tooDeep := by
  have hshorten := shorten_joined (fields_ne_nil cs) (space_notMem_of_mem_fields cs) room
  rwa [joined_fields] at hshorten

theorem fields_joined_shortenFields (cs : List Char) :
    fields (joined (shortenFields (fields cs))) = shortenFields (fields cs) :=
  fields_joined (shortenFields_ne_nil (fields_ne_nil cs)) (space_notMem_shortenFields (space_notMem_of_mem_fields cs))

/-- **Just the fields that are due are shortened**, where there is room for a call per specifier that others follow. The
short form has the fields of the text with a space between each two, those that are due in their short form. So it has as
many fields, it is never longer, and it is its own short form. Without that room there is no short form. -/
theorem shorten_fields (room : Nat) (cs : List Char) :
    (leadCount cs < room → ∃ fs, shorten room cs = .ok (joined fs) ∧
      (fs.map some = (fields cs).mapIdx fun i f => if IsDue (fields cs) i f then shortForm? f else some f) ∧
      shorten room (joined fs) = .ok (joined fs) ∧
      (joined fs).length ≤ cs.length ∧
      (fields (joined fs)).length = (fields cs).length) ∧
    (room ≤ leadCount cs → shorten room cs = .error .tooDeep) := by
  constructor
  · intro hroom
    refine ⟨shortenFields (fields cs), ?_, map_some_shortenFields _, ?_, ?_, ?_⟩
    · rw [shorten_eq, if_pos hroom]
    · have hfree : leadCount (joined (shortenFields (fields cs))) = 0 := by
        rw [leadCount, fields_joined_shortenFields, leading_shortenFields, List.length_nil]
      rw [shorten_eq, hfree, if_pos (Nat.zero_lt_of_lt hroom), fields_joined_shortenFields, shortenFields_shortenFields]
    · calc (joined (shortenFields (fields cs))).length ≤ (joined (fields cs)).length := length_joined_shortenFields_le _
        _ = cs.length := by rw [joined_fields]
    · rw [fields_joined_shortenFields, length_shortenFields]
  · intro hfull
    rw [shorten_eq, if_neg (Nat.not_lt.2 hfull)]

/-- The empty field between two spaces ends the shortening. -/
theorem shorten_fields_gap :
    leadCount "public  slots".toList < maxDepth ∧
      ∃ fs, shorten maxDepth "public  slots".toList = .ok (joined fs) ∧
        fs = ["pub".toList, [], "slots".toList] := by
  have hroom : leadCount "public  slots".toList < maxDepth := by decide
  obtain ⟨fs, hshorten, hfields, -⟩ := (shorten_fields maxDepth "public  slots".toList).1 hroom
  refine ⟨hroom, fs, hshorten, ?_⟩
  have hdue : (fields "public  slots".toList).mapIdx (fun i f =>
      if IsDue (fields "public  slots".toList) i f then shortForm? f else some f) =
        ["pub".toList, [], "slots".toList].map some := by decide
  exact List.map_injective_iff.2 (fun _ _ => Option.some.inj) (hfields.trans hdue)

/-! ## Texts without a short form -/

/-- Specifiers in a row, and a word behind them. -/
def crowd : Nat → List Char
  | 0 => ['x']
  | n + 1 => "public ".toList ++ crowd n

theorem joined_crowd (n : Nat) : joined (List.replicate n "public".toList ++ [['x']]) = crowd n := by
  induction n with
  | zero => rfl
  | succ n ih =>
    rw [List.replicate_succ, List.cons_append,
      joined_cons (List.append_ne_nil_of_right_ne_nil _ (List.cons_ne_nil _ _)), ih]
    rfl

theorem leadCount_crowd (n : Nat) : leadCount (crowd n) = n := by
  have hspace : ∀ f ∈ List.replicate n "public".toList ++ [['x']], ' ' ∉ f := by
    intro f hf
    rcases List.mem_append.1 hf with hf | hf
    · rw [List.eq_of_mem_replicate hf]
      decide
    · rw [List.mem_singleton.1 hf]
      decide
  have hne : List.replicate n "public".toList ++ [['x']] ≠ [] :=
    List.append_ne_nil_of_right_ne_nil _ (List.cons_ne_nil _ _)
  have hlead : String.ofList "public".toList ∈ standard := by decide
  rw [leadCount, ← joined_crowd, fields_joined hne hspace, leading, List.dropLast_concat, List.takeWhile_replicate,
    if_pos (decide_eq_true hlead), List.length_replicate]

/-- A specifier that so many others lead up to has no short form. -/
theorem shorten_crowd : shorten maxDepth (crowd maxDepth) = .error .tooDeep := by
  rw [shorten_eq, leadCount_crowd, if_neg (Nat.lt_irrefl _)]

end Landmarks.Rule.AccessLabel
