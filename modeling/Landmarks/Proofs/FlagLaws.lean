import Landmarks.Proofs.ScanLines
import Landmarks.Proofs.Shapes
import Landmarks.Proofs.ShortForms
import Mathlib.Data.List.Forall2

/-!
# What the flags do

In a chain where the first shape decides, switching a shape on or off could hide or uncover others.

* `classify_enable` : with more kinds shown, a marked line stays marked. Its marker changes only to one
  of a kind that comes earlier in the chain and was just switched on.
* `scan_post_filters` : headers and access specifiers are left out of a scan by leaving out their markers,
  and shortening changes no more than the names of access specifiers. But a label of too many words
  (`Rule.AccessLabel.tooLong`) has no short form, and its line is skipped.
-/

namespace Landmarks

open Text

/-- The flag that governs a kind of marker. -/
def Kind.flag : Kind → Flag
  | .header => .headers
  | .function => .functions
  | .type => .classes
  | .accessSpecifier => .accessSpecifiers

/-- The place of a kind in the order of precedence; the first one wins. -/
def Kind.rank : Kind → Nat
  | .header => 0
  | .type => 1
  | .function => 2
  | .accessSpecifier => 3

theorem Kind.rank_le (k : Kind) : k.rank ≤ Kind.accessSpecifier.rank := by cases k <;> decide

theorem Shape.flag_eq_headers (s : Shape) : s.flag = .headers ↔ s = .banner := by cases s <;> decide

theorem Shape.flag_eq_accessSpecifiers (s : Shape) : s.flag = .accessSpecifiers ↔ s = .accessLabel := by
  cases s <;> decide

theorem Shape.kind_eq_label (s : Shape) : s.kind = .accessSpecifier ↔ s = .accessLabel := by cases s <;> decide

theorem Shape.flag_ne_shorten (s : Shape) : s.flag ≠ .shortenAccessSpecifiers := by cases s <;> decide

theorem Shape.flag_kind (s : Shape) : s.kind.flag = s.flag := by cases s <;> rfl

theorem Mode.chain_ranked (mode : Mode) :
    mode.chain.Pairwise fun s t => s.kind.rank < t.kind.rank := by
  cases mode <;> decide

theorem Shape.find_of_ne_label {s : Shape} (hs : s ≠ .accessLabel) (f g : Flags) (cs : List Char) :
    s.find f cs = s.find g cs := by
  cases s with
  | accessLabel => exact absurd rfl hs
  | _ => rfl

theorem Shape.find_congr {f g : Flags} (hshort : g.shortenAccessSpecifiers = f.shortenAccessSpecifiers)
    (s : Shape) (cs : List Char) : s.find g cs = s.find f cs := by
  by_cases hs : s = .accessLabel
  · rw [hs, Shape.find, Shape.find, hshort]
  · exact Shape.find_of_ne_label hs g f cs

/-- Only labels may fail. -/
theorem Shape.eq_label_of_error {s : Shape} {f : Flags} {cs : List Char} {fault : Fault}
    (h : s.find f cs = .error fault) : s = .accessLabel := by
  cases s with
  | accessLabel => rfl
  | _ => simp [Shape.find] at h

/-! ## One step along a chain -/

section Step

variable {f : Flags} {cs : List Char} {r : Rule} (rest : List Rule)

theorem firstFit_cons_off (hoff : f.get r.flag = false) :
    firstFit f cs (r :: rest) = firstFit f cs rest := by
  rw [firstFit, hoff, if_neg Bool.false_ne_true]

theorem firstFit_cons_none (hnone : r.find f cs = .ok none) :
    firstFit f cs (r :: rest) = firstFit f cs rest := by
  rw [firstFit, hnone]
  split <;> rfl

theorem firstFit_cons_some (hon : f.get r.flag = true) {name : List Char}
    (hsome : r.find f cs = .ok (some name)) : firstFit f cs (r :: rest) = .ok (markerOf r.kind name) := by
  rw [firstFit, hon, if_pos rfl, hsome]

theorem firstFit_cons_error (hon : f.get r.flag = true) {fault : Fault} (hfault : r.find f cs = .error fault) :
    firstFit f cs (r :: rest) = .error fault := by
  rw [firstFit, hon, if_pos rfl, hfault]

end Step

theorem kind_of_markerOf {kind : Kind} {name : List Char} {m : Marker} (h : markerOf kind name = some m) :
    m.kind = kind := by
  rw [markerOf] at h
  split at h
  · simp at h
  · exact Option.some.inj h ▸ rfl

/-- A marker comes from a shape of the chain that is switched on and fits the text. -/
theorem exists_of_firstFit {f : Flags} {cs : List Char} {shapes : List Shape} {m : Marker}
    (h : firstFit f cs (shapes.map Shape.toRule) = .ok (some m)) :
    ∃ s ∈ shapes, f.get s.flag = true ∧ ∃ name, s.find f cs = .ok (some name) ∧ markerOf s.kind name = some m := by
  induction shapes with
  | nil => simp [firstFit] at h
  | cons s rest ih =>
    rw [List.map_cons] at h
    have hrest : firstFit f cs (rest.map Shape.toRule) = .ok (some m) → ∃ t ∈ s :: rest, f.get t.flag = true ∧
        ∃ name, t.find f cs = .ok (some name) ∧ markerOf t.kind name = some m := by
      intro h
      obtain ⟨t, ht, hfit⟩ := ih h
      exact ⟨t, List.mem_cons_of_mem s ht, hfit⟩
    cases hon : f.get s.flag with
    | false => exact hrest (firstFit_cons_off (r := s.toRule) _ hon ▸ h)
    | true =>
      cases hfind : s.find f cs with
      | error fault =>
        rw [firstFit_cons_error (r := s.toRule) _ hon hfind] at h
        cases h
      | ok answer =>
        cases answer with
        | none => exact hrest (firstFit_cons_none (r := s.toRule) _ hfind ▸ h)
        | some name =>
          rw [firstFit_cons_some (r := s.toRule) _ hon hfind] at h
          exact ⟨s, List.mem_cons_self, hon, name, hfind, Except.ok.inj h⟩

theorem firstFit_eq_none {f : Flags} {cs : List Char} {shapes : List Shape}
    (h : ∀ s ∈ shapes, s.find f cs = .ok none) : firstFit f cs (shapes.map Shape.toRule) = .ok none := by
  induction shapes with
  | nil => rfl
  | cons s rest ih =>
    obtain ⟨hs, hrest⟩ := List.forall_mem_cons.1 h
    rw [List.map_cons, firstFit_cons_none (r := s.toRule) _ hs, ih hrest]

/-- A banner has no shape that comes later in the chain. -/
theorem find_eq_none_of_banner {f g : Flags} {cs : List Char} {t : Shape}
    (hbanner : Shape.banner.find f cs ≠ .ok none) (ht : Shape.banner.kind.rank < t.kind.rank) :
    t.find g cs = .ok none := by
  have hfits : Rule.Banner.find cs ≠ none := fun hnone => hbanner (congrArg Except.ok hnone)
  obtain ⟨name, hname⟩ := Option.ne_none_iff_exists'.1 hfits
  obtain ⟨rest, rfl⟩ := Rule.Banner.exists_slash hname
  refine Shape.find_slash (fun heq => ?_) g rest
  rw [heq] at ht
  exact Nat.lt_irrefl _ ht

/-! ## Showing more -/

theorem firstFit_enable {f g : Flags} (hshort : g.shortenAccessSpecifiers = f.shortenAccessSpecifiers)
    (hon : ∀ flag, flag ≠ .shortenAccessSpecifiers → f.get flag = true → g.get flag = true)
    {cs : List Char} {shapes : List Shape}
    (hrank : shapes.Pairwise fun s t => s.kind.rank < t.kind.rank) {m : Marker}
    (h : firstFit f cs (shapes.map Shape.toRule) = .ok (some m)) :
    ∃ m', firstFit g cs (shapes.map Shape.toRule) = .ok (some m') ∧
      (m' = m ∨ (m'.kind.rank < m.kind.rank ∧ g.get m'.kind.flag = true ∧ f.get m'.kind.flag = false)) := by
  induction shapes with
  | nil => simp [firstFit] at h
  | cons s rest ih =>
    rw [List.pairwise_cons] at hrank
    rw [List.map_cons] at h ⊢
    have hfind := s.find_congr hshort cs
    cases hf : f.get s.flag with
    | true =>
      -- a shape that was on already answers as before
      have hg : g.get s.flag = true := hon s.flag s.flag_ne_shorten hf
      cases hname : s.find f cs with
      | error fault =>
        rw [firstFit_cons_error (r := s.toRule) _ hf hname] at h
        cases h
      | ok answer =>
        cases answer with
        | none =>
          rw [firstFit_cons_none (r := s.toRule) _ hname] at h
          rw [firstFit_cons_none (r := s.toRule) _ (hfind.trans hname)]
          exact ih hrank.2 h
        | some name =>
          rw [firstFit_cons_some (r := s.toRule) _ hf hname] at h
          rw [firstFit_cons_some (r := s.toRule) _ hg (hfind.trans hname)]
          exact ⟨m, h, Or.inl rfl⟩
    | false =>
      rw [firstFit_cons_off (r := s.toRule) _ hf] at h
      cases hg : g.get s.flag with
      | false =>
        rw [firstFit_cons_off (r := s.toRule) _ hg]
        exact ih hrank.2 h
      | true =>
        obtain ⟨t, ht, -, shown, hfit, hmarker⟩ := exists_of_firstFit h
        have hlater : s.kind.rank < m.kind.rank := kind_of_markerOf hmarker ▸ hrank.1 t ht
        cases hname : s.find f cs with
        | error fault =>
          -- a label comes last, so it takes the line from no other shape
          rw [Shape.eq_label_of_error hname] at hlater
          exact absurd hlater (Nat.not_lt.2 m.kind.rank_le)
        | ok answer =>
          cases answer with
          | none =>
            rw [firstFit_cons_none (r := s.toRule) _ (hfind.trans hname)]
            exact ih hrank.2 h
          | some name =>
            -- `s` takes the line from a later shape, so it is no banner and has a name that shows
            have hs : s ≠ .banner := by
              rintro rfl
              have hbanner : Shape.banner.find f cs ≠ .ok none := by simp [hname]
              exact absurd hfit (by simp [find_eq_none_of_banner hbanner (hrank.1 t ht)])
            rw [firstFit_cons_some (r := s.toRule) _ hg (hfind.trans hname)]
            refine ⟨_, congrArg Except.ok ((Shape.shown_find hs hname).markerOf s.kind), Or.inr ⟨hlater, ?_, ?_⟩⟩
            · exact s.flag_kind ▸ hg
            · exact s.flag_kind ▸ hf

/-- **Showing more loses no marked line.** -/
theorem classify_enable (mode : Mode) {f g : Flags}
    (hshort : g.shortenAccessSpecifiers = f.shortenAccessSpecifiers)
    (hon : ∀ flag, flag ≠ .shortenAccessSpecifiers → f.get flag = true → g.get flag = true)
    {text : List Char} {m : Marker} (h : classify mode f text = .ok (some m)) :
    ∃ m', classify mode g text = .ok (some m') ∧
      (m' = m ∨ (m'.kind.rank < m.kind.rank ∧ g.get m'.kind.flag = true ∧ f.get m'.kind.flag = false)) :=
  firstFit_enable hshort hon mode.chain_ranked h

/-- A class head behind which a function head comes to light when classes are hidden. -/
theorem classify_enable_classes :
    classify .clike { classes := false } "struct Box make(int n)".toList =
        .ok (some ⟨.function, "make".toList, 0, 0⟩) ∧
      classify .clike {} "struct Box make(int n)".toList = .ok (some ⟨.type, "Box".toList, 0, 0⟩) ∧
      ∃ m', classify .clike {} "struct Box make(int n)".toList = .ok (some m') ∧
        (m' = ⟨.function, "make".toList, 0, 0⟩ ∨ (m'.kind.rank < Kind.function.rank ∧
          Flags.get {} m'.kind.flag = true ∧ Flags.get { classes := false } m'.kind.flag = false)) :=
  ⟨by decide, by decide, classify_enable .clike (f := { classes := false }) (g := {})
    (m := ⟨.function, "make".toList, 0, 0⟩) rfl (fun flag _ => by cases flag <;> decide) (by decide)⟩

/-! ## Showing less -/

theorem shorten_set_of_ne (f : Flags) {flag : Flag} (hflag : flag ≠ .shortenAccessSpecifiers) (b : Bool) :
    (f.set flag b).shortenAccessSpecifiers = f.shortenAccessSpecifiers :=
  f.get_set_of_ne hflag.symm b

/-- If a text of a shape under the flag has no later shape, hiding the flag leaves out just its markers. -/
theorem answer?_firstFit_set_false (f : Flags) {flag : Flag} (hflag : flag ≠ .shortenAccessSpecifiers)
    {cs : List Char} {shapes : List Shape}
    (hclear : shapes.Pairwise fun s t => s.flag = flag → s.find f cs ≠ .ok none → t.find f cs = .ok none) :
    answer? (firstFit (f.set flag false) cs (shapes.map Shape.toRule)) =
      (answer? (firstFit (f.set flag true) cs (shapes.map Shape.toRule))).filter
        (fun m => decide (m.kind.flag ≠ flag)) := by
  have hfind : ∀ (s : Shape) (b : Bool), s.find (f.set flag b) cs = s.find f cs :=
    fun s b => s.find_congr (shorten_set_of_ne f hflag b) cs
  induction shapes with
  | nil => rfl
  | cons s rest ih =>
    rw [List.pairwise_cons] at hclear
    rw [List.map_cons]
    by_cases hnone : s.find f cs = .ok none
    · rw [firstFit_cons_none (r := s.toRule) _ ((hfind s false).trans hnone),
        firstFit_cons_none (r := s.toRule) _ ((hfind s true).trans hnone), ih hclear.2]
    by_cases hs : s.flag = flag
    · -- hidden, `s` leaves the text without a marker, and shown, it settles it
      have hoff : (f.set flag false).get s.flag = false := by rw [hs, Flags.get_set_self]
      have hon : (f.set flag true).get s.flag = true := by rw [hs, Flags.get_set_self]
      have hrest : firstFit (f.set flag false) cs (rest.map Shape.toRule) = .ok none := by
        refine firstFit_eq_none fun t ht => ?_
        rw [hfind t false]
        exact hclear.1 t ht hs hnone
      rw [firstFit_cons_off (r := s.toRule) _ hoff, hrest]
      cases hname : s.find f cs with
      | error fault => rw [firstFit_cons_error (r := s.toRule) _ hon ((hfind s true).trans hname)]; rfl
      | ok answer =>
        cases answer with
        | none => exact absurd hname hnone
        | some name =>
          rw [firstFit_cons_some (r := s.toRule) _ hon ((hfind s true).trans hname)]
          refine (Option.filter_eq_none_iff.2 fun m hm => ?_).symm
          simp [kind_of_markerOf hm, Shape.toRule, s.flag_kind, hs]
    · have hsame : (f.set flag false).get s.flag = (f.set flag true).get s.flag := by
        rw [f.get_set_of_ne hs, f.get_set_of_ne hs]
      cases hon : (f.set flag true).get s.flag with
      | false =>
        rw [firstFit_cons_off (r := s.toRule) _ (hsame.trans hon), firstFit_cons_off (r := s.toRule) _ hon, ih hclear.2]
      | true =>
        cases hname : s.find f cs with
        | error fault =>
          rw [firstFit_cons_error (r := s.toRule) _ (hsame.trans hon) ((hfind s false).trans hname),
            firstFit_cons_error (r := s.toRule) _ hon ((hfind s true).trans hname)]
          rfl
        | ok answer =>
          cases answer with
          | none => exact absurd hname hnone
          | some name =>
            rw [firstFit_cons_some (r := s.toRule) _ (hsame.trans hon) ((hfind s false).trans hname),
              firstFit_cons_some (r := s.toRule) _ hon ((hfind s true).trans hname), answer?]
            cases hm : markerOf s.toRule.kind name with
            | none => rfl
            | some m =>
              rw [Option.filter_some_pos (by simp [kind_of_markerOf hm, Shape.toRule, s.flag_kind, hs])]

/-- Headers and access specifiers hide no other shape: a banner has none, and a label comes last. -/
theorem marked?_set_false (mode : Mode) (f : Flags) {flag : Flag}
    (hflag : flag = .headers ∨ flag = .accessSpecifiers) (text : List Char) :
    marked? mode (f.set flag false) text =
      (marked? mode (f.set flag true) text).filter (fun m => decide (m.kind.flag ≠ flag)) := by
  refine answer?_firstFit_set_false f (by rcases hflag with rfl | rfl <;> decide) ?_
  refine mode.chain_ranked.imp fun {s t} hrank hs hfit => ?_
  rcases hflag with rfl | rfl
  · obtain rfl := s.flag_eq_headers.1 hs
    exact find_eq_none_of_banner hfit hrank
  · obtain rfl := s.flag_eq_accessSpecifiers.1 hs
    exact absurd hrank (Nat.not_lt.2 t.kind.rank_le)

theorem scan_set_false (mode : Mode) (f : Flags) {flag : Flag}
    (hflag : flag = .headers ∨ flag = .accessSpecifiers) (text : List Char) :
    scan mode (f.set flag false) text =
      (scan mode (f.set flag true) text).filter (fun m => decide (m.kind.flag ≠ flag)) := by
  rw [scan_eq_filterMap, scan_eq_filterMap, List.filter_filterMap]
  congr 1
  funext l
  rw [Line.mark, Line.mark, marked?_set_false mode f hflag, Option.filter_map]
  rfl

/-! ## Short labels -/

/-- Two markers that differ at most in the name of an access specifier. -/
def Marker.SameButLabel (m n : Marker) : Prop :=
  m.offset = n.offset ∧ m.line = n.line ∧ m.kind = n.kind ∧ (m.kind ≠ .accessSpecifier → m.name = n.name)

theorem sameButLabel_place {x y : Option Marker} (h : Option.Rel Marker.SameButLabel x y)
    (offset line : Int) : Option.Rel Marker.SameButLabel
      (x.map fun m => { m with offset, line }) (y.map fun m => { m with offset, line }) := by
  cases h with
  | none => exact .none
  | some hm => exact .some ⟨rfl, rfl, hm.2.2⟩

namespace Rule.AccessLabel

/-- Whether a line is a label with more specifiers in a row than there is room to shorten. -/
def tooLong (line : List Char) : Bool := (specifier? line).any fun w => decide (maxDepth ≤ leadCount w)

theorem tooLong_of_specifier? {line w : List Char} (h : specifier? line = some w) :
    tooLong line = decide (maxDepth ≤ leadCount w) := by
  rw [tooLong, h, Option.any_some]

theorem tooLong_trimStart (line : List Char) : tooLong (trimStart line) = tooLong line := by
  rw [tooLong, tooLong, specifier?, trim_trimStart, specifier?]

end Rule.AccessLabel

/-- Whether the marker of a line is lost when labels are shortened. -/
def Marker.isLost (line : List Char) (m : Marker) : Bool :=
  m.kind == .accessSpecifier && Rule.AccessLabel.tooLong line

/-- A label is found in both forms, and both show, unless it is too long to be shortened. -/
theorem answer?_label_shorten (f : Flags) (hon : ∀ b, (f.set .shortenAccessSpecifiers b).accessSpecifiers = true)
    {cs w : List Char} (hw : Rule.AccessLabel.specifier? cs = some w) (rest : List Rule) :
    Option.Rel Marker.SameButLabel
      ((answer? (firstFit (f.set .shortenAccessSpecifiers false) cs (Shape.accessLabel.toRule :: rest))).filter
        (!·.isLost cs))
      (answer? (firstFit (f.set .shortenAccessSpecifiers true) cs (Shape.accessLabel.toRule :: rest))) := by
  have hshows := Rule.AccessLabel.shown_of_isSpecifier (Rule.AccessLabel.isSpecifier_of_specifier? hw)
  have hfull : Shape.accessLabel.find (f.set .shortenAccessSpecifiers false) cs = .ok (some (Rule.truncate w)) :=
    Rule.AccessLabel.find_of_specifier? hw false
  have hshort : Shape.accessLabel.find (f.set .shortenAccessSpecifiers true) cs =
      (Rule.AccessLabel.shorten maxDepth w).map fun shown => some (Rule.truncate shown) :=
    Rule.AccessLabel.find_of_specifier? hw true
  rw [firstFit_cons_some (r := Shape.accessLabel.toRule) _ (hon false) hfull, answer?, hshows.truncate.markerOf]
  have hlost : Marker.isLost cs { kind := Shape.accessLabel.toRule.kind, name := Rule.truncate w } =
      decide (maxDepth ≤ Rule.AccessLabel.leadCount w) := Rule.AccessLabel.tooLong_of_specifier? hw
  by_cases hroom : Rule.AccessLabel.leadCount w < maxDepth
  · rw [decide_eq_false (Nat.not_le.2 hroom)] at hlost
    have heq := Rule.AccessLabel.shorten_eq maxDepth w
    rw [if_pos hroom] at heq
    rw [heq] at hshort
    rw [firstFit_cons_some (r := Shape.accessLabel.toRule) _ (hon true) hshort, answer?,
      (Rule.AccessLabel.shown_shorten hshows heq).truncate.markerOf, Option.filter_some_pos (by simp [hlost])]
    exact .some ⟨rfl, rfl, rfl, fun h => absurd rfl h⟩
  · rw [decide_eq_true (Nat.not_lt.1 hroom)] at hlost
    have heq := Rule.AccessLabel.shorten_eq maxDepth w
    rw [if_neg hroom] at heq
    rw [heq] at hshort
    rw [firstFit_cons_error (r := Shape.accessLabel.toRule) _ (hon true) hshort, answer?,
      Option.filter_some_neg (by simp [hlost])]
    exact .none

theorem answer?_firstFit_shorten (f : Flags) (cs : List Char) (shapes : List Shape) :
    Option.Rel Marker.SameButLabel
      ((answer? (firstFit (f.set .shortenAccessSpecifiers false) cs (shapes.map Shape.toRule))).filter
        (!·.isLost cs))
      (answer? (firstFit (f.set .shortenAccessSpecifiers true) cs (shapes.map Shape.toRule))) := by
  induction shapes with
  | nil => exact .none
  | cons s rest ih =>
    have hget : ∀ b, (f.set .shortenAccessSpecifiers b).get s.flag = f.get s.flag :=
      fun b => f.get_set_of_ne s.flag_ne_shorten b
    rw [List.map_cons]
    cases hon : f.get s.flag with
    | false =>
      rw [firstFit_cons_off (r := s.toRule) _ ((hget false).trans hon),
        firstFit_cons_off (r := s.toRule) _ ((hget true).trans hon)]
      exact ih
    | true =>
      by_cases hs : s = .accessLabel
      · subst hs
        cases hw : Rule.AccessLabel.specifier? cs with
        | none =>
          have hnone : ∀ b, Shape.accessLabel.find (f.set .shortenAccessSpecifiers b) cs = .ok none :=
            fun b => Rule.AccessLabel.find_of_not_specifier hw b
          rw [firstFit_cons_none (r := Shape.accessLabel.toRule) _ (hnone false),
            firstFit_cons_none (r := Shape.accessLabel.toRule) _ (hnone true)]
          exact ih
        | some w => exact answer?_label_shorten f (fun b => (hget b).trans hon) hw _
      · have hfind := Shape.find_of_ne_label hs (f.set .shortenAccessSpecifiers false)
          (f.set .shortenAccessSpecifiers true) cs
        cases hname : s.find (f.set .shortenAccessSpecifiers true) cs with
        | error fault => exact absurd (Shape.eq_label_of_error hname) hs
        | ok answer =>
          cases answer with
          | none =>
            rw [firstFit_cons_none (r := s.toRule) _ (hfind.trans hname),
              firstFit_cons_none (r := s.toRule) _ hname]
            exact ih
          | some name =>
            rw [firstFit_cons_some (r := s.toRule) _ ((hget false).trans hon) (hfind.trans hname),
              firstFit_cons_some (r := s.toRule) _ ((hget true).trans hon) hname, answer?]
            cases hm : markerOf s.toRule.kind name with
            | none => exact .none
            | some m =>
              have hkind : m.kind ≠ .accessSpecifier := by
                rw [kind_of_markerOf hm]
                exact fun h => hs (s.kind_eq_label.1 h)
              rw [Option.filter_some_pos (by simp [Marker.isLost, hkind])]
              exact .some ⟨rfl, rfl, rfl, fun _ => rfl⟩

theorem marked?_shorten (mode : Mode) (f : Flags) (line : List Char) :
    Option.Rel Marker.SameButLabel
      ((marked? mode (f.set .shortenAccessSpecifiers false) line).filter (!·.isLost line))
      (marked? mode (f.set .shortenAccessSpecifiers true) line) := by
  have hrel := answer?_firstFit_shorten f (trimStart line) mode.chain
  simp only [Marker.isLost, Rule.AccessLabel.tooLong_trimStart] at hrel ⊢
  exact hrel

/-- Whether a marker of a text is lost when labels are shortened. -/
def Marker.isLostIn (text : List Char) (m : Marker) : Bool := m.isLost (Document.lineAt text m.offset.toNat)

theorem scan_shorten (mode : Mode) (f : Flags) (text : List Char) :
    List.Forall₂ Marker.SameButLabel
      ((scan mode (f.set .shortenAccessSpecifiers false) text).filter (!·.isLostIn text))
      (scan mode (f.set .shortenAccessSpecifiers true) text) := by
  have hline : ∀ p : Nat, Option.Rel Marker.SameButLabel
      (((marked? mode (f.set .shortenAccessSpecifiers false) (Document.lineAt text p)).map fun m =>
        { m with offset := (p : Int), line := 1 + (Document.linesBefore text p : Int) }).filter (!·.isLostIn text))
      ((marked? mode (f.set .shortenAccessSpecifiers true) (Document.lineAt text p)).map fun m =>
        { m with offset := (p : Int), line := 1 + (Document.linesBefore text p : Int) }) := by
    intro p
    rw [Option.filter_map]
    refine sameButLabel_place ?_ p _
    simp only [Function.comp_def, Marker.isLostIn, Int.toNat_natCast]
    exact marked?_shorten mode f _
  rw [scan_eq_starts, scan_eq_starts, List.filter_filterMap]
  refine List.rel_filterMap (R := Eq) (fun p p' heq => heq ▸ hline p) ?_
  exact List.forall₂_eq_eq_eq ▸ rfl

/-- **Three flags filter the finished scan.** Hiding headers or access specifiers leaves out their markers.
Shortening access specifiers renames them and nothing else, but those that are too long to be shortened are
lost. -/
theorem scan_post_filters (mode : Mode) (f : Flags) (text : List Char) :
    scan mode (f.set .headers false) text =
        (scan mode (f.set .headers true) text).filter (fun m => decide (m.kind ≠ .header)) ∧
      scan mode (f.set .accessSpecifiers false) text =
        (scan mode (f.set .accessSpecifiers true) text).filter (fun m => decide (m.kind ≠ .accessSpecifier)) ∧
      List.Forall₂ Marker.SameButLabel
        ((scan mode (f.set .shortenAccessSpecifiers false) text).filter (!·.isLostIn text))
        (scan mode (f.set .shortenAccessSpecifiers true) text) ∧
      (List.Forall₂ Marker.SameButLabel
          (scan mode (f.set .shortenAccessSpecifiers false) text)
          (scan mode (f.set .shortenAccessSpecifiers true) text) ↔
        ∀ m ∈ scan mode (f.set .shortenAccessSpecifiers false) text, m.isLostIn text = false) := by
  have hheader : ∀ k : Kind, k.flag ≠ .headers ↔ k ≠ .header := by intro k; cases k <;> decide
  have hlabel : ∀ k : Kind, k.flag ≠ .accessSpecifiers ↔ k ≠ .accessSpecifier := by
    intro k; cases k <;> decide
  have hshort := scan_shorten mode f text
  refine ⟨?_, ?_, hshort, ?_⟩
  · rw [scan_set_false mode f (Or.inl rfl)]
    exact List.filter_congr fun m _ => decide_eq_decide.2 (hheader m.kind)
  · rw [scan_set_false mode f (Or.inr rfl)]
    exact List.filter_congr fun m _ => decide_eq_decide.2 (hlabel m.kind)
  · constructor
    · intro hsame m hm
      -- with as many markers in both scans, none was lost
      have hlength := hshort.length_eq.trans hsame.length_eq.symm
      simpa using List.length_filter_eq_length_iff.1 hlength m hm
    · intro hkept
      rwa [List.filter_eq_self.2 fun m hm => by simp [hkept m hm]] at hshort

/-! ## A label that is lost -/

namespace Rule.AccessLabel

theorem endsOutside_crowd {p : Char → Bool} (hp : p 'x' = false) (n : Nat) : EndsOutside p (crowd n) := by
  induction n with
  | zero => exact endsOutside_concat hp []
  | succ n ih =>
    refine endsOutside_append ?_ ih _
    cases n <;> exact List.cons_ne_nil _ _

theorem specifier?_crowd (n : Nat) : specifier? (crowd (n + 1) ++ [':']) = some (crowd (n + 1)) := by
  have htrim : ∀ {a : List Char}, StartsOutside isBlank a → EndsOutside isBlank a → trim a = a := by
    intro a hstart hend
    have hstrip := strip_surround (List.forall_mem_nil _) hstart hend (List.forall_mem_nil _)
    rwa [List.nil_append, List.append_nil] at hstrip
  have hlabel : trim (crowd (n + 1) ++ [':']) = crowd (n + 1) ++ [':'] :=
    htrim (startsOutside_cons (by decide) _) (endsOutside_concat (by decide) _)
  have hname : stripEnd (· == ':') (crowd (n + 1) ++ [':']) = crowd (n + 1) := by
    rw [stripEnd_append_run _ (List.forall_mem_singleton.2 rfl), stripEnd_eq_self (endsOutside_crowd rfl _)]
  have hinner : trim (crowd (n + 1)) = crowd (n + 1) :=
    htrim (startsOutside_cons (by decide) _) (endsOutside_crowd (by decide) _)
  have hcolon : [':'].isSuffixOf (crowd (n + 1) ++ [':']) = true := List.isSuffixOf_iff_suffix.2 (List.suffix_append _ _)
  have hspec : isSpecifier (crowd (n + 1)) = true := by
    have hlead : leads.any (·.isPrefixOf (crowd (n + 1))) = true :=
      List.any_eq_true.2 ⟨"public ".toList, by decide, List.isPrefixOf_iff_prefix.2 (List.prefix_append _ _)⟩
    rw [isSpecifier, hlead, Bool.or_true]
  unfold specifier?
  dsimp only
  rw [hlabel, hname, hinner, hcolon, hspec, Bool.and_self, if_pos rfl]

theorem crowd_no_break (n : Nat) : ∀ c ∈ crowd n ++ [':'], Document.isBreakChar c = false := by
  have hword : ("public x:".toList.all fun c => !Document.isBreakChar c) = true := by decide
  have hcrowd : ∀ c ∈ crowd n, c ∈ "public x:".toList := by
    induction n with
    | zero => exact List.forall_mem_singleton.2 (by decide)
    | succ n ih =>
      intro c hc
      rcases List.mem_append.1 hc with hc | hc
      · exact List.mem_append_left "x:".toList hc
      · exact ih c hc
  intro c hc
  have hmem : c ∈ "public x:".toList := by
    rcases List.mem_append.1 hc with hc | hc
    · exact hcrowd c hc
    · exact List.mem_singleton.1 hc ▸ by decide
  simpa using List.all_eq_true.1 hword c hmem

end Rule.AccessLabel

/-- Access specifiers are shown and nothing else. -/
def Flags.onlyLabels (short : Bool) : Flags := ⟨false, false, false, true, short⟩

theorem scan_onlyLabels {text : List Char} (hstart : StartsOutside isBlank text)
    (htext : ∀ c ∈ text, Document.isBreakChar c = false) (short : Bool) :
    scan .clike (.onlyLabels short) text =
      ((answer? (firstFit (.onlyLabels short) text [Shape.accessLabel.toRule])).map fun m =>
        { m with offset := 0, line := 1 }).toList := by
  have hchain : Mode.clike.chain = [.banner, .cppType, .cppFunction, .accessLabel] := by decide
  have htrim : trimStart text = text := trimStart_append (List.forall_mem_nil _) hstart
  have hfirst : classify .clike (.onlyLabels short) text =
      firstFit (.onlyLabels short) text [Shape.accessLabel.toRule] := by
    rw [classify, classifyWith, htrim, Mode.rules, hchain, List.map_cons, List.map_cons, List.map_cons,
      firstFit_cons_off _ rfl, firstFit_cons_off _ rfl, firstFit_cons_off _ rfl]
    rfl
  rw [scan_eq_filterMap, Document.linesAt_of_no_break htext, ← hfirst, List.filterMap_cons, List.filterMap_nil,
    Line.mark, marked?]
  cases answer? (classify .clike (.onlyLabels short) text) <;> rfl

theorem scan_crowd {n : Nat} (hn : maxDepth ≤ n + 1) :
    scan .clike (.onlyLabels false) (Rule.AccessLabel.crowd (n + 1) ++ [':']) =
        [⟨.accessSpecifier, Rule.truncate (Rule.AccessLabel.crowd (n + 1)), 0, 1⟩] ∧
      scan .clike (.onlyLabels true) (Rule.AccessLabel.crowd (n + 1) ++ [':']) = [] := by
  have hw := Rule.AccessLabel.specifier?_crowd n
  have hshows := Rule.AccessLabel.shown_of_isSpecifier (Rule.AccessLabel.isSpecifier_of_specifier? hw)
  have hstart : StartsOutside isBlank (Rule.AccessLabel.crowd (n + 1) ++ [':']) := startsOutside_cons (by decide) _
  have hscan := scan_onlyLabels hstart (Rule.AccessLabel.crowd_no_break (n + 1))
  constructor
  · have hfind : Shape.accessLabel.find (.onlyLabels false) (Rule.AccessLabel.crowd (n + 1) ++ [':']) =
        .ok (some (Rule.truncate (Rule.AccessLabel.crowd (n + 1)))) := Rule.AccessLabel.find_of_specifier? hw false
    rw [hscan, firstFit_cons_some (r := Shape.accessLabel.toRule) _ rfl hfind, answer?, hshows.truncate.markerOf]
    rfl
  · have hfind : Shape.accessLabel.find (.onlyLabels true) (Rule.AccessLabel.crowd (n + 1) ++ [':']) =
        (Rule.AccessLabel.shorten maxDepth (Rule.AccessLabel.crowd (n + 1))).map fun shown =>
          some (Rule.truncate shown) := Rule.AccessLabel.find_of_specifier? hw true
    rw [Rule.AccessLabel.shorten_eq, Rule.AccessLabel.leadCount_crowd, if_neg (Nat.not_lt.2 hn)] at hfind
    rw [hscan, firstFit_cons_error (r := Shape.accessLabel.toRule) _ rfl hfind]
    rfl

/-- Shortening does not just rename: it loses a label of too many words. -/
theorem scan_shorten_crowd :
    ¬List.Forall₂ Marker.SameButLabel
      (scan .clike ((Flags.onlyLabels true).set .shortenAccessSpecifiers false)
        (Rule.AccessLabel.crowd (maxDepth + 1) ++ [':']))
      (scan .clike ((Flags.onlyLabels true).set .shortenAccessSpecifiers true)
        (Rule.AccessLabel.crowd (maxDepth + 1) ++ [':'])) := by
  intro h
  obtain ⟨hfull, hshort⟩ := scan_crowd (Nat.le_succ maxDepth)
  have hshown : (Flags.onlyLabels true).set .shortenAccessSpecifiers false = .onlyLabels false := rfl
  have hcut : (Flags.onlyLabels true).set .shortenAccessSpecifiers true = .onlyLabels true := rfl
  have hsame := h.length_eq
  rw [hshown, hcut, hfull, hshort] at hsame
  cases hsame

end Landmarks
