import Landmarks.Proofs.Matching
import Landmarks.Proofs.Text
import Landmarks.Rule.Chain

/-!
# What the shapes have in common

Two facts about all shapes decide how they stand together in a chain.

* `Shape.find_slash` : a text that begins with a slash has no shape but that of a banner, and every
  banner begins with one (`Banner.exists_slash`). So banners share no line with another shape.
* `Shape.shown_find` : no shape but that of a banner gives a blank name. The names of types and functions
  are words of the line (`Rule.WordIn`), and an access label keeps the first letter of a specifier.

Both rest on `Shape.exists_of_find`, which says what each shape reads off a line (`Shape.Reads`).
-/

namespace Landmarks

open Text

theorem exists_of_map_eq_ok {ε α β : Type} {f : α → β} {x : Except ε α} {b : β} (h : x.map f = .ok b) :
    ∃ a, x = .ok a ∧ f a = b := by
  cases x with
  | error e => cases h
  | ok a => exact ⟨a, rfl, Except.ok.inj h⟩

/-! ## Names that show -/

namespace Rule

/-- A text whose first character is not blank. -/
def Shown (name : List Char) : Prop := (name.head?.any fun c => !isBlank c) = true

instance (name : List Char) : Decidable (Shown name) := inferInstanceAs (Decidable (_ = true))

theorem Shown.exists_cons {name : List Char} (h : Shown name) :
    ∃ c rest, name = c :: rest ∧ isBlank c = false := by
  cases name with
  | nil => simp [Shown] at h
  | cons c rest => exact ⟨c, rest, rfl, by simpa [Shown] using h⟩

theorem shown_cons {c : Char} (hc : isBlank c = false) (rest : List Char) : Shown (c :: rest) := by
  simp [Shown, hc]

theorem Shown.append {name : List Char} (h : Shown name) (rest : List Char) : Shown (name ++ rest) := by
  obtain ⟨c, tail, rfl, hc⟩ := h.exists_cons
  exact shown_cons hc _

theorem Shown.truncate {name : List Char} (h : Shown name) : Shown (truncate name) := by
  obtain ⟨c, tail, rfl, hc⟩ := h.exists_cons
  exact shown_cons hc _

theorem Shown.markerOf {name : List Char} (h : Shown name) (kind : Kind) :
    markerOf kind name = some { kind, name } := by
  obtain ⟨c, tail, rfl, hc⟩ := h.exists_cons
  rw [Landmarks.markerOf, trim, strip_cons_of_not hc, List.isEmpty_cons, if_neg Bool.false_ne_true]

theorem isBlankOrComment_eq_false_iff {cs : List Char} :
    isBlankOrComment cs = false ↔ (∃ c ∈ cs, isBlank c = false) ∧ ¬"//".toList <+: trimStart cs := by
  rw [isBlankOrComment, Bool.or_eq_false_iff, trim_isEmpty_eq_false_iff, ← List.isPrefixOf_iff_prefix,
    Bool.not_eq_true]

/-- A word of a text. -/
structure WordIn (name cs : List Char) : Prop where
  ne_nil : name ≠ []
  isWord : ∀ c ∈ name, isWord c = true
  inText : name <:+: cs

theorem WordIn.trans {name cs cs' : List Char} (h : WordIn name cs) (hcs : cs <:+: cs') :
    WordIn name cs' := ⟨h.ne_nil, h.isWord, h.inText.trans hcs⟩

theorem WordIn.shown {name cs : List Char} (h : WordIn name cs) : Shown name := by
  obtain ⟨c, rest, rfl⟩ := List.exists_cons_of_ne_nil h.ne_nil
  exact shown_cons (isBlank_of_isWord (h.isWord c List.mem_cons_self)) rest

/-- The word that a matcher finds behind others and hands on to what only consumes is a word of the text. -/
theorem wordIn_of_grab {lead : Next (List Char) → Next (List Char)} (hlead : Consumes lead)
    {tail : Next (List Char) → Next (List Char)} (htail : Consumes tail) {cs name : List Char}
    (h : lead (grab Text.isWord fun w => tail fun _ => some w) cs = some name) : WordIn name cs := by
  obtain ⟨mid, hmid, hgrab⟩ := hlead _ cs name h
  obtain ⟨w, rest, rfl, hne, hall, hafter⟩ := exists_of_grab hgrab
  obtain ⟨_, -, hw⟩ := htail _ rest name hafter
  obtain rfl : w = name := Option.some.inj hw
  exact ⟨hne, hall, (List.prefix_append w rest).isInfix.trans hmid.isInfix⟩

namespace TypeHead

theorem isWord_of_isNameStart {c : Char} (h : isNameStart c = true) : isWord c = true := by
  simp only [isNameStart, Bool.or_eq_true, Bool.and_eq_true, decide_eq_true_eq, beq_iff_eq] at h
  rcases h with ⟨hlow, hhigh⟩ | rfl
  · have hA : 0x41 ≤ c.toNat := hlow
    have hZ : c.toNat ≤ 0x5A := hhigh
    have hascii : c.toNat < 0x80 := by omega
    simp [isWord, hascii, hA, hZ]
  · rfl

theorem wordIn_pickName {captured name : List Char} (h : pickName captured = some name) :
    WordIn name captured := by
  have hname := List.find?_some h
  rw [canName, Bool.and_eq_true] at hname
  have hword : name ∈ words captured := List.mem_reverse.1 (List.mem_of_find?_eq_some h)
  cases name with
  | nil => exact absurd hname.2 (by simp [isTypeName])
  | cons c rest =>
    have htype := hname.2
    rw [isTypeName, Bool.and_eq_true] at htype
    refine ⟨List.cons_ne_nil c rest, List.forall_mem_cons.2 ⟨?_, ?_⟩, infix_of_mem_words hword⟩
    · exact isWord_of_isNameStart htype.1
    · exact List.all_eq_true.1 htype.2

theorem consumes_template : Consumes (α := List Char) template :=
  (consumes_word _).comp <| (consumes_many isBlank).comp <| (consumes_one _).comp <|
    (consumes_many _).comp <| (consumes_one _).comp (consumes_many isBlank)

theorem consumes_closing : Consumes (α := List Char) closing :=
  ((consumes_many isBlank).comp (consumes_one _)).or consumes_atEnd

theorem infix_cppDeclared {cs captured : List Char} (h : cppDeclared cs = some captured) :
    captured <:+: cs := by
  have hlead : Consumes (α := List Char) fun k =>
      many isBlank (optionally template (anyOf ["class".toList, "struct".toList] (many1 isBlank k))) :=
    (consumes_many isBlank).comp <| (consumes_optionally consumes_template).comp <|
      (consumes_anyOf _).comp (consumes_many1 isBlank)
  obtain ⟨mid, hmid, hgrab⟩ := hlead _ cs captured h
  obtain ⟨w, rest, rfl, -, -, hafter⟩ := exists_of_grabLeast hgrab
  obtain ⟨_, -, hw⟩ := consumes_closing _ rest captured hafter
  obtain rfl : w = captured := Option.some.inj hw
  exact (List.prefix_append w rest).isInfix.trans hmid.isInfix

theorem wordIn_csharpDeclared {cs name : List Char} (h : csharpDeclared cs = some name) :
    WordIn name cs := by
  have hlead : Consumes (α := List Char) fun k =>
      many isBlank (manyOf csharpModifiers (many1 isBlank) (anyOf csharpKeywords (many1 isBlank k))) :=
    (consumes_many isBlank).comp <| (consumes_manyOf _ (consumes_many1 isBlank)).comp <|
      (consumes_anyOf _).comp (consumes_many1 isBlank)
  exact wordIn_of_grab hlead consumes_self h

end TypeHead

namespace FunctionHead

theorem consumes_parameters : Consumes (α := List Char) parameters :=
  (consumes_one _).comp <| (consumes_many _).comp (consumes_one _)

theorem consumes_qualifier (w : String) : Consumes (α := List Char) (qualifier w) :=
  consumes_optionally ((consumes_word _).comp (consumes_many isBlank))

theorem consumes_cppTail : Consumes (α := List Char) cppTail :=
  (consumes_many isBlank).comp <| (consumes_qualifier _).comp <| (consumes_qualifier _).comp <|
    (consumes_qualifier _).comp <| (consumes_many isBlank).comp <| (consumes_one _).or consumes_atEnd

theorem consumes_csharpTail : Consumes (α := List Char) csharpTail :=
  (consumes_many isBlank).comp <| (consumes_word _).or <| (consumes_one _).or consumes_atEnd

theorem consumes_lead (p : Char → Bool) :
    Consumes (α := List Char) (optionally fun k => many1 p (many1 isBlank k)) :=
  consumes_optionally ((consumes_many1 p).comp (consumes_many1 isBlank))

theorem consumes_scope : Consumes (α := List Char) scope :=
  (consumes_many1 _).comp (consumes_word _)

theorem wordIn_cppName {cs name : List Char} (h : cppName cs = some name) : WordIn name cs :=
  wordIn_of_grab
    ((consumes_many isBlank).comp <| (consumes_lead isCppLead).comp (consumes_optionally consumes_scope))
    ((consumes_many isBlank).comp <| consumes_parameters.comp consumes_cppTail) h

theorem wordIn_csharpName {cs name : List Char} (h : csharpName cs = some name) : WordIn name cs :=
  wordIn_of_grab
    ((consumes_many isBlank).comp <| (consumes_manyOf _ consumes_self).comp <|
      (consumes_many isBlank).comp (consumes_lead isCsharpLead))
    ((consumes_many isBlank).comp <| consumes_parameters.comp consumes_csharpTail) h

end FunctionHead

namespace AccessLabel

theorem shown_of_isAny {ws : List String} (hws : ∀ w ∈ ws, Shown w.toList) {cs : List Char}
    (h : isAny ws cs = true) : Shown cs := by
  obtain ⟨w, hw, heq⟩ := List.any_eq_true.1 h
  rw [← eq_of_beq heq]
  exact hws w hw

theorem shown_of_isSpecifier {cs : List Char} (h : isSpecifier cs = true) : Shown cs := by
  rw [isSpecifier, Bool.or_eq_true, Bool.or_eq_true] at h
  rcases h with (h | h) | h
  · exact shown_of_isAny (by decide) h
  · exact shown_of_isAny (by decide) h
  · obtain ⟨lead, hlead, hpre⟩ := List.any_eq_true.1 h
    have hshown : ∀ lead ∈ leads, Shown lead := by decide
    obtain ⟨rest, rfl⟩ := List.isPrefixOf_iff_prefix.1 hpre
    exact (hshown lead hlead).append rest

theorem shown_shortForm {cs short : List Char} (h : shortForm? cs = some short) : Shown short := by
  have hshown : ∀ p ∈ shortForms, Shown p.2.toList := by decide
  obtain ⟨p, hp, rfl⟩ := Option.map_eq_some_iff.1 h
  exact hshown p (List.mem_of_find?_eq_some hp)

theorem shown_splitLead {cs head rest : List Char} (h : splitLead? cs = some (head, rest)) :
    Shown head := by
  have hshown : ∀ lead ∈ leads, Shown ((shortForm? lead.dropLast).getD lead.dropLast) := by decide
  obtain ⟨lead, hlead, heq⟩ := Option.map_eq_some_iff.1 h
  rw [Prod.mk.injEq] at heq
  rw [← heq.1]
  exact hshown lead (List.mem_of_find?_eq_some hlead)

theorem shown_shorten {room : Nat} {cs short : List Char} (hcs : Shown cs) (h : shorten room cs = .ok short) :
    Shown short := by
  cases room with
  | zero => simp [shorten] at h
  | succ room =>
    rw [shorten] at h
    split at h
    · rename_i word hword
      exact Except.ok.inj h ▸ shown_shortForm hword
    · split at h
      · rename_i head rest hsplit
        obtain ⟨tail, -, rfl⟩ := exists_of_map_eq_ok h
        exact (shown_splitLead hsplit).append _
      · exact Except.ok.inj h ▸ hcs

theorem shown_display {short : Bool} {w shown : List Char} (hw : Shown w) (h : display short w = .ok shown) :
    Shown shown := by
  rw [display] at h
  split at h
  · exact shown_shorten hw h
  · exact Except.ok.inj h ▸ hw

/-- The specifier of a label line, in full. -/
def specifier? (cs : List Char) : Option (List Char) :=
  let specifier := trim (stripEnd (· == ':') (trim cs))
  if [':'].isSuffixOf (trim cs) && isSpecifier specifier then some specifier else none

/-- Whether a line is a label does not depend on how the label is shown. -/
theorem find_of_specifier? {cs w : List Char} (h : specifier? cs = some w) (short : Bool) :
    find short cs = (display short w).map fun shown => some (truncate shown) := by
  unfold specifier? at h
  dsimp only at h
  split at h
  · rename_i hboth
    rw [Bool.and_eq_true] at hboth
    obtain rfl := Option.some.inj h
    unfold find
    dsimp only
    rw [if_pos hboth.1, if_pos hboth.2]
  · simp at h

theorem find_of_not_specifier {cs : List Char} (h : specifier? cs = none) (short : Bool) : find short cs = .ok none := by
  unfold specifier? at h
  dsimp only at h
  unfold find
  dsimp only
  split at h
  · simp at h
  · rename_i hboth
    split
    · rename_i hcolon
      rw [hcolon, Bool.true_and] at hboth
      rw [if_neg hboth]
    · rfl

theorem isSpecifier_of_specifier? {cs w : List Char} (h : specifier? cs = some w) :
    isSpecifier w = true := by
  unfold specifier? at h
  dsimp only at h
  split at h
  · rename_i hboth
    rw [Bool.and_eq_true] at hboth
    exact Option.some.inj h ▸ hboth.2
  · simp at h

/-- A label that is found shows its specifier. -/
theorem exists_of_find {short : Bool} {cs name : List Char} (h : find short cs = .ok (some name)) :
    ∃ specifier shown, specifier? cs = some specifier ∧ display short specifier = .ok shown ∧
      name = truncate shown := by
  cases hspec : specifier? cs with
  | none =>
    rw [find_of_not_specifier hspec] at h
    simp at h
  | some specifier =>
    rw [find_of_specifier? hspec] at h
    obtain ⟨shown, hshown, hname⟩ := exists_of_map_eq_ok h
    exact ⟨specifier, shown, rfl, hshown, (Option.some.inj hname).symm⟩

end AccessLabel

end Rule

theorem Rule.Banner.exists_of_find {cs name : List Char} (h : Rule.Banner.find cs = some name) :
    ∃ w, w <:+: cs ∧ name = Rule.truncate w := by
  unfold Rule.Banner.find at h
  split at h
  · exact ⟨_, (isInfix_strip _ _).trans (isSuffix_stripStart _ cs).isInfix, (Option.some.inj h).symm⟩
  · simp at h

/-- What a shape reads off a text, before it is cut to length. -/
def Shape.Reads (s : Shape) (flags : Flags) (cs w : List Char) : Prop :=
  match s with
  | .banner => w <:+: cs
  | .cppType | .csharpType => Rule.WordIn w cs
  | .cppFunction | .csharpFunction => Rule.WordIn w cs ∧ Rule.isKeyword w = false
  | .accessLabel => ∃ specifier, Rule.AccessLabel.specifier? cs = some specifier ∧
      Rule.AccessLabel.display flags.shortenAccessSpecifiers specifier = .ok w

theorem Shape.exists_of_find {s : Shape} {flags : Flags} {cs name : List Char}
    (h : s.find flags cs = .ok (some name)) : ∃ w, s.Reads flags cs w ∧ name = Rule.truncate w := by
  cases s with
  | banner => exact Rule.Banner.exists_of_find (Except.ok.inj h)
  | cppType =>
    simp only [Shape.find, Rule.TypeHead.findCpp, Except.ok.injEq] at h
    split at h
    · simp at h
    · obtain ⟨captured, hcaptured, hpick⟩ := Option.bind_eq_some_iff.1 h
      obtain ⟨w, hw, rfl⟩ := Option.map_eq_some_iff.1 hpick
      have hword := Rule.TypeHead.wordIn_pickName hw
      exact ⟨w, hword.trans (Rule.TypeHead.infix_cppDeclared hcaptured), rfl⟩
  | csharpType =>
    simp only [Shape.find, Rule.TypeHead.findCsharp, Except.ok.injEq] at h
    split at h
    · simp at h
    · obtain ⟨w, hw, rfl⟩ := Option.map_eq_some_iff.1 h
      exact ⟨w, Rule.TypeHead.wordIn_csharpDeclared hw, rfl⟩
  | cppFunction =>
    simp only [Shape.find, Rule.FunctionHead.findCpp, Except.ok.injEq] at h
    split at h
    · obtain ⟨w, hw, hkeep⟩ := Option.bind_eq_some_iff.1 h
      split at hkeep
      · simp at hkeep
      · rename_i hclear
        rw [Bool.or_eq_true, not_or, Bool.not_eq_true, Bool.not_eq_true] at hclear
        exact ⟨w, ⟨Rule.FunctionHead.wordIn_cppName hw, hclear.2⟩, (Option.some.inj hkeep).symm⟩
    · simp at h
  | csharpFunction =>
    simp only [Shape.find, Rule.FunctionHead.findCsharp, Except.ok.injEq] at h
    split at h
    · obtain ⟨w, hw, hkeep⟩ := Option.bind_eq_some_iff.1 h
      split at hkeep
      · simp at hkeep
      · rename_i hclear
        rw [Bool.not_eq_true] at hclear
        exact ⟨w, ⟨Rule.FunctionHead.wordIn_csharpName hw, hclear⟩, (Option.some.inj hkeep).symm⟩
    · simp at h
  | accessLabel =>
    obtain ⟨specifier, shown, hspec, hshown, rfl⟩ := Rule.AccessLabel.exists_of_find h
    exact ⟨shown, ⟨specifier, hspec, hshown⟩, rfl⟩

theorem Shape.shown_find {s : Shape} (hs : s ≠ .banner) {flags : Flags} {cs name : List Char}
    (h : s.find flags cs = .ok (some name)) : Rule.Shown name := by
  obtain ⟨w, hw, rfl⟩ := Shape.exists_of_find h
  cases s with
  | banner => exact absurd rfl hs
  | cppType | csharpType => exact hw.shown.truncate
  | cppFunction | csharpFunction => exact hw.1.shown.truncate
  | accessLabel =>
    obtain ⟨specifier, hspec, hshown⟩ := hw
    have hshows := Rule.AccessLabel.shown_of_isSpecifier (Rule.AccessLabel.isSpecifier_of_specifier? hspec)
    exact (Rule.AccessLabel.shown_display hshows hshown).truncate

/-! ## Lines that begin with a slash -/

namespace Rule

theorem Banner.exists_slash {cs name : List Char} (h : Banner.find cs = some name) :
    ∃ rest, cs = '/' :: rest := by
  unfold Banner.find at h
  split at h
  · rename_i hboth
    rw [Bool.and_eq_true] at hboth
    obtain ⟨w, hw, hpre⟩ := List.any_eq_true.1 hboth.1
    have hslash : ∀ w ∈ Banner.openers, w.toList.head? = some '/' := by decide
    obtain ⟨tail, htail⟩ := List.head?_eq_some_iff.1 (hslash w hw)
    obtain ⟨rest, rfl⟩ := List.isPrefixOf_iff_prefix.1 hpre
    exact ⟨tail ++ rest, by rw [htail]; rfl⟩
  · simp at h

theorem TypeHead.cppDeclared_slash (cs : List Char) : TypeHead.cppDeclared ('/' :: cs) = none := by
  have htemplate : ∀ k : Next (List Char), TypeHead.template k ('/' :: cs) = none :=
    fun k => word_cons_of_head_ne cs (by decide) _
  unfold TypeHead.cppDeclared
  rw [many_cons_of_not cs (by decide), optionally_of_none (htemplate _),
    anyOf_cons_of_head_ne cs (by decide)]

theorem TypeHead.csharpDeclared_slash (cs : List Char) :
    TypeHead.csharpDeclared ('/' :: cs) = none := by
  unfold TypeHead.csharpDeclared
  rw [many_cons_of_not cs (by decide), manyOf_cons_of_head_ne cs (by decide),
    anyOf_cons_of_head_ne cs (by decide)]

theorem FunctionHead.lead_cons_of_not {p : Char → Bool} {c : Char} (cs : List Char) (hc : p c = false)
    (k : Next (List Char)) : optionally (fun k => many1 p (many1 isBlank k)) k (c :: cs) = k (c :: cs) :=
  optionally_of_none (one_cons_of_not cs hc _)

theorem FunctionHead.cppName_slash (cs : List Char) : FunctionHead.cppName ('/' :: cs) = none := by
  have hscope : ∀ k : Next (List Char), FunctionHead.scope k ('/' :: cs) = none := by
    intro k
    rw [FunctionHead.scope, many1, one_cons_of_not cs (by decide)]
  unfold FunctionHead.cppName
  rw [many_cons_of_not cs (by decide), FunctionHead.lead_cons_of_not cs (by decide),
    optionally_of_none (hscope _), grab_cons_of_not cs (by decide)]

theorem FunctionHead.csharpName_slash (cs : List Char) :
    FunctionHead.csharpName ('/' :: cs) = none := by
  unfold FunctionHead.csharpName
  rw [many_cons_of_not cs (by decide), manyOf_cons_of_head_ne cs (by decide),
    many_cons_of_not cs (by decide), FunctionHead.lead_cons_of_not cs (by decide),
    grab_cons_of_not cs (by decide)]

theorem AccessLabel.specifier?_slash (cs : List Char) : AccessLabel.specifier? ('/' :: cs) = none := by
  have hslash : ∀ rest, AccessLabel.isSpecifier ('/' :: rest) = false := by
    intro rest
    simp [AccessLabel.isSpecifier, isAny, AccessLabel.standard, AccessLabel.signalLike, AccessLabel.leads,
      List.isPrefixOf_cons_cons]
  unfold AccessLabel.specifier?
  dsimp only
  rw [trim, strip_cons_of_not (by decide), stripEnd_cons_of_not (by decide), trim,
    strip_cons_of_not (by decide), hslash, Bool.and_false, if_neg Bool.false_ne_true]

end Rule

theorem Shape.find_slash {s : Shape} (hs : s ≠ .banner) (flags : Flags) (cs : List Char) :
    s.find flags ('/' :: cs) = .ok none := by
  cases s with
  | banner => exact absurd rfl hs
  | cppType => simp [Shape.find, Rule.TypeHead.findCpp, Rule.TypeHead.cppDeclared_slash]
  | csharpType => simp [Shape.find, Rule.TypeHead.findCsharp, Rule.TypeHead.csharpDeclared_slash]
  | cppFunction => simp [Shape.find, Rule.FunctionHead.findCpp, Rule.FunctionHead.cppName_slash]
  | csharpFunction => simp [Shape.find, Rule.FunctionHead.findCsharp, Rule.FunctionHead.csharpName_slash]
  | accessLabel => exact Rule.AccessLabel.find_of_not_specifier (Rule.AccessLabel.specifier?_slash cs) _

end Landmarks
