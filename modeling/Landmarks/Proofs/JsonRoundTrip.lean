import Landmarks.Proofs.JsonReadable

/-!
# JSON reads back what it writes

* `Json.ReadsBack` : with some fuel, texts whose length is within it are read back.
* `Json.parse_pretty_of_printable` : the written form of a printable value is read, as `Json.readBack` says.
* `Json.parse_pretty` : the written form of a readable value is read as the value.
* `Json.no_return_pretty` : the written form has no carriage return.
-/

namespace Landmarks.Json

/-! ## What is written is read -/

theorem skipGap_cons {c : Char} (h : isGap c = false) (cs : List Char) : skipGap (c :: cs) = c :: cs :=
  List.dropWhile_cons_of_neg (by simp [h])

theorem skipGap_newline (level : ℕ) (cs : List Char) : skipGap (newline level ++ cs) = skipGap cs := by
  refine List.dropWhile_append_of_pos fun c hc => ?_
  rcases List.mem_cons.1 hc with rfl | hc
  · rfl
  · rw [List.eq_of_mem_replicate hc]
    rfl

theorem stops_nil : Stops [] := fun c hc => by cases hc

theorem stops_cons {c : Char} (h : c = ',' ∨ c = '\n') (cs : List Char) : Stops (c :: cs) := by
  intro d hd
  cases hd
  rcases h with rfl | rfl <;> decide

/-- The first character of a scalar starts nothing else. -/
theorem head_of_scalar {cs : List Char} {r : Json × List Char} (h : scalar cs = .ok r) :
    ∃ c tail, cs = c :: tail ∧ isGap c = false ∧ c ≠ ']' ∧ c ≠ '[' ∧ c ≠ '{' := by
  cases cs with
  | nil => cases h
  | cons c tail =>
    refine ⟨c, tail, rfl, ?_, ?_, ?_, ?_⟩
    · by_contra hgap
      simp only [isGap, Bool.not_eq_false, Bool.or_eq_true, beq_iff_eq] at hgap
      rcases hgap with ((rfl | rfl) | rfl) | rfl <;> cases h
    all_goals
      rintro rfl
      cases h

theorem value_of_scalar {cs : List Char} {r : Json × List Char} (h : scalar cs = .ok r) (fuel : ℕ) :
    value (fuel + 1) cs = .ok r := by
  obtain ⟨c, tail, rfl, -, -, harr, hobj⟩ := head_of_scalar h
  unfold value
  split
  · rename_i heq
    cases heq
    exact absurd rfl harr
  · rename_i heq
    cases heq
    exact absurd rfl hobj
  · exact h

theorem head_prettyChars (level : ℕ) {v : Json} (hv : Printable v) :
    ∃ c tail, prettyChars level v = c :: tail ∧ isGap c = false ∧ c ≠ ']' := by
  have hscalar : ∀ v, Plain v → ∃ c tail, scalarText v = c :: tail ∧ isGap c = false ∧ c ≠ ']' := by
    intro v hv
    have hread := scalar_scalarText hv stops_nil
    rw [List.append_nil] at hread
    obtain ⟨c, tail, hcs, hgap, hclose, -⟩ := head_of_scalar hread
    exact ⟨c, tail, hcs, hgap, hclose⟩
  cases v with
  | null => exact hscalar null trivial
  | bool b => exact hscalar (bool b) trivial
  | int i => exact hscalar (int i) hv
  | float x => exact hscalar (float x) hv
  | str s => exact hscalar (str s) trivial
  | arr xs => cases xs <;> exact ⟨'[', _, rfl, rfl, by decide⟩
  | obj fs => cases fs <;> exact ⟨'{', _, rfl, rfl, by decide⟩

theorem skipGap_prettyChars (level : ℕ) {v : Json} (hv : Printable v) (rest : List Char) :
    skipGap (prettyChars level v ++ rest) = prettyChars level v ++ rest := by
  obtain ⟨c, tail, hcs, hgap, -⟩ := head_prettyChars level hv
  rw [hcs, List.cons_append, skipGap_cons hgap]

/-- The text behind an item: the closing bracket, or a comma and the items that follow. -/
def afterItem (level outer : ℕ) (xs : List Json) (rest : List Char) : List Char :=
  match xs with
  | [] => newline outer ++ ']' :: rest
  | y :: ys => ',' :: (prettyItems level (y :: ys) ++ (newline outer ++ ']' :: rest))

theorem prettyItems_append (level outer : ℕ) (x : Json) (xs : List Json) (rest : List Char) :
    prettyItems level (x :: xs) ++ (newline outer ++ ']' :: rest) =
      newline level ++ (prettyChars level x ++ afterItem level outer xs rest) := by
  cases xs <;> simp [prettyItems, afterItem]

theorem stops_afterItem (level outer : ℕ) (xs : List Json) (rest : List Char) :
    Stops (afterItem level outer xs rest) := by
  cases xs with
  | nil => exact stops_cons (.inr rfl) _
  | cons y ys => exact stops_cons (.inl rfl) _

/-- The text behind a field. -/
def afterField (level outer : ℕ) (fs : Fields) (rest : List Char) : List Char :=
  match fs with
  | [] => newline outer ++ '}' :: rest
  | g :: gs => ',' :: (prettyFields level (g :: gs) ++ (newline outer ++ '}' :: rest))

theorem prettyFields_append (level outer : ℕ) (key : Str) (v : Json) (fs : Fields) (rest : List Char) :
    prettyFields level ((key, v) :: fs) ++ (newline outer ++ '}' :: rest) =
      newline level ++ (quoted key ++ ':' :: ' ' :: (prettyChars level v ++ afterField level outer fs rest)) := by
  cases fs <;> simp [prettyFields, afterField]

theorem stops_afterField (level outer : ℕ) (fs : Fields) (rest : List Char) :
    Stops (afterField level outer fs rest) := by
  cases fs with
  | nil => exact stops_cons (.inr rfl) _
  | cons g gs => exact stops_cons (.inl rfl) _

/-- With some fuel, texts whose length is within it are read back. -/
structure ReadsBack (fuel : ℕ) : Prop where
  value : ∀ v level rest, Printable v → Stops rest → (prettyChars level v).length ≤ fuel →
    value fuel (prettyChars level v ++ rest) = .ok (v.readBack, rest)
  items : ∀ acc x xs level outer rest, PrintableItems (x :: xs) → (prettyItems level (x :: xs)).length ≤ fuel →
    items fuel acc (skipGap (prettyItems level (x :: xs) ++ (newline outer ++ ']' :: rest))) =
      .ok (arr (acc.reverse ++ readBackItems (x :: xs)), rest)
  members : ∀ acc f fs level outer rest, PrintableFields (f :: fs) → (prettyFields level (f :: fs)).length ≤ fuel →
    members fuel acc (skipGap (prettyFields level (f :: fs) ++ (newline outer ++ '}' :: rest))) =
      .ok (obj (readBackFields acc (f :: fs)), rest)

variable {fuel : ℕ}

theorem length_newline_pos (level : ℕ) : 0 < (newline level).length := Nat.succ_pos _

theorem readsBack_zero : ReadsBack 0 where
  value v level rest hv _ hfuel := by
    obtain ⟨c, tail, hcs, -⟩ := head_prettyChars level hv
    simp [hcs] at hfuel
  items acc x xs level outer rest _ hfuel := by
    have hpos : 0 < (prettyItems level (x :: xs)).length := by cases xs <;> simp [prettyItems, newline]
    omega
  members acc f fs level outer rest _ hfuel := by
    have hpos : 0 < (prettyFields level (f :: fs)).length := by cases fs <;> simp [prettyFields, newline]
    omega

theorem ReadsBack.items_succ (h : ReadsBack fuel) (acc : List Json) (x : Json) (xs : List Json) (level outer : ℕ)
    (rest : List Char) (hxs : PrintableItems (x :: xs)) (hfuel : (prettyItems level (x :: xs)).length ≤ fuel + 1) :
    Json.items (fuel + 1) acc (skipGap (prettyItems level (x :: xs) ++ (newline outer ++ ']' :: rest))) =
      .ok (arr (acc.reverse ++ readBackItems (x :: xs)), rest) := by
  have hnewline := length_newline_pos level
  have hfirst : (prettyChars level x).length ≤ fuel := by
    cases xs <;> simp [prettyItems] at hfuel <;> omega
  rw [prettyItems_append, skipGap_newline, skipGap_prettyChars level hxs.1, Json.items,
    h.value x level _ hxs.1 (stops_afterItem level outer xs rest) hfirst]
  cases xs with
  | nil =>
    simp only [afterItem, skipGap_newline, skipGap_cons (show isGap ']' = false from rfl)]
    rw [List.reverse_cons]
    rfl
  | cons y ys =>
    have hlater : (prettyItems level (y :: ys)).length ≤ fuel := by
      simp [prettyItems] at hfuel
      omega
    simp only [afterItem, skipGap_cons (show isGap ',' = false from rfl)]
    rw [h.items (x.readBack :: acc) y ys level outer rest hxs.2 hlater, List.reverse_cons, List.append_assoc,
      List.singleton_append]
    rfl

theorem ReadsBack.members_succ (h : ReadsBack fuel) (acc : Fields) (f : Str × Json) (fs : Fields) (level outer : ℕ)
    (rest : List Char) (hfs : PrintableFields (f :: fs)) (hfuel : (prettyFields level (f :: fs)).length ≤ fuel + 1) :
    Json.members (fuel + 1) acc (skipGap (prettyFields level (f :: fs) ++ (newline outer ++ '}' :: rest))) =
      .ok (obj (readBackFields acc (f :: fs)), rest) := by
  obtain ⟨key, v⟩ := f
  have hnewline := length_newline_pos level
  have hfirst : (prettyChars level v).length ≤ fuel := by
    cases fs <;> simp [prettyFields] at hfuel <;> omega
  have hquote : skipGap (quoted key ++ ':' :: ' ' :: (prettyChars level v ++ afterField level outer fs rest)) =
      quoted key ++ ':' :: ' ' :: (prettyChars level v ++ afterField level outer fs rest) :=
    skipGap_cons (show isGap '"' = false from rfl) _
  have hspace : skipGap (' ' :: (prettyChars level v ++ afterField level outer fs rest)) =
      prettyChars level v ++ afterField level outer fs rest :=
    skipGap_prettyChars level hfs.1 _
  rw [prettyFields_append, skipGap_newline, hquote, Json.members, string_quoted]
  simp only [skipGap_cons (show isGap ':' = false from rfl), hspace,
    h.value v level _ hfs.1 (stops_afterField level outer fs rest) hfirst]
  cases fs with
  | nil =>
    simp only [afterField, skipGap_newline, skipGap_cons (show isGap '}' = false from rfl)]
    rfl
  | cons g gs =>
    have hlater : (prettyFields level (g :: gs)).length ≤ fuel := by
      simp [prettyFields] at hfuel
      omega
    simp only [afterField, skipGap_cons (show isGap ',' = false from rfl)]
    rw [h.members (Named.put key.joined v.readBack acc) g gs level outer rest hfs.2 hlater]
    rfl

theorem value_arr {cs : List Char} (hclose : (skipGap cs).head? ≠ some ']') (fuel : ℕ) :
    value (fuel + 1) ('[' :: cs) = items fuel [] (skipGap cs) := by
  rw [value]
  split
  · rename_i heq
    rw [heq] at hclose
    exact absurd rfl hclose
  · rfl

theorem value_obj {cs : List Char} (hclose : (skipGap cs).head? ≠ some '}') (fuel : ℕ) :
    value (fuel + 1) ('{' :: cs) = members fuel [] (skipGap cs) := by
  rw [value]
  split
  · rename_i heq
    rw [heq] at hclose
    exact absurd rfl hclose
  · rfl

theorem ReadsBack.value_succ (h : ReadsBack fuel) (v : Json) (level : ℕ) (rest : List Char) (hv : Printable v)
    (hrest : Stops rest) (hfuel : (prettyChars level v).length ≤ fuel + 1) :
    Json.value (fuel + 1) (prettyChars level v ++ rest) = .ok (v.readBack, rest) := by
  cases v with
  | null => exact value_of_scalar (scalar_scalarText (v := null) trivial hrest) fuel
  | bool b => exact value_of_scalar (scalar_scalarText (v := bool b) trivial hrest) fuel
  | int i => exact value_of_scalar (scalar_scalarText (v := int i) hv hrest) fuel
  | float x => exact value_of_scalar (scalar_scalarText (v := float x) hv hrest) fuel
  | str s => exact value_of_scalar (scalar_scalarText (v := str s) trivial hrest) fuel
  | arr xs =>
    cases xs with
    | nil => rfl
    | cons x xs =>
      have hlength : (prettyItems (level + 1) (x :: xs)).length ≤ fuel := by
        simp [prettyChars] at hfuel
        omega
      have hsplit : prettyChars level (arr (x :: xs)) ++ rest =
          '[' :: (prettyItems (level + 1) (x :: xs) ++ (newline level ++ ']' :: rest)) := by simp [prettyChars]
      rw [hsplit, value_arr, h.items [] x xs (level + 1) level rest hv hlength]
      · rfl
      · obtain ⟨c, tail, hcs, -, hclose⟩ := head_prettyChars (level + 1) hv.1
        rw [prettyItems_append, skipGap_newline, skipGap_prettyChars _ hv.1, hcs]
        simpa using hclose
  | obj fs =>
    cases fs with
    | nil => rfl
    | cons f fs =>
      have hlength : (prettyFields (level + 1) (f :: fs)).length ≤ fuel := by
        simp [prettyChars] at hfuel
        omega
      have hsplit : prettyChars level (obj (f :: fs)) ++ rest =
          '{' :: (prettyFields (level + 1) (f :: fs) ++ (newline level ++ '}' :: rest)) := by simp [prettyChars]
      rw [hsplit, value_obj, h.members [] f fs (level + 1) level rest hv hlength]
      · rfl
      · rw [prettyFields_append, skipGap_newline, quoted, List.cons_append, List.cons_append,
          skipGap_cons (show isGap '"' = false from rfl)]
        simp

theorem readsBack (fuel : ℕ) : ReadsBack fuel := by
  induction fuel with
  | zero => exact readsBack_zero
  | succ fuel ih => exact ⟨ih.value_succ, ih.items_succ, ih.members_succ⟩

/-- The written form of a printable value is read. -/
theorem parse_pretty_of_printable {v : Json} (hv : Printable v) : parse v.pretty.toList = .ok v.readBack := by
  have hgap := skipGap_prettyChars 0 hv []
  have hvalue := (readsBack (2 * (prettyChars 0 v).length + 2)).value v 0 [] hv stops_nil (by omega)
  rw [List.append_nil] at hgap hvalue
  rw [pretty, String.toList_ofList, parse, hgap, hvalue]
  rfl

/-- The written form of a readable value is read as the value. -/
theorem parse_pretty {v : Json} (hv : Readable v) : parse v.pretty.toList = .ok v := by
  rw [parse_pretty_of_printable hv.printable, readBack_of_readable hv]

/-! ## The characters of a text -/

theorem no_return_toDigits (n : ℕ) : '\r' ∉ Nat.toDigits 10 n :=
  fun hmem => absurd (all_isDigit_toDigits n '\r' hmem) (by decide)

theorem no_return_hexDigits (width n : ℕ) : '\r' ∉ Text.hexDigits width n := by
  have hdigit : ∀ k < 0x10, Text.hexDigit k ≠ '\r' := by decide +kernel
  induction width generalizing n with
  | zero => simp [Text.hexDigits]
  | succ width ih =>
    rw [Text.hexDigits, List.mem_append, List.mem_singleton, not_or]
    exact ⟨ih _, (hdigit _ (Nat.mod_lt _ (by norm_num))).symm⟩

theorem no_return_unitEscape (n : ℕ) : '\r' ∉ unitEscape n := by
  have := no_return_hexDigits 4 n
  simpa [unitEscape] using this

theorem no_return_escape (c : Char) : '\r' ∉ escape c := by
  unfold escape
  split
  iterate 7 decide
  rename_i hreturn _ _ _
  dsimp only
  split_ifs
  · simpa using Ne.symm hreturn
  · exact no_return_unitEscape _
  · rw [List.mem_append, not_or]
    exact ⟨no_return_unitEscape _, no_return_unitEscape _⟩

theorem no_return_quoted (s : Str) : '\r' ∉ quoted s := by
  have hpoint : ∀ p ∈ s.points, '\r' ∉ escapePoint p := by
    intro p hp
    cases p with
    | char c => exact no_return_escape c
    | half n => exact no_return_unitEscape _
  simpa [quoted, List.mem_flatMap] using hpoint

theorem no_return_layout {ds : List Char} (hds : '\r' ∉ ds) (point : ℤ) : '\r' ∉ Binary64.layout ds point := by
  have htake : ∀ k, '\r' ∉ ds.take k := fun k h => hds (List.mem_of_mem_take h)
  have hdrop : ∀ k, '\r' ∉ ds.drop k := fun k h => hds (List.mem_of_mem_drop h)
  have hzeros : ∀ k, '\r' ∉ List.replicate k '0' := fun k h => absurd (List.eq_of_mem_replicate h) (by decide)
  have hdigits := no_return_toDigits (point - 1).natAbs
  simp only [Binary64.layout]
  split_ifs <;>
    simp only [List.mem_append, List.mem_cons, List.not_mem_nil, hds, htake, hdrop, hzeros, hdigits] <;>
    decide

theorem no_return_scalarText (v : Json) : '\r' ∉ scalarText v := by
  cases v with
  | null => decide
  | bool b => cases b <;> decide
  | int i =>
    cases i with
    | ofNat n =>
      change '\r' ∉ (String.ofList (Nat.toDigits 10 n)).toList
      rw [String.toList_ofList]
      exact no_return_toDigits n
    | negSucc n =>
      change '\r' ∉ ("-" ++ String.ofList (Nat.toDigits 10 (n + 1))).toList
      rw [String.toList_append, List.mem_append, String.toList_ofList (l := Nat.toDigits 10 (n + 1))]
      exact not_or.2 ⟨by decide, no_return_toDigits _⟩
  | float x =>
    have hsign : ∀ negative : Bool, '\r' ∉ (if negative then "-" else "").toList := by decide
    cases x with
    | nan => decide
    | infinite negative => cases negative <;> decide
    | finite negative m e =>
      simp only [scalarText, Binary64.text, String.toList_append, List.mem_append, not_or]
      refine ⟨hsign negative, ?_⟩
      split_ifs
      · decide
      · rw [String.toList_ofList]
        exact no_return_layout (no_return_toDigits _) _
  | str s => exact no_return_quoted s
  | arr xs => exact (by decide : '\r' ∉ "null".toList)
  | obj fs => exact (by decide : '\r' ∉ "null".toList)

theorem no_return_newline (level : ℕ) : '\r' ∉ newline level := by simp [newline, List.mem_replicate]

mutual

theorem no_return_prettyChars (level : ℕ) : ∀ v, '\r' ∉ prettyChars level v
  | null => no_return_scalarText null
  | bool b => no_return_scalarText (bool b)
  | int i => no_return_scalarText (int i)
  | float x => no_return_scalarText (float x)
  | str s => no_return_scalarText (str s)
  | arr [] => by simp [prettyChars]
  | arr (x :: xs) => by
    simp [prettyChars, no_return_newline, no_return_prettyItems (level + 1) (x :: xs)]
  | obj [] => by simp [prettyChars]
  | obj (f :: fs) => by
    simp [prettyChars, no_return_newline, no_return_prettyFields (level + 1) (f :: fs)]

theorem no_return_prettyItems (level : ℕ) : ∀ xs, '\r' ∉ prettyItems level xs
  | [] => by simp [prettyItems]
  | [x] => by simp [prettyItems, no_return_newline, no_return_prettyChars level x]
  | x :: y :: rest => by
    simp [prettyItems, no_return_newline, no_return_prettyChars level x, no_return_prettyItems level (y :: rest)]

theorem no_return_prettyFields (level : ℕ) : ∀ fs, '\r' ∉ prettyFields level fs
  | [] => by simp [prettyFields]
  | [(k, v)] => by simp [prettyFields, no_return_newline, no_return_quoted, no_return_prettyChars level v]
  | (k, v) :: f :: rest => by
    simp [prettyFields, no_return_newline, no_return_quoted, no_return_prettyChars level v,
      no_return_prettyFields level (f :: rest)]

end

/-- The written form has no carriage return. -/
theorem no_return_pretty (v : Json) : '\r' ∉ v.pretty.toList := by
  rw [pretty, String.toList_ofList]
  exact no_return_prettyChars 0 v

end Landmarks.Json
