/-!
# Values under names

* `Named` : values under names, in the order in which the names were first given. The names are of
  type `String` unless another type is given.
* `Named.find?` : the value under a name.
* `Named.put` : with a value under a name.
-/

namespace Landmarks

/-- Values under names, in the order in which the names were first given. -/
abbrev Named (α : Type) (κ : Type := String) := List (κ × α)

namespace Named

variable {α κ : Type} [DecidableEq κ]

/-- The value under a name. -/
def find? (entries : Named α κ) (name : κ) : Option α :=
  (List.find? (fun e => e.1 == name) entries).map (·.2)

/-- With a value under a name: an old value is replaced in its place, a new name comes last. -/
def put (name : κ) (value : α) : Named α κ → Named α κ
  | [] => [(name, value)]
  | (n, old) :: rest => if n == name then (n, value) :: rest else (n, old) :: put name value rest

@[simp] theorem find?_put_self (entries : Named α κ) (name : κ) (value : α) :
    find? (put name value entries) name = some value := by
  induction entries with
  | nil => simp [put, find?]
  | cons e rest ih =>
    obtain ⟨n, old⟩ := e
    by_cases h : n = name
    · simp [put, find?, h]
    · simpa [put, find?, h] using ih

theorem find?_put_of_ne (entries : Named α κ) {name other : κ} (h : other ≠ name) (value : α) :
    find? (put name value entries) other = find? entries other := by
  induction entries with
  | nil => simp [put, find?, Ne.symm h]
  | cons e rest ih =>
    obtain ⟨n, old⟩ := e
    by_cases hn : n = name
    · subst hn; simp [put, find?, Ne.symm h]
    · by_cases ho : n = other
      · simp [put, find?, ho, h]
      · simpa [put, find?, hn, ho] using ih

end Named

end Landmarks
