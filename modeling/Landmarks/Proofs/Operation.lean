/-!
# Operations that may fail

Operations on files, stores and overlays change a state and may fail; what was done before a failure
stays done.

* `exec` : the outcome of an operation and the state it leaves.
* `exec_bind`, `exec_tryCatch` and the like : what a compound operation does, by its parts.
* `exec_bind_eq_ok` : a row of operations succeeds if each of them does in turn.
* `bind_eq_ok`, `mapError_eq_ok` : the same for results without a state.
* `exec_bind_rel`, `exec_tryCatch_rel` : what the parts of an operation do to the state, it does.
* `exec_forM_rel` : what each turn of a loop does to the state, the loop does.
-/

namespace Landmarks

variable {ε σ α β : Type}

/-- The outcome of an operation from a state, and the state it leaves. -/
def exec (x : ExceptT ε (StateM σ) α) (s : σ) : Except ε α × σ := x.run s

section

variable (s : σ)

@[simp] theorem exec_pure (a : α) : exec (pure a : ExceptT ε (StateM σ) α) s = (.ok a, s) := rfl

@[simp] theorem exec_throw (e : ε) : exec (throw e : ExceptT ε (StateM σ) α) s = (.error e, s) := rfl

@[simp] theorem exec_modify (f : σ → σ) :
    exec (modify f : ExceptT ε (StateM σ) PUnit) s = (.ok ⟨⟩, f s) := rfl

theorem exec_bind (x : ExceptT ε (StateM σ) α) (f : α → ExceptT ε (StateM σ) β) :
    exec (x >>= f) s =
      match exec x s with
      | (.ok a, s') => exec (f a) s'
      | (.error e, s') => (.error e, s') := by
  change (match exec x s with
    | (r, s') => exec (ExceptT.bindCont f r : StateM σ (Except ε β)) s') = _
  rcases exec x s with ⟨_ | _, s'⟩ <;> rfl

theorem exec_tryCatch (x : ExceptT ε (StateM σ) α) (handle : ε → ExceptT ε (StateM σ) α) :
    exec (tryCatch x handle) s =
      match exec x s with
      | (.ok a, s') => (.ok a, s')
      | (.error e, s') => exec (handle e) s' := by
  change (match exec x s with
    | (r, s') => exec (match r with
      | .ok a => (pure (.ok a) : StateM σ (Except ε α))
      | .error e => handle e) s') = _
  rcases exec x s with ⟨_ | _, s'⟩ <;> rfl

@[simp] theorem exec_get_bind (f : σ → ExceptT ε (StateM σ) β) : exec (get >>= f) s = exec (f s) s := rfl

@[simp] theorem exec_modify_bind (g : σ → σ) (f : PUnit → ExceptT ε (StateM σ) β) :
    exec (modify g >>= f) s = exec (f ⟨⟩) (g s) := rfl

end

section

variable {x : ExceptT ε (StateM σ) α} {f : α → ExceptT ε (StateM σ) β} {s s' : σ}

theorem exec_bind_of_ok {a : α} (h : exec x s = (.ok a, s')) : exec (x >>= f) s = exec (f a) s' := by
  rw [exec_bind, h]

theorem exec_bind_of_error {e : ε} (h : exec x s = (.error e, s')) :
    exec (x >>= f) s = (.error e, s') := by
  rw [exec_bind, h]

end

theorem exec_bind_eq_ok {x : ExceptT ε (StateM σ) α} {f : α → ExceptT ε (StateM σ) β} {s s'' : σ} {b : β} :
    exec (x >>= f) s = (.ok b, s'') ↔
      ∃ a s', exec x s = (.ok a, s') ∧ exec (f a) s' = (.ok b, s'') := by
  constructor
  · intro h
    rcases hx : exec x s with ⟨e | a, s'⟩
    · rw [exec_bind_of_error hx] at h
      exact absurd (congrArg Prod.fst h) (by simp)
    · exact ⟨a, s', rfl, exec_bind_of_ok hx ▸ h⟩
  · rintro ⟨a, s', hx, hf⟩
    rw [exec_bind_of_ok hx]
    exact hf

theorem exec_bind_pure_state (x : ExceptT ε (StateM σ) α) (f : α → β) (s : σ) :
    (exec (x >>= fun a => pure (f a)) s).2 = (exec x s).2 := by
  rcases hx : exec x s with ⟨e | a, s'⟩
  · rw [exec_bind_of_error hx]
  · rw [exec_bind_of_ok hx]
    rfl

theorem bind_eq_ok {x : Except ε α} {f : α → Except ε β} {b : β} :
    x >>= f = .ok b ↔ ∃ a, x = .ok a ∧ f a = .ok b := by
  constructor
  · intro h
    cases x with
    | error e => cases h
    | ok a => exact ⟨a, rfl, h⟩
  · rintro ⟨a, rfl, h⟩
    exact h

theorem eq_ok_of_toOption {x : Except ε α} {a : α} (h : x.toOption = some a) : x = .ok a := by
  cases x with
  | error e => cases h
  | ok a => exact congrArg Except.ok (Option.some.inj h)

theorem mapError_eq_ok {ε' : Type} {x : Except ε α} {g : ε → ε'} {a : α} : x.mapError g = .ok a ↔ x = .ok a := by
  cases x with
  | error e => constructor <;> intro h <;> cases h
  | ok b =>
    constructor
    · intro h
      cases h
      rfl
    · intro h
      cases h
      rfl

section

variable {R : σ → σ → Prop} (htrans : ∀ {s s' s''}, R s s' → R s' s'' → R s s'') {s : σ}

include htrans

theorem exec_bind_rel {x : ExceptT ε (StateM σ) α} {f : α → ExceptT ε (StateM σ) β} (hx : R s (exec x s).2)
    (hf : ∀ a s', R s' (exec (f a) s').2) : R s (exec (x >>= f) s).2 := by
  rcases hrun : exec x s with ⟨e | a, s'⟩
  · rw [exec_bind_of_error hrun]
    rw [hrun] at hx
    exact hx
  · rw [exec_bind_of_ok hrun]
    rw [hrun] at hx
    exact htrans hx (hf a s')

theorem exec_tryCatch_rel {x : ExceptT ε (StateM σ) α} {handle : ε → ExceptT ε (StateM σ) α} (hx : R s (exec x s).2)
    (hhandle : ∀ e s', R s' (exec (handle e) s').2) : R s (exec (tryCatch x handle) s).2 := by
  rw [exec_tryCatch]
  rcases hrun : exec x s with ⟨e | a, s'⟩
  · rw [hrun] at hx
    exact htrans hx (hhandle e s')
  · rw [hrun] at hx
    exact hx

end

/-- A loop does to the state what each of its turns does, as far as they went. -/
theorem exec_forM_rel {R : σ → σ → Prop} (hrefl : ∀ s, R s s)
    (htrans : ∀ {s s' s''}, R s s' → R s' s'' → R s s'') {f : α → ExceptT ε (StateM σ) PUnit}
    {xs : List α} (hf : ∀ a ∈ xs, ∀ s, R s (exec (f a) s).2) (s : σ) : R s (exec (xs.forM f) s).2 := by
  induction xs generalizing s with
  | nil => exact hrefl s
  | cons a xs ih =>
    change R s (exec (f a >>= fun _ => xs.forM f) s).2
    exact exec_bind_rel (R := R) htrans (hf a List.mem_cons_self s) fun _ s' =>
      ih (fun b hb => hf b (List.mem_cons_of_mem a hb)) s'

end Landmarks
