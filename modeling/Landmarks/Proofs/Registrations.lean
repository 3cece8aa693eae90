import Landmarks.Proofs.Notification
import Mathlib.Data.List.Nodup
import Mathlib.Data.List.Perm.Basic
import Mathlib.Tactic.SplitIfs

/-!
# Which subscriptions are left

* `Register` : the subscriptions of a run by number, whose callables were called, and which of the
  subscriptions are left when each call takes back the oldest one of its listener and store.
* `Register.uncalled` : the subscriptions whose own callable was not called.
* `Register.Apt`, `Register.AptRun` : a call takes back its own subscription, and so do all calls of a run.
* `Register.left_call_iff`, `Register.left_run_iff` : the subscriptions that are left stay those that were
  not called just as long as all calls are apt; `Register.aptRun_of_nodup` : so they are if no listener
  subscribes twice.
* `Register.Tracks` : the listeners of the stores are those of the subscriptions that are left; every step
  keeps it so.
* `Hub.run_registrations` : whom a notification calls after every run.
-/

namespace Landmarks

/-- Subscribing, and calling what a subscription returned. -/
def HubStep.Subscribes : HubStep → Prop
  | .subscribe _ _ _ _ => True
  | .unsubscribe _ => True
  | _ => False

/-- The subscriptions of a run: the store and the listener of each, in the order in which they were made;
the subscription that a token belongs to; the subscriptions whose callables were called; and those that
are left. -/
structure Register where
  made : List (Nat × String) := []
  owners : Named Nat := []
  calls : List Nat := []
  left : List Nat := []

namespace Register

/-- One more subscription. -/
def add (r : Register) (n : Nat) (listener token : String) : Register :=
  { r with made := r.made ++ [(n, listener)]
           owners := Named.put token r.made.length r.owners
           left := r.left ++ [r.made.length] }

/-- What a subscription returned is called: the oldest of the same listener and store is taken back. -/
def call (r : Register) (k : Nat) : Register :=
  { r with calls := r.calls ++ [k]
           left := r.left.eraseP fun j => r.made[j]? == r.made[k]? }

/-- What a step does to the subscriptions; `names` are the names of the stores. -/
def step (names : Named Nat) (r : Register) : HubStep → Register
  | .subscribe name listener token _ =>
    match Named.find? names name with
    | some n => r.add n listener token
    | none => r
  | .unsubscribe token =>
    match Named.find? r.owners token with
    | some k => r.call k
    | none => r
  | _ => r

/-- The subscriptions after some steps. -/
def run (names : Named Nat) (r : Register) (steps : List HubStep) : Register := steps.foldl (step names) r

/-- The subscriptions whose own callable was not called. -/
def uncalled (r : Register) : List Nat := (List.range r.made.length).filter fun k => !r.calls.contains k

/-- The stores and listeners of some subscriptions. -/
def entries (r : Register) (numbers : List Nat) : List (Nat × String) := numbers.filterMap (r.made[·]?)

/-- The listeners of some subscriptions to a store. -/
def listeners (r : Register) (n : Nat) (numbers : List Nat) : List String :=
  ((r.entries numbers).filter fun x => x.1 == n).map (·.2)

/-- A call takes back its own subscription: no other one of the same listener and store stands before it,
and none at all if it was called before. -/
def Apt (r : Register) (k : Nat) : Prop :=
  ∀ j ∈ r.uncalled, r.made[j]? = r.made[k]? → k ∉ r.calls ∧ k ≤ j

/-- All calls of a run are apt. -/
def AptRun (names : Named Nat) (r : Register) (steps : List HubStep) : Prop :=
  ∀ before token after k, steps = before ++ .unsubscribe token :: after →
    Named.find? (r.run names before).owners token = some k → (r.run names before).Apt k

/-- Tokens and calls are those of subscriptions that were made, and no others are left. -/
structure Valid (r : Register) : Prop where
  owned : ∀ token k, Named.find? r.owners token = some k → k < r.made.length
  called : ∀ k ∈ r.calls, k < r.made.length
  kept : ∀ k ∈ r.left, k < r.made.length

variable {names : Named Nat} {r : Register} {k : Nat}

/-! ## Steps of the register -/

theorem mem_uncalled : k ∈ r.uncalled ↔ k < r.made.length ∧ k ∉ r.calls := by
  simp [uncalled]

theorem pairwise_uncalled (r : Register) : r.uncalled.Pairwise (· < ·) := List.pairwise_lt_range.filter _

theorem nodup_uncalled (r : Register) : r.uncalled.Nodup := List.nodup_range.filter _

theorem uncalled_add (h : r.Valid) (n : Nat) (listener token : String) :
    (r.add n listener token).uncalled = r.uncalled ++ [r.made.length] := by
  have hfresh : r.made.length ∉ r.calls := fun hmem => absurd (h.called _ hmem) (Nat.lt_irrefl _)
  rw [uncalled, add, List.length_append, List.length_singleton, List.range_succ, List.filter_append]
  simp [uncalled, hfresh]

theorem uncalled_call (r : Register) (k : Nat) : (r.call k).uncalled = r.uncalled.erase k := by
  rw [r.nodup_uncalled.erase_eq_filter, uncalled, uncalled, List.filter_filter]
  refine List.filter_congr fun j _ => ?_
  by_cases hj : j = k <;> simp [call, hj]

namespace Valid

theorem add (h : r.Valid) (n : Nat) (listener token : String) : (r.add n listener token).Valid := by
  have hlength : (r.add n listener token).made.length = r.made.length + 1 := by simp [Register.add]
  refine ⟨fun other k hk => ?_, fun k hk => ?_, fun k hk => ?_⟩
  all_goals rw [hlength]
  · by_cases hother : other = token
    · rw [hother, Register.add, Named.find?_put_self] at hk
      cases hk
      omega
    · rw [Register.add, Named.find?_put_of_ne _ hother] at hk
      have := h.owned other k hk
      omega
  · have := h.called k hk
    omega
  · rcases List.mem_append.1 hk with hk | hk
    · have := h.kept k hk
      omega
    · rw [List.mem_singleton.1 hk]
      omega

theorem call (h : r.Valid) (hk : k < r.made.length) : (r.call k).Valid := by
  refine ⟨h.owned, fun j hj => ?_, fun j hj => h.kept j (List.mem_of_mem_eraseP hj)⟩
  rcases List.mem_append.1 hj with hj | hj
  · exact h.called j hj
  · rw [List.mem_singleton.1 hj]
    exact hk

/-- What a step can do: subscribe, call what a subscription returned, or nothing. -/
theorem step_cases (h : r.Valid) (names : Named Nat) (s : HubStep) :
    (∃ n listener token, r.step names s = r.add n listener token ∧ ∀ other, s ≠ .unsubscribe other) ∨
      (∃ token k, s = .unsubscribe token ∧ Named.find? r.owners token = some k ∧ k < r.made.length ∧
        r.step names s = r.call k) ∨
      (r.step names s = r ∧ ∀ token, s = .unsubscribe token → Named.find? r.owners token = none) := by
  cases s with
  | subscribe name listener token action =>
    rw [step]
    cases Named.find? names name with
    | some n => exact .inl ⟨n, listener, token, rfl, by simp⟩
    | none => exact .inr (.inr ⟨rfl, by simp⟩)
  | unsubscribe token =>
    rw [step]
    cases howner : Named.find? r.owners token with
    | some k => exact .inr (.inl ⟨token, k, rfl, howner, h.owned token k howner, rfl⟩)
    | none => exact .inr (.inr ⟨rfl, by simp [howner]⟩)
  | _ => exact .inr (.inr ⟨rfl, by simp⟩)

theorem step (h : r.Valid) (s : HubStep) : (r.step names s).Valid := by
  rcases h.step_cases names s with ⟨n, listener, token, hs, -⟩ | ⟨_, k, -, -, hk, hs⟩ | ⟨hs, -⟩
  all_goals rw [hs]
  · exact h.add n listener token
  · exact h.call hk
  · exact h

theorem run (h : r.Valid) (steps : List HubStep) : (r.run names steps).Valid := by
  induction steps generalizing r with
  | nil => exact h
  | cons s rest ih => exact ih (h.step s)

end Valid

/-- Nothing that was made or called is forgotten. -/
theorem prefix_step (h : r.Valid) (names : Named Nat) (s : HubStep) :
    r.made <+: (r.step names s).made ∧ r.calls <+: (r.step names s).calls := by
  rcases h.step_cases names s with ⟨n, listener, token, hs, -⟩ | ⟨_, k, -, -, -, hs⟩ | ⟨hs, -⟩
  all_goals rw [hs]
  · exact ⟨List.prefix_append _ _, List.prefix_rfl⟩
  · exact ⟨List.prefix_rfl, List.prefix_append _ _⟩
  · exact ⟨List.prefix_rfl, List.prefix_rfl⟩

theorem prefix_run (h : r.Valid) (steps : List HubStep) :
    r.made <+: (r.run names steps).made ∧ r.calls <+: (r.run names steps).calls := by
  induction steps generalizing r with
  | nil => exact ⟨List.prefix_rfl, List.prefix_rfl⟩
  | cons s rest ih =>
    obtain ⟨hmade, hcalls⟩ := prefix_step h names s
    obtain ⟨hmade', hcalls'⟩ := ih (h.step s)
    exact ⟨hmade.trans hmade', hcalls.trans hcalls'⟩

/-! ## Calls that take back their own subscription -/

/-- Where the subscriptions that are left are those not called, a call keeps it so just if it is apt. -/
theorem left_call_iff (hk : k < r.made.length) (hleft : r.left = r.uncalled) :
    (r.call k).left = (r.call k).uncalled ↔ r.Apt k := by
  rw [uncalled_call, call, hleft]
  have hself : ∀ {j : Nat}, (r.made[j]? == r.made[k]?) = true ↔ r.made[j]? = r.made[k]? := beq_iff_eq
  have hnodup := r.nodup_uncalled
  have hsorted := r.pairwise_uncalled
  constructor
  · intro hsame j hj hjk
    obtain ⟨i, front, back, hfront, -, hsplit, herase⟩ :=
      List.exists_of_eraseP (p := fun j => r.made[j]? == r.made[k]?) hj (hself.2 hjk)
    rw [hsplit] at hnodup hsorted hsame hj
    -- The one that goes is the first of its kind, so it has to be the one that was called.
    obtain rfl : i = k := by
      by_contra hne
      have hmem : i ∈ (front ++ i :: back).erase k := (List.mem_erase_of_ne hne).2 (by simp)
      rw [← hsame, ← hsplit, herase] at hmem
      exact (List.nodup_middle.1 hnodup).notMem hmem
    have hcalled : i ∈ r.uncalled := hsplit ▸ by simp
    refine ⟨(mem_uncalled.1 hcalled).2, ?_⟩
    rcases List.mem_append.1 hj with hj | hj
    · exact absurd (hself.2 hjk) (hfront j hj)
    · rcases List.mem_cons.1 hj with rfl | hj
      · exact Nat.le_refl _
      · exact Nat.le_of_lt ((List.pairwise_cons.1 (List.pairwise_append.1 hsorted).2.1).1 j hj)
  · intro hapt
    by_cases hsome : ∃ j ∈ r.uncalled, r.made[j]? = r.made[k]?
    · obtain ⟨j, hj, hjk⟩ := hsome
      obtain ⟨i, front, back, hfront, hi, hsplit, herase⟩ :=
        List.exists_of_eraseP (p := fun j => r.made[j]? == r.made[k]?) hj (hself.2 hjk)
      have hfree : k ∈ r.uncalled := mem_uncalled.2 ⟨hk, (hapt j hj hjk).1⟩
      have hfirst : k ≤ i := (hapt i (hsplit ▸ by simp) (hself.1 hi)).2
      rw [hsplit] at hsorted hfree
      obtain rfl : k = i := by
        rcases List.mem_append.1 hfree with hmem | hmem
        · exact absurd (hself.2 rfl) (hfront k hmem)
        · rcases List.mem_cons.1 hmem with hmem | hmem
          · exact hmem
          · have := (List.pairwise_cons.1 (List.pairwise_append.1 hsorted).2.1).1 k hmem
            omega
      have hnot : k ∉ front := fun hmem => hfront k hmem (hself.2 rfl)
      rw [herase, hsplit, List.erase_append_right _ hnot, List.erase_cons_head]
    · have hnot : k ∉ r.uncalled := fun hmem => hsome ⟨k, hmem, rfl⟩
      rw [List.erase_of_not_mem hnot]
      exact List.eraseP_of_forall_not fun j hj hjk => hsome ⟨j, hj, hself.1 hjk⟩

theorem left_step_iff (h : r.Valid) (hleft : r.left = r.uncalled) (names : Named Nat) (s : HubStep) :
    (r.step names s).left = (r.step names s).uncalled ↔
      ∀ token k, s = .unsubscribe token → Named.find? r.owners token = some k → r.Apt k := by
  rcases h.step_cases names s with
    ⟨n, listener, token, hs, hnot⟩ | ⟨token, k, rfl, howner, hk, hs⟩ | ⟨hs, hnone⟩
  all_goals rw [hs]
  · refine iff_of_true ?_ fun other k hother => absurd hother (hnot other)
    rw [uncalled_add h, ← hleft, Register.add]
  · rw [left_call_iff hk hleft]
    constructor
    · rintro hapt _ k' ⟨⟩ howner'
      rw [howner] at howner'
      cases howner'
      exact hapt
    · exact fun hall => hall token k rfl howner
  · refine iff_of_true hleft fun token k htoken howner => ?_
    rw [hnone token htoken] at howner
    cases howner

theorem aptRun_cons {s : HubStep} {rest : List HubStep} :
    r.AptRun names (s :: rest) ↔
      (∀ token k, s = .unsubscribe token → Named.find? r.owners token = some k → r.Apt k) ∧
        (r.step names s).AptRun names rest := by
  constructor
  · intro h
    refine ⟨fun token k hs => h [] token rest k (hs ▸ rfl), fun before token after k hrest => ?_⟩
    exact h (s :: before) token after k (by rw [hrest, List.cons_append])
  · rintro ⟨hhead, hrest⟩ before token after k hsplit
    cases before with
    | nil =>
      obtain ⟨hs, -⟩ := List.cons_eq_cons.1 hsplit
      exact hhead token k hs
    | cons t before =>
      obtain ⟨rfl, hafter⟩ := List.cons_eq_cons.1 hsplit
      exact hrest before token after k hafter

/-- The subscriptions that are left stay those not called just as long as all calls are apt. -/
theorem left_run_iff (h : r.Valid) (hleft : r.left = r.uncalled) (names : Named Nat) (steps : List HubStep) :
    (∀ begun, begun <+: steps → (r.run names begun).left = (r.run names begun).uncalled) ↔ r.AptRun names steps := by
  induction steps generalizing r with
  | nil =>
    refine iff_of_true (fun begun hbegun => ?_) fun before token after k hsplit => ?_
    · rw [List.prefix_nil.1 hbegun]
      exact hleft
    · simp at hsplit
  | cons s rest ih =>
    rw [aptRun_cons, ← left_step_iff h hleft names s]
    constructor
    · intro hall
      have hstep : (r.step names s).left = (r.step names s).uncalled := hall [s] (by simp)
      exact ⟨hstep, (ih (h.step s) hstep).1 fun begun hbegun => hall (s :: begun) (by simpa using hbegun)⟩
    · rintro ⟨hstep, hrest⟩ begun hbegun
      rcases List.prefix_cons_iff.1 hbegun with rfl | ⟨more, rfl, hmore⟩
      · exact hleft
      · exact (ih (h.step s) hstep).2 hrest more hmore

/-- If no listener subscribes twice to a store, all calls are apt. -/
theorem aptRun_of_nodup (h : r.Valid) {steps : List HubStep} (hnodup : (r.run names steps).made.Nodup) :
    r.AptRun names steps := by
  rintro before token after k rfl howner j hj hjk
  have hvalid : (r.run names before).Valid := h.run before
  have hmade : (r.run names before).made.Nodup := by
    rw [run, List.foldl_append] at hnodup
    exact hnodup.sublist (prefix_run hvalid (.unsubscribe token :: after)).1.sublist
  obtain ⟨hj, hfree⟩ := mem_uncalled.1 hj
  have hk := hvalid.owned token k howner
  rw [List.getElem?_eq_getElem hj, List.getElem?_eq_getElem hk, Option.some.injEq] at hjk
  obtain rfl := (List.Nodup.getElem_inj_iff hmade).1 hjk
  exact ⟨hfree, Nat.le_refl _⟩

/-! ## Listeners of subscriptions -/

theorem entries_add {numbers : List Nat} (hnumbers : ∀ j ∈ numbers, j < r.made.length) (n : Nat)
    (listener token : String) :
    (r.add n listener token).entries (numbers ++ [r.made.length]) = r.entries numbers ++ [(n, listener)] := by
  have hold : numbers.filterMap ((r.made ++ [(n, listener)])[·]?) = numbers.filterMap (r.made[·]?) :=
    List.filterMap_congr fun j hj => List.getElem?_append_left (hnumbers j hj)
  rw [entries, add, List.filterMap_append, hold]
  simp [entries]

/-- One entry goes with the subscription that is taken back. -/
theorem entries_call {x : Nat × String} (hx : r.made[k]? = some x) :
    (r.call k).entries (r.call k).left = (r.entries r.left).erase x := by
  simp only [entries, call, hx]
  induction r.left with
  | nil => rfl
  | cons j numbers ih =>
    cases hj : r.made[j]? with
    | none => simp [hj, ih]
    | some y =>
      by_cases hy : y = x
      · simp [hj, hy]
      · simp [hj, hy, ih]

theorem listeners_erase (es : List (Nat × String)) (x : Nat × String) (n : Nat) :
    ((es.erase x).filter fun y => y.1 == n).map (·.2) =
      if x.1 = n then ((es.filter fun y => y.1 == n).map (·.2)).erase x.2
      else (es.filter fun y => y.1 == n).map (·.2) := by
  induction es with
  | nil => simp
  | cons y es ih =>
    by_cases hy : y = x
    · subst hy
      by_cases hn : y.1 = n <;> simp [hn]
    · rw [List.erase_cons_tail (by simpa using hy)]
      by_cases hyn : y.1 = n
      · by_cases hn : x.1 = n
        · have hname : y.2 ≠ x.2 := fun heq => hy (Prod.ext (hyn.trans hn.symm) heq)
          rw [if_pos hn] at ih
          simp [hyn, hn, hname, ih]
        · rw [if_neg hn] at ih
          simp [hyn, hn, ih]
      · simp [hyn, ih]

theorem listeners_add (h : r.Valid) (n m : Nat) (listener token : String) :
    (r.add n listener token).listeners m (r.add n listener token).left =
      r.listeners m r.left ++ if n = m then [listener] else [] := by
  have hentries := entries_add h.kept n listener token
  rw [listeners, listeners, show (r.add n listener token).left = r.left ++ [r.made.length] from rfl, hentries]
  by_cases hn : n = m <;> simp [hn]

theorem listeners_call {n : Nat} {listener : String} (hk : r.made[k]? = some (n, listener)) (m : Nat) :
    (r.call k).listeners m (r.call k).left =
      if n = m then (r.listeners m r.left).erase listener else r.listeners m r.left := by
  rw [listeners, entries_call hk, listeners_erase]
  rfl

/-! ## Calls that are made once -/

/-- Where the subscriptions that are left have the entries of those not called, the first call of a
subscription keeps it so. -/
theorem perm_call (hk : k < r.made.length) (hfirst : k ∉ r.calls)
    (hperm : (r.entries r.left).Perm (r.entries r.uncalled)) :
    ((r.call k).entries (r.call k).left).Perm ((r.call k).entries (r.call k).uncalled) := by
  have hx := List.getElem?_eq_getElem hk
  have hmem : k ∈ r.uncalled := mem_uncalled.2 ⟨hk, hfirst⟩
  have hsplit : (r.entries r.uncalled).Perm (r.made[k] :: r.entries (r.uncalled.erase k)) := by
    have hcons := (List.perm_cons_erase hmem).filterMap (r.made[·]?)
    rwa [List.filterMap_cons_some hx] at hcons
  rw [entries_call hx, uncalled_call]
  have herase := (hperm.trans hsplit).erase r.made[k]
  rwa [List.erase_cons_head] at herase

theorem perm_run (h : r.Valid) (hperm : (r.entries r.left).Perm (r.entries r.uncalled)) {steps : List HubStep}
    (honce : (r.run names steps).calls.Nodup) :
    ((r.run names steps).entries (r.run names steps).left).Perm
      ((r.run names steps).entries (r.run names steps).uncalled) := by
  induction steps generalizing r with
  | nil => exact hperm
  | cons s rest ih =>
    refine ih (h.step s) ?_ honce
    have hcalls := honce.sublist (prefix_run (h.step s) rest).2.sublist
    rcases h.step_cases names s with ⟨n, listener, token, hs, -⟩ | ⟨_, k, -, -, hk, hs⟩ | ⟨hs, -⟩
    all_goals rw [hs] at hcalls ⊢
    · rw [uncalled_add h, entries_add fun j hj => (mem_uncalled.1 hj).1]
      exact (entries_add h.kept n listener token) ▸ hperm.append_right _
    · have hfirst : k ∉ r.calls := fun hmem =>
        (List.nodup_append.1 hcalls).2.2 k hmem k (List.mem_singleton.2 rfl) rfl
      exact perm_call hk hfirst hperm
    · exact hperm

/-! ## Stores and subscriptions -/

/-- The listeners of the stores are those of the subscriptions that are left. -/
structure Tracks (names : Named Nat) (r : Register) (h : Hub) : Prop where
  valid : r.Valid
  known : ∀ name n, Named.find? names name = some n → n < h.stores.length
  names : h.names = names
  placed : ∀ x ∈ r.made, x.1 < h.stores.length
  tokens : ∀ token, Named.find? h.tokens token = (Named.find? r.owners token).bind (r.made[·]?)
  listeners : ∀ n, h.listenersOf n = r.listeners n r.left

namespace Tracks

variable {h : Hub}

theorem subscribe (ht : r.Tracks names h) {n : Nat} (hn : n < h.stores.length) (listener token : String)
    (action : Option Action) :
    (r.add n listener token).Tracks names (exec (Hub.subscribe n listener token action) h).2 := by
  obtain ⟨st, hst⟩ : ∃ st, h.stores[n]? = some st := ⟨_, List.getElem?_eq_getElem hn⟩
  rw [Hub.exec_subscribe hst]
  refine ⟨ht.valid.add n listener token, fun name m hm => ?_, ht.names, fun x hx => ?_, fun other => ?_, fun m => ?_⟩
  · rw [List.length_set]
    exact ht.known name m hm
  · rw [List.length_set]
    rcases List.mem_append.1 hx with hx | hx
    · exact ht.placed x hx
    · rw [List.mem_singleton.1 hx]
      exact hn
  · by_cases hother : other = token
    · simp [hother, add]
    · rw [add, Named.find?_put_of_ne _ hother, Named.find?_put_of_ne _ hother, ht.tokens other]
      refine Option.bind_congr fun k hk => ?_
      exact (List.getElem?_append_left (ht.valid.owned other k hk)).symm
  · rw [listeners_add ht.valid, ← ht.listeners m, Hub.listenersOf_set hst _ rfl]
    by_cases hm : m = n
    · simp [hm, Hub.listenersOf, hst, Store.subscribe]
    · simp [hm, Ne.symm hm]

theorem unsubscribe (ht : r.Tracks names h) {token : String} (howner : Named.find? r.owners token = some k) :
    (r.call k).Tracks names (exec (Hub.unsubscribe token) h).2 := by
  have hk := ht.valid.owned token k howner
  obtain ⟨⟨n, listener⟩, hx⟩ : ∃ x, r.made[k]? = some x := ⟨_, List.getElem?_eq_getElem hk⟩
  obtain ⟨st, hst⟩ : ∃ st, h.stores[n]? = some st :=
    ⟨_, List.getElem?_eq_getElem (ht.placed _ (List.mem_of_getElem? hx))⟩
  have htoken : Named.find? h.tokens token = some (n, listener) := by rw [ht.tokens, howner, Option.bind_some, hx]
  rw [Hub.exec_unsubscribe_of_some htoken hst]
  refine ⟨ht.valid.call hk, fun name m hm => ?_, ht.names, fun x hx' => ?_, ht.tokens, fun m => ?_⟩
  · rw [List.length_set]
    exact ht.known name m hm
  · rw [List.length_set]
    exact ht.placed x hx'
  · rw [listeners_call hx, ← ht.listeners m, Hub.listenersOf_set hst _ rfl]
    by_cases hm : m = n
    · simp [hm, Hub.listenersOf, hst, Store.unsubscribe]
    · simp [hm, Ne.symm hm]

theorem step (ht : r.Tracks names h) {s : HubStep} (hs : s.Subscribes) :
    (r.step names s).Tracks names (h.step s).2 := by
  have hclear : r.Tracks names { h with events := [], log := [] } :=
    ⟨ht.valid, ht.known, ht.names, ht.placed, ht.tokens, ht.listeners⟩
  change (r.step names s).Tracks names (exec (Hub.perform s) { h with events := [], log := [] }).2
  cases s with
  | subscribe name listener token action =>
    rw [Register.step, Hub.perform]
    cases hn : Named.find? names name with
    | none =>
      rw [exec_bind_of_error (Hub.exec_number_of_none (hclear.names ▸ hn))]
      exact hclear
    | some n =>
      rw [exec_bind_of_ok (Hub.exec_number_of_some (hclear.names ▸ hn)), exec_bind_pure_state]
      exact hclear.subscribe (ht.known name n hn) listener token action
  | unsubscribe token =>
    rw [Register.step, Hub.perform, exec_bind_pure_state]
    cases howner : Named.find? r.owners token with
    | none =>
      have htoken := hclear.tokens token
      rw [howner, Option.bind_none] at htoken
      rw [Hub.exec_unsubscribe_of_none htoken]
      exact hclear
    | some k => exact hclear.unsubscribe howner
  | _ => exact absurd hs id

theorem run (ht : r.Tracks names h) {steps : List HubStep} (hsteps : ∀ s ∈ steps, s.Subscribes) :
    (r.run names steps).Tracks names (h.run steps) := by
  induction steps generalizing r h with
  | nil => exact ht
  | cons s rest ih =>
    exact ih (ht.step (hsteps s List.mem_cons_self)) fun t hmem => hsteps t (List.mem_cons_of_mem s hmem)

end Tracks

end Register

namespace Hub

variable {h : Hub} {n : Nat}

/-- Stores that nobody has subscribed to yet. -/
structure Unheard (h : Hub) : Prop where
  listeners : ∀ st ∈ h.stores, st.listeners = []
  tokens : h.tokens = []
  names : ∀ name n, Named.find? h.names name = some n → n < h.stores.length

theorem Unheard.tracks (hh : h.Unheard) : ({} : Register).Tracks h.names h where
  valid := ⟨fun _ _ hk => (by cases hk), fun _ hk => absurd hk List.not_mem_nil, fun _ hk => absurd hk List.not_mem_nil⟩
  known := hh.names
  names := rfl
  placed _ hx := absurd hx List.not_mem_nil
  tokens token := by rw [hh.tokens]; rfl
  listeners n := by
    rw [listenersOf]
    cases hst : h.stores[n]? with
    | none => rfl
    | some st => exact hh.listeners st (List.mem_of_getElem? hst)

/-- Listeners that only take note hear the flags in turn. -/
theorem exec_turns_of_plain {names : List String} {flags : Flags} (hflags : h.flagsOf n = some flags)
    (hplain : ∀ name ∈ names, (h.listener name).action = none) :
    exec (names.forM fun name => do call maxDepth n name (← store n).flags) h =
      (.ok (), names.foldl (fun h name => h.hear n name flags) h) := by
  induction names generalizing h with
  | nil => rfl
  | cons name names ih =>
    obtain ⟨st, hst, rfl⟩ := Option.map_eq_some_iff.1 hflags
    have hturn : exec (do call maxDepth n name (← store n).flags) h = (.ok (), h.hear n name st.flags) := by
      rw [exec_bind_of_ok (exec_store_of_some hst)]
      exact exec_call_of_plain (hplain name List.mem_cons_self)
    refine (exec_bind_of_ok hturn).trans (ih hflags fun other hother => ?_)
    rw [action_hear]
    exact hplain other (List.mem_cons_of_mem name hother)

theorem events_foldl_hear (names : List String) (flags : Flags) (h : Hub) :
    (names.foldl (fun h name => h.hear n name flags) h).events =
      h.events ++ names.map fun name => (name, flags) := by
  induction names generalizing h with
  | nil => simp
  | cons name names ih =>
    rw [List.foldl_cons, ih, hear]
    simp

theorem exec_notify_of_plain {flags : Flags} (hflags : h.flagsOf n = some flags)
    (hplain : ∀ name ∈ h.listenersOf n, (h.listener name).action = none) :
    ∃ told, exec (notify n) h = (.ok (), told) ∧
      told.events = h.events ++ (h.listenersOf n).map fun name => (name, flags) := by
  obtain ⟨st, hst, -⟩ := Option.map_eq_some_iff.1 hflags
  have hlisteners : h.listenersOf n = st.listeners := by rw [listenersOf, hst]; rfl
  refine ⟨_, ?_, events_foldl_hear (n := n) _ flags h⟩
  rw [notify, notifyWith, exec_bind_of_ok (exec_store_of_some hst), ← hlisteners]
  exact exec_turns_of_plain hflags hplain

/-- **Whom a notification calls.** After every run of subscriptions and calls of what they returned, the
listeners of a store are those of the subscriptions that are left when each call takes back the oldest one
of its listener. These are the subscriptions whose own callable was not called as long as every call takes
back its own, and no longer; so it is if no listener subscribes twice to a store. If no callable is called
twice, they have the same listeners as those, though perhaps in another order. A notification calls the
listeners in their order, if all they do is to take note. -/
theorem run_registrations (hstart : h.Unheard) {steps : List HubStep} (hsteps : ∀ s ∈ steps, s.Subscribes) (n : Nat) :
    let r := Register.run h.names {} steps
    let h' := h.run steps
    h'.listenersOf n = r.listeners n r.left ∧
    (Register.AptRun h.names {} steps → h'.listenersOf n = r.listeners n r.uncalled) ∧
    (Register.AptRun h.names {} steps ↔ ∀ begun, begun <+: steps →
      (Register.run h.names {} begun).left = (Register.run h.names {} begun).uncalled) ∧
    (r.made.Nodup → Register.AptRun h.names {} steps) ∧
    (r.calls.Nodup → (h'.listenersOf n).Perm (r.listeners n r.uncalled)) ∧
    ∀ flags, h'.flagsOf n = some flags → (∀ name ∈ h'.listenersOf n, (h'.listener name).action = none) →
      ∃ told, exec (notify n) h' = (.ok (), told) ∧
        told.events = h'.events ++ (h'.listenersOf n).map fun name => (name, flags) := by
  intro r h'
  have ht := hstart.tracks
  have hlisteners := (ht.run hsteps).listeners n
  have hiff := Register.left_run_iff ht.valid rfl h.names steps
  refine ⟨hlisteners, fun hapt => ?_, hiff.symm, Register.aptRun_of_nodup ht.valid, fun honce => ?_,
    fun flags => exec_notify_of_plain⟩
  · rw [hlisteners, hiff.2 hapt steps List.prefix_rfl]
  · rw [hlisteners]
    exact ((Register.perm_run ht.valid (List.Perm.refl _) honce).filter _).map _

/-- A store in memory that nobody has subscribed to yet. -/
def silent : Hub where
  files := ⟨.empty, ⟨"/", []⟩⟩
  stores := [⟨none, "main", {}, {}, []⟩]
  names := [("main", 0)]

theorem unheard_silent : silent.Unheard := by
  refine ⟨List.forall_mem_singleton.2 rfl, rfl, fun name n hn => ?_⟩
  obtain ⟨e, he, rfl⟩ := Option.map_eq_some_iff.1 hn
  rw [List.mem_singleton.1 (List.mem_of_find?_eq_some he)]
  exact Nat.zero_lt_one

/-- A listener subscribes before and after another, and takes its second subscription back. -/
def around : List HubStep :=
  [.subscribe "main" "a" "1" none, .subscribe "main" "b" "2" none, .subscribe "main" "a" "3" none, .unsubscribe "3"]

/-- Both are called once, but in the wrong order. -/
theorem run_registrations_around :
    silent.Unheard ∧ (∀ s ∈ around, s.Subscribes) ∧ (silent.run around).listenersOf 0 = ["b", "a"] ∧
      (["b", "a"] : List String).Perm ["a", "b"] ∧
      (Register.run silent.names {} around).listeners 0 (Register.run silent.names {} around).uncalled = ["a", "b"] ∧
      ∃ told, exec (notify 0) (silent.run around) = (.ok (), told) ∧ told.events = [("b", {}), ("a", {})] := by
  have hsteps : ∀ s ∈ around, s.Subscribes := by simp [around, HubStep.Subscribes]
  have hlisteners : (silent.run around).listenersOf 0 = ["b", "a"] := rfl
  have huncalled :
      (Register.run silent.names {} around).listeners 0 (Register.run silent.names {} around).uncalled = ["a", "b"] := rfl
  obtain ⟨-, -, -, -, hperm, hnotify⟩ := run_registrations unheard_silent hsteps 0
  have honce := hperm (List.nodup_singleton 2)
  have htold := hnotify {} rfl (by rw [hlisteners]; exact List.forall_mem_cons.2 ⟨rfl, List.forall_mem_singleton.2 rfl⟩)
  rw [hlisteners] at honce htold
  rw [huncalled] at honce
  exact ⟨unheard_silent, hsteps, hlisteners, honce, huncalled, htold⟩

/-- A listener subscribes twice, and what the first subscription returned is called twice. -/
def calledTwice : List HubStep :=
  [.subscribe "main" "a" "1" none, .subscribe "main" "a" "2" none, .unsubscribe "1", .unsubscribe "1"]

/-- Nobody is called, though what the second subscription returned was never called. -/
theorem second_call_takes_other :
    (silent.run calledTwice).listenersOf 0 = [] ∧
      (Register.run silent.names {} calledTwice).calls = [0, 0] ∧
      (Register.run silent.names {} calledTwice).listeners 0 (Register.run silent.names {} calledTwice).uncalled =
        ["a"] ∧
      (exec (notify 0) (silent.run calledTwice)).2.events = [] :=
  ⟨rfl, rfl, rfl, rfl⟩

end Hub

end Landmarks
