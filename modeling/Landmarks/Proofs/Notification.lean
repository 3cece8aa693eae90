import Landmarks.Proofs.HubOperations

/-!
# What listeners have heard

A listener may change a store while the store is still calling listeners, so that calls with old and new
flags mix.

* `Hub.heardFrom` : the flags that a store gave a listener, in order.
* `Hub.Told` : every listener of a store has heard its present flags last.
* `Hub.Follows` : what listeners can do to a store. Its listeners get fewer, and either nothing happens
  to it or all its listeners are told in the end.
* `call_follows` : whatever a listener does is of this kind, by induction on the depth of the calls.
* `told_last` : after a change or a notification that succeeds, all listeners of the store are told.
-/

namespace Landmarks.Hub

/-- The flags in force in a store. -/
def flagsOf (h : Hub) (n : Nat) : Option Flags := h.stores[n]?.map (·.flags)

/-- The listeners of a store. -/
def listenersOf (h : Hub) (n : Nat) : List String := (h.stores[n]?.map (·.listeners)).getD []

/-- The flags that a store gave a listener, in order. -/
def heardFrom (h : Hub) (n : Nat) (name : String) : List Flags :=
  ((h.listener name).heard.filter fun e => e.1 == n).map (·.2)

/-- Of the listeners in a list, those that a store still has have heard its present flags last. -/
def ToldOf (n : Nat) (names : List String) (h : Hub) : Prop :=
  ∀ name ∈ names, name ∈ h.listenersOf n → (h.heardFrom n name).getLast? = h.flagsOf n

/-- Every listener of a store has heard its present flags last. -/
def Told (n : Nat) (h : Hub) : Prop := ToldOf n (h.listenersOf n) h

/-- Nothing happens to a store or is heard from it. -/
def Quiet (n : Nat) (h h' : Hub) : Prop :=
  h'.flagsOf n = h.flagsOf n ∧ ∀ name, h'.heardFrom n name = h.heardFrom n name

/-- What listeners can do to a store. -/
def Follows (n : Nat) (h h' : Hub) : Prop :=
  h'.listenersOf n ⊆ h.listenersOf n ∧ (Quiet n h h' ∨ h'.Told n)

section Follows

variable {n : Nat} {h h' h'' : Hub}

theorem Follows.refl (n : Nat) (h : Hub) : Follows n h h :=
  ⟨List.Subset.refl _, Or.inl ⟨rfl, fun _ => rfl⟩⟩

theorem ToldOf.follows {names : List String} (ht : ToldOf n names h) (hf : Follows n h h') :
    ToldOf n names h' := by
  obtain ⟨hsub, ⟨hflags, hheard⟩ | htold⟩ := hf
  · intro name hname hstill
    rw [hheard, hflags]
    exact ht name hname (hsub hstill)
  · exact fun name _ hstill => htold name hstill hstill

theorem Follows.trans (hf : Follows n h h') (hf' : Follows n h' h'') : Follows n h h'' := by
  refine ⟨List.Subset.trans hf'.1 hf.1, ?_⟩
  rcases hf'.2 with hquiet | htold
  · rcases hf.2 with hquiet' | htold'
    · exact Or.inl ⟨hquiet.1.trans hquiet'.1, fun name => (hquiet.2 name).trans (hquiet'.2 name)⟩
    · exact Or.inr fun name hname => htold'.follows hf' name (hf'.1 hname)
  · exact Or.inr htold

end Follows

/-! ## Parts of the state -/

section Parts

variable (h : Hub) (n m : Nat) (name other : String) (flags : Flags)

theorem listener_hear_self :
    (h.hear n name flags).listener name =
      { h.listener name with heard := (h.listener name).heard ++ [(n, flags)] } := by
  rw [listener, hear, Named.find?_put_self, Option.getD_some]

theorem listener_hear_of_ne (hne : other ≠ name) :
    (h.hear n name flags).listener other = h.listener other := by
  rw [listener, hear, Named.find?_put_of_ne _ hne, ← listener]

theorem action_hear : ((h.hear n name flags).listener other).action = (h.listener other).action := by
  by_cases hname : other = name
  · rw [hname, listener_hear_self]
  · rw [listener_hear_of_ne h n name other flags hname]

theorem heardFrom_hear_self : (h.hear n name flags).heardFrom n name = h.heardFrom n name ++ [flags] := by
  rw [heardFrom, listener_hear_self, heardFrom]
  simp

theorem heardFrom_hear_of_ne (hne : ¬(m = n ∧ other = name)) :
    (h.hear n name flags).heardFrom m other = h.heardFrom m other := by
  by_cases hname : other = name
  · subst hname
    have hnm : (n == m) = false := beq_false_of_ne fun hnm => hne ⟨hnm.symm, rfl⟩
    rw [heardFrom, listener_hear_self, heardFrom]
    simp [hnm]
  · rw [heardFrom, listener_hear_of_ne h n name other flags hname, heardFrom]

end Parts

theorem follows_hear {n m : Nat} (hne : n ≠ m) (h : Hub) (name : String) (flags : Flags) :
    Follows n h (h.hear m name flags) :=
  ⟨List.Subset.refl _, Or.inl ⟨rfl, fun other =>
    heardFrom_hear_of_ne h m n name other flags fun hsame => hne hsame.1⟩⟩

theorem ToldOf.hear {n : Nat} {names : List String} {h : Hub} {flags : Flags} (ht : ToldOf n names h)
    (hflags : h.flagsOf n = some flags) (name : String) :
    ToldOf n (names ++ [name]) (h.hear n name flags) := by
  intro other hother hstill
  change _ = h.flagsOf n
  by_cases hname : other = name
  · rw [hname, heardFrom_hear_self, List.getLast?_concat, hflags]
  · rw [heardFrom_hear_of_ne h n n name other flags fun hsame => hname hsame.2]
    refine ht other ?_ hstill
    rcases List.mem_append.1 hother with hmem | hmem
    · exact hmem
    · exact absurd (List.mem_singleton.1 hmem) hname

section Set

variable {k : Nat} {h h' : Hub} {old : Store String} (hold : h.stores[k]? = some old) (new : Store String)
  (hstores : h'.stores = h.stores.set k new)

include hold hstores

theorem stores_of_set (n : Nat) :
    h'.stores[n]? = if n = k then some new else h.stores[n]? := by
  rw [hstores]
  split
  · rename_i hnk
    rw [hnk, List.getElem?_set_self (List.getElem?_eq_some_iff.1 hold).1]
  · rename_i hnk
    rw [List.getElem?_set_ne (Ne.symm hnk)]

theorem listenersOf_set (n : Nat) :
    h'.listenersOf n = if n = k then new.listeners else h.listenersOf n := by
  unfold listenersOf
  rw [stores_of_set hold new hstores n]
  split <;> rfl

theorem listenersOf_of_set (hsub : new.listeners ⊆ old.listeners) (n : Nat) :
    h'.listenersOf n ⊆ h.listenersOf n := by
  unfold listenersOf
  rw [stores_of_set hold new hstores n]
  split
  · rename_i hnk
    rw [hnk, hold]
    exact hsub
  · exact List.Subset.refl _

/-- Another store in a place leaves all else as it is. -/
theorem follows_of_set (hlisteners : h'.listeners = h.listeners) (hsub : new.listeners ⊆ old.listeners)
    {n : Nat} (hflags : n = k → new.flags = old.flags) : Follows n h h' := by
  refine ⟨listenersOf_of_set hold new hstores hsub n, Or.inl ⟨?_, fun name => ?_⟩⟩
  · unfold flagsOf
    rw [stores_of_set hold new hstores n]
    split
    · rename_i hnk
      rw [hnk, hold, Option.map_some, Option.map_some, hflags hnk]
    · rfl
  · rw [heardFrom, listener, hlisteners, ← listener, ← heardFrom]

end Set

/-! ## Calls -/

/-- A listener that does not act only takes note. -/
theorem exec_call_of_plain {h : Hub} {n depth : Nat} {name : String} {flags : Flags}
    (hplain : (h.listener name).action = none) :
    exec (call (depth + 1) n name flags) h = (.ok (), h.hear n name flags) := by
  rw [call, exec_get_bind, exec_modify_bind, hplain]
  rfl

theorem unsubscribe_follows {h h' : Hub} {token : String} (hrun : exec (unsubscribe token) h = (.ok (), h'))
    (n : Nat) : Follows n h h' := by
  obtain ⟨k, name, st, hst, rfl⟩ := exec_unsubscribe_eq_ok hrun
  refine follows_of_set hst (st.unsubscribe name) ?_ ?_ List.erase_subset fun _ => rfl <;> rfl

/-- A way to call listeners that does nothing to a store but what listeners can do. -/
def CallsFollow (call : Nat → String → Flags → Op Unit) : Prop :=
  ∀ m name flags h h', exec (call m name flags) h = (.ok (), h') → ∀ n, Follows n (h.hear m name flags) h'

section Calls

variable {call : Nat → String → Flags → Op Unit} {n : Nat} {h h' : Hub}

/-- The turns of a notification: the listeners that had theirs are told, whatever the others do, and other
stores see only what listeners do. -/
theorem turns_follow (hcall : CallsFollow call) {names : List String}
    (hrun : exec (names.forM fun name => do call n name (← store n).flags) h = (.ok (), h')) :
    (∀ m ≠ n, Follows m h h') ∧ h'.listenersOf n ⊆ h.listenersOf n ∧
      ∀ told, ToldOf n told h → ToldOf n (told ++ names) h' := by
  induction names generalizing h with
  | nil =>
    cases hrun
    exact ⟨fun m _ => Follows.refl m _, List.Subset.refl _, fun told ht => (List.append_nil told).symm ▸ ht⟩
  | cons name rest ih =>
    obtain ⟨⟨⟩, mid, hfirst, hrest⟩ := exec_bind_eq_ok.1 hrun
    obtain ⟨st, start, hst, hturn⟩ := exec_bind_eq_ok.1 hfirst
    obtain ⟨hget, rfl⟩ := exec_store_eq_ok hst
    obtain ⟨hothers, hsub, htold⟩ := ih hrest
    have hflags : h.flagsOf n = some st.flags := by rw [flagsOf, hget, Option.map_some]
    have hself := hcall n name st.flags h mid hturn n
    refine ⟨fun m hm => ?_, List.Subset.trans hsub hself.1, fun told ht => ?_⟩
    · exact ((follows_hear hm h name st.flags).trans (hcall n name st.flags h mid hturn m)).trans (hothers m hm)
    · have hmid : ToldOf n (told ++ [name]) mid := (ht.hear hflags name).follows hself
      have hend := htold _ hmid
      rwa [List.append_assoc] at hend

theorem notify_follows (hcall : CallsFollow call) (hrun : exec (notifyWith call n) h = (.ok (), h')) :
    (∀ m ≠ n, Follows m h h') ∧ h'.listenersOf n ⊆ h.listenersOf n ∧ h'.Told n := by
  obtain ⟨st, start, hst, hturns⟩ := exec_bind_eq_ok.1 hrun
  obtain ⟨hget, rfl⟩ := exec_store_eq_ok hst
  obtain ⟨hothers, hsub, htold⟩ := turns_follow hcall hturns
  refine ⟨hothers, hsub, fun name hname => ?_⟩
  have hnames : h.listenersOf n = st.listeners := by rw [listenersOf, hget, Option.map_some, Option.getD_some]
  have hstart : ToldOf n [] h := fun name hmem => absurd hmem List.not_mem_nil
  exact htold [] hstart name (hnames ▸ hsub hname)

theorem apply_follows (hcall : CallsFollow call) {flags : Flags}
    (hrun : exec (applyWith call n flags) h = (.ok (), h')) :
    (∀ m ≠ n, Follows m h h') ∧ h'.listenersOf n ⊆ h.listenersOf n ∧ h'.Told n := by
  obtain ⟨⟨⟩, mid, hsave, hnotify⟩ := exec_bind_eq_ok.1 hrun
  obtain ⟨old, files, log, hold, -, rfl⟩ := exec_save_eq_ok hsave
  obtain ⟨hothers, hsub, htold⟩ := notify_follows hcall hnotify
  refine ⟨fun m hm => ?_, ?_, htold⟩
  · refine Follows.trans ?_ (hothers m hm)
    refine follows_of_set hold { old with flags } ?_ ?_ (List.Subset.refl _) fun hmn => absurd hmn hm
    · rfl
    · rfl
  · refine List.Subset.trans hsub ?_
    exact listenersOf_of_set hold { old with flags } rfl (List.Subset.refl _) n

theorem update_follows (hcall : CallsFollow call) {changes : List (String × Json)} {flags : Flags}
    (hrun : exec (updateWith call n changes) h = (.ok flags, h')) :
    (∀ m ≠ n, Follows m h h') ∧ h'.listenersOf n ⊆ h.listenersOf n ∧ h'.Told n := by
  rw [updateWith] at hrun
  cases hchanges : checkChanges changes with
  | error e =>
    rw [hchanges] at hrun
    cases hrun
  | ok fit =>
    rw [hchanges] at hrun
    obtain ⟨st, start, hst, happly⟩ := exec_bind_eq_ok.1 hrun
    obtain ⟨-, rfl⟩ := exec_store_eq_ok hst
    obtain ⟨⟨⟩, mid, happly, hend⟩ := exec_bind_eq_ok.1 happly
    cases hend
    exact apply_follows hcall happly

end Calls

/-- By induction on the depth: a listener that changes a store has all listeners of that store told before
it returns, and nothing happens to other stores but by such changes. -/
theorem call_follows (depth : Nat) : CallsFollow (call depth) := by
  induction depth with
  | zero =>
    intro m name flags h h' hrun
    cases hrun
  | succ depth ih =>
    intro m name flags h h' hrun n
    rw [call, exec_get_bind, exec_modify_bind] at hrun
    cases haction : (h.listener name).action with
    | none =>
      rw [haction] at hrun
      cases hrun
      exact Follows.refl n _
    | some action =>
      simp only [haction] at hrun
      split at hrun
      · cases hrun
        exact Follows.refl n _
      · cases hreaction : action.reaction with
        | fail fault =>
          rw [hreaction] at hrun
          cases hrun
        | unsubscribe token =>
          rw [hreaction] at hrun
          exact unsubscribe_follows hrun n
        | update storeName changes =>
          rw [hreaction] at hrun
          obtain ⟨k, start, hk, hupdate⟩ := exec_bind_eq_ok.1 hrun
          obtain ⟨-, rfl⟩ := exec_number_eq_ok hk
          obtain ⟨result, mid, hupdate, hend⟩ := exec_bind_eq_ok.1 hupdate
          cases hend
          obtain ⟨hothers, hsub, htold⟩ := update_follows ih hupdate
          by_cases hnk : n = k
          · subst hnk
            exact ⟨hsub, Or.inr htold⟩
          · exact hothers n hnk

/-- **No listener is left with old flags.** When a notification or a change of a store succeeds, however
deep the calls were nested, every listener that is still registered has heard the present flags of the
store last, of all that it heard from this store. -/
theorem told_last (depth : Nat) {h h' : Hub} {n : Nat}
    (hrun : exec (notifyWith (call depth) n) h = (.ok (), h') ∨
      (∃ flags, exec (applyWith (call depth) n flags) h = (.ok (), h')) ∨
      ∃ changes flags, exec (updateWith (call depth) n changes) h = (.ok flags, h'))
    {st : Store String} (hst : h'.stores[n]? = some st) {name : String} (hname : name ∈ st.listeners) :
    (h'.heardFrom n name).getLast? = some st.flags := by
  have htold : h'.Told n := by
    rcases hrun with hrun | ⟨flags, hrun⟩ | ⟨changes, flags, hrun⟩
    · exact (notify_follows (call_follows depth) hrun).2.2
    · exact (apply_follows (call_follows depth) hrun).2.2
    · exact (update_follows (call_follows depth) hrun).2.2
  have hnames : h'.listenersOf n = st.listeners := by rw [listenersOf, hst, Option.map_some, Option.getD_some]
  have hflags : h'.flagsOf n = some st.flags := by rw [flagsOf, hst, Option.map_some]
  rw [← hflags]
  exact htold name (hnames ▸ hname) (hnames ▸ hname)

/-- A store with a listener that changes it when it is called for the first time, and one that comes
behind it. -/
def changedOnTheWay : Hub :=
  ({ files := ⟨.empty, ⟨"/", []⟩⟩ } : Hub).run
    [.openStore none "main" "main" {},
      .subscribe "main" "first" "t1" (some ⟨.update "main" [("show_classes", .bool false)], true⟩),
      .subscribe "main" "second" "t2" none]

/-- The listener behind is called twice, both times with the flags that the first one set. -/
theorem told_last_changed :
    exec (applyWith (call maxDepth) 0 { functions := false }) changedOnTheWay =
        (.ok (), (exec (apply 0 { functions := false }) changedOnTheWay).2) ∧
      "second" ∈ (exec (apply 0 { functions := false }) changedOnTheWay).2.listenersOf 0 ∧
      ((exec (apply 0 { functions := false }) changedOnTheWay).2.heardFrom 0 "second").length = 2 ∧
      ((exec (apply 0 { functions := false }) changedOnTheWay).2.heardFrom 0 "second").getLast? =
        some { functions := false, classes := false } := by
  have hlisteners : "second" ∈ (exec (apply 0 { functions := false }) changedOnTheWay).2.listenersOf 0 := by
    decide
  have hrun : exec (applyWith (call maxDepth) 0 { functions := false }) changedOnTheWay =
      (.ok (), (exec (apply 0 { functions := false }) changedOnTheWay).2) := rfl
  refine ⟨hrun, hlisteners, by decide, ?_⟩
  exact told_last maxDepth (Or.inr (Or.inl ⟨{ functions := false }, hrun⟩)) rfl hlisteners

/-- Two stores, of which `main` has a listener that changes the other one; `l` listens to both. -/
def twoStores : Hub :=
  ({ files := ⟨.empty, ⟨"/", []⟩⟩ } : Hub).run
    [.openStore none "main" "main" {}, .openStore none "other" "other" {},
      .subscribe "main" "l" "t1" none, .subscribe "other" "l" "t2" none,
      .subscribe "main" "u" "t3" (some ⟨.update "other" [("show_headers", .bool false)], false⟩)]

/-- What a listener of two stores heard last may come from the other one. -/
theorem heard_last_from_other :
    (twoStores.step (.apply "main" { functions := false })).1 = .ok none ∧
      "l" ∈ twoStores.listenersOf 0 ∧
      "l" ∈ (twoStores.step (.apply "main" { functions := false })).2.listenersOf 0 ∧
      ((twoStores.step (.apply "main" { functions := false })).2.listener "l").heard.getLast?.map (·.2) ≠
        (twoStores.step (.apply "main" { functions := false })).2.flagsOf 0 := by
  refine ⟨rfl, by decide, by decide, by decide⟩

end Landmarks.Hub
