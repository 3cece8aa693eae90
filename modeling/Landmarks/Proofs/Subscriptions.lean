import Landmarks.Proofs.FailedWrites
import Landmarks.Proofs.Publications
import Mathlib.Data.List.Nodup

/-!
# Who is told of new flags

* `DeskStep.attaches`, `Desk.disposals` : which overlays a run opens attached to the store, and which it
  disposes of.
* `Desk.subscribers` : the overlays that were opened attached and not disposed of, in order.
* `Desk.Tracked` : the listeners of the store are the subscribers; every step keeps it so.
* `Desk.Reaches` : what a notification does to the overlays it reached and to all others.
* `Desk.Rests` : an overlay that is disposed of publishes nothing and keeps its markers.
* `Desk.run_subscriptions` : the three of them along every run.
-/

namespace Landmarks

/-- Whether the overlay that a step opens is attached to the store. -/
def DeskStep.attaches : DeskStep → Option Bool
  | .openOverlay _ _ _ attach _ => some attach
  | _ => none

namespace Desk

/-- The number of the overlay that a step disposes of. -/
def disposing (d : Desk) : DeskStep → Option Nat
  | .dispose id => Named.find? d.names id
  | _ => none

/-- The numbers of the overlays that some steps dispose of. -/
def disposals (d : Desk) : List DeskStep → List Nat
  | [] => []
  | s :: rest => (d.disposing s).toList ++ (d.step s).2.disposals rest

/-- The flags that a step asks for. -/
def requested (d : Desk) : DeskStep → Option Flags
  | .apply flags => some flags
  | .update changes => (checkChanges changes).toOption.map d.store.flags.setAll
  | _ => none

/-- How an operation ends that hands markers to a receiver. -/
def receipt : Option Fault → Except DeskError Unit
  | some fault => .error (.refused fault)
  | none => .ok ()

/-- Why the receiver of an overlay refuses what it is given, if it does. -/
def refusalOf (d : Desk) (n : Nat) : Option Fault := d.overlays[n]?.bind fun ob => ob.2.refusal

/-- The overlays that were opened attached and not disposed of, in the order in which they were opened. -/
def subscribers (attached : List Bool) (gone : List Nat) : List Nat :=
  (List.range attached.length).filter fun n => attached[n]? == some true && !gone.contains n

theorem nodup_subscribers (attached : List Bool) (gone : List Nat) : (subscribers attached gone).Nodup :=
  List.nodup_range.filter _

theorem mem_subscribers {attached : List Bool} {gone : List Nat} {n : Nat} :
    n ∈ subscribers attached gone ↔ attached[n]? = some true ∧ n ∉ gone := by
  simp only [subscribers, List.mem_filter, List.mem_range, Bool.and_eq_true, beq_iff_eq, Bool.not_eq_true',
    List.contains_eq_mem, decide_eq_false_iff_not]
  constructor
  · exact fun h => h.2
  · exact fun h => ⟨(List.getElem?_eq_some_iff.1 h.1).1, h⟩

theorem subscribers_concat {attached : List Bool} {gone : List Nat} (hgone : ∀ n ∈ gone, n < attached.length)
    (attach : Bool) :
    subscribers (attached ++ [attach]) gone =
      subscribers attached gone ++ if attach then [attached.length] else [] := by
  have hold : (List.range attached.length).filter
        (fun n => (attached ++ [attach])[n]? == some true && !gone.contains n) = subscribers attached gone := by
    refine List.filter_congr fun n hn => ?_
    rw [List.getElem?_append_left (List.mem_range.1 hn)]
  have hfresh : attached.length ∉ gone := fun hmem => absurd (hgone _ hmem) (Nat.lt_irrefl _)
  rw [subscribers, List.length_append, List.length_singleton, List.range_succ, List.filter_append, hold]
  cases attach <;> simp [hfresh]

theorem subscribers_dispose (attached : List Bool) (gone : List Nat) (n : Nat) :
    subscribers attached (gone ++ [n]) = (subscribers attached gone).erase n := by
  rw [(nodup_subscribers attached gone).erase_eq_filter, subscribers, subscribers, List.filter_filter]
  refine List.filter_congr fun m _ => ?_
  by_cases hm : m = n <;> simp [hm]

/-! ## Subscriptions along a run -/

/-- Which overlays have a subscription to take back, and which are disposed of. -/
def statuses (d : Desk) : List (Bool × Bool) := d.overlays.map fun ob => (ob.1.attached, ob.1.disposed)

/-- No subscription is made or taken back. -/
structure Calm (d d' : Desk) : Prop where
  statuses : d'.statuses = d.statuses
  listeners : d'.store.listeners = d.store.listeners
  names : d'.names = d.names

/-- The listeners of the store are the overlays that were opened attached and not disposed of. -/
structure Tracked (attached : List Bool) (gone : List Nat) (d : Desk) : Prop where
  statuses : ∀ n, d.statuses[n]? = attached[n]?.map fun a => (a && !gone.contains n, gone.contains n)
  listeners : d.store.listeners = subscribers attached gone
  known : ∀ n ∈ gone, n < attached.length
  names : ∀ id n, Named.find? d.names id = some n → n < attached.length

section Calm

variable {d : Desk}

theorem Calm.refl (d : Desk) : Calm d d := ⟨rfl, rfl, rfl⟩

theorem Calm.trans {d' d'' : Desk} (h : Calm d d') (h' : Calm d' d'') : Calm d d'' :=
  ⟨h'.statuses.trans h.statuses, h'.listeners.trans h.listeners, h'.names.trans h.names⟩

theorem calm_modify {f : Overlay × Buffer → Overlay × Buffer} (n : Nat)
    (hf : ∀ ob, ((f ob).1.attached, (f ob).1.disposed) = (ob.1.attached, ob.1.disposed)) :
    Calm d { d with overlays := d.overlays.modify n f } :=
  ⟨map_modify_of_same hf d.overlays n, rfl, rfl⟩

theorem calm_publish (n : Nat) (trigger : Trigger) (o : Overlay) (b : Buffer) : Calm d (d.publish n trigger o b) := by
  refine ⟨map_modify_of_same ?_ d.overlays n, rfl, rfl⟩
  exact fun _ => rfl

theorem calm_refresh (n : Nat) (trigger : Trigger) (d : Desk) : Calm d (exec (refresh n trigger) d).2 := by
  rcases hn : d.overlays[n]? with _ | ⟨o, b⟩
  · rw [exec_refresh_of_none trigger hn]
    exact Calm.refl d
  · cases hdisposed : o.disposed with
    | true =>
      rw [exec_refresh_of_disposed trigger hn hdisposed]
      exact Calm.refl d
    | false =>
      rw [exec_refresh_of_live trigger hn hdisposed]
      exact calm_publish n trigger o b

theorem calm_settingsChanged (n : Nat) (flags : Flags) (d : Desk) : Calm d (exec (settingsChanged n flags) d).2 := by
  have hflags : Calm d (d.withFlags n flags) := calm_modify n fun _ => rfl
  rw [exec_settingsChanged]
  exact hflags.trans (calm_refresh n _ _)

theorem calm_saved (flags : Flags) (d : Desk) : Calm d (d.saved flags) where
  statuses := congrArg (List.map _) (overlays_saved flags d)
  listeners := by rw [store_saved]
  names := names_saved flags d

/-- What saving flags and telling an overlay do to a desk, putting flags in force does. -/
theorem exec_apply_rel {R : Desk → Desk → Prop} (hrefl : ∀ d, R d d)
    (htrans : ∀ {d d' d''}, R d d' → R d' d'' → R d d'') {flags : Flags} {d : Desk} (hsaved : R d (d.saved flags))
    (htold : ∀ n flags d, R d (exec (settingsChanged n flags) d).2) : R d (exec (apply flags) d).2 := by
  cases hsaving : d.saving flags with
  | error e =>
    rw [exec_apply_of_unsaved hsaving]
    exact hsaved
  | ok _ =>
    rw [exec_apply_of_saved hsaving, notify, exec_get_bind]
    exact htrans hsaved (exec_forM_rel (R := R) hrefl htrans (fun n _ d' => htold n d'.store.flags d') _)

theorem calm_apply (flags : Flags) (d : Desk) : Calm d (exec (apply flags) d).2 :=
  exec_apply_rel Calm.refl Calm.trans (calm_saved flags d) calm_settingsChanged

end Calm

namespace Tracked

variable {attached : List Bool} {gone : List Nat} {d d' : Desk}

theorem calm (h : d.Tracked attached gone) (hcalm : Calm d d') : d'.Tracked attached gone where
  statuses n := hcalm.statuses ▸ h.statuses n
  listeners := hcalm.listeners.trans h.listeners
  known := h.known
  names := hcalm.names ▸ h.names

theorem length_overlays (h : d.Tracked attached gone) : d.overlays.length = attached.length := by
  have hbeyond : ∀ n, d.overlays.length ≤ n ↔ attached.length ≤ n := by
    intro n
    have hstatus := h.statuses n
    rw [Desk.statuses, List.getElem?_map] at hstatus
    rw [← List.getElem?_eq_none_iff, ← List.getElem?_eq_none_iff, ← Option.map_eq_none_iff, hstatus,
      Option.map_eq_none_iff]
  have hleft := hbeyond d.overlays.length
  have hright := hbeyond attached.length
  omega

/-- What is known of the state of an overlay. -/
theorem overlay (h : d.Tracked attached gone) {n : Nat} {o : Overlay} {b : Buffer}
    (hn : d.overlays[n]? = some (o, b)) :
    ∃ a, attached[n]? = some a ∧ o.attached = (a && !gone.contains n) ∧ o.disposed = gone.contains n := by
  have hstatus := h.statuses n
  rw [Desk.statuses, List.getElem?_map, hn, Option.map_some] at hstatus
  obtain ⟨a, ha, heq⟩ := Option.map_eq_some_iff.1 hstatus.symm
  exact ⟨a, ha, (congrArg Prod.fst heq).symm, (congrArg Prod.snd heq).symm⟩

theorem exists_overlay (h : d.Tracked attached gone) {n : Nat} (hn : n < attached.length) :
    ∃ o b, d.overlays[n]? = some (o, b) :=
  ⟨_, _, List.getElem?_eq_getElem (h.length_overlays ▸ hn)⟩

/-- Every listener is an overlay in use. -/
theorem live (h : d.Tracked attached gone) {n : Nat} (hn : n ∈ d.store.listeners) :
    ∃ o b, d.overlays[n]? = some (o, b) ∧ o.disposed = false := by
  rw [h.listeners, mem_subscribers] at hn
  obtain ⟨o, b, hget⟩ := h.exists_overlay (List.getElem?_eq_some_iff.1 hn.1).1
  obtain ⟨a, -, -, hdisposed⟩ := h.overlay hget
  exact ⟨o, b, hget, hdisposed.trans (by simpa using hn.2)⟩

/-- An overlay is added, with a subscription if it is attached. The first publication, which may fail,
comes after that. -/
theorem openOverlay (h : d.Tracked attached gone) (id : String) (mode : Mode) (buffer : Buffer) (attach : Bool)
    (given : Option Flags) :
    (exec (Desk.openOverlay id mode buffer attach given) d).2.Tracked (attached ++ [attach]) gone := by
  let o := d.newOverlay id mode attach given
  have hlength := h.length_overlays
  have hfresh : attached.length ∉ gone := fun hmem => absurd (h.known _ hmem) (Nat.lt_irrefl _)
  have hadded : (d.seat o buffer).Tracked (attached ++ [attach]) gone := by
    refine ⟨fun n => ?_, ?_, fun n hn => ?_, fun name n hn => ?_⟩
    · have hstatuses : (d.seat o buffer).statuses = d.statuses ++ [(attach, false)] := by
        simp [Desk.statuses, seat, o, newOverlay]
      have hsame : d.statuses.length = attached.length := by simp [Desk.statuses, hlength]
      rw [hstatuses]
      by_cases hn : n < attached.length
      · rw [List.getElem?_append_left (hsame ▸ hn), List.getElem?_append_left hn]
        exact h.statuses n
      · rw [List.getElem?_append_right (by omega), List.getElem?_append_right (by omega), hsame]
        by_cases hlast : n = attached.length
        · simp [hlast, hfresh]
        · have hbeyond : n - attached.length ≠ 0 := by omega
          simp [hbeyond]
    · rw [subscribers_concat h.known, ← h.listeners]
      cases attach <;> simp [seat, o, newOverlay, Store.subscribe, hlength]
    · have := h.known n hn
      rw [List.length_append, List.length_singleton]
      omega
    · have := h.names name n hn
      rw [List.length_append, List.length_singleton]
      omega
  have hpublished := hadded.calm (calm_publish d.overlays.length .textChanged o buffer)
  rw [exec_openOverlay]
  cases buffer.refusal with
  | some fault => exact hpublished
  | none =>
    refine ⟨hpublished.statuses, hpublished.listeners, hpublished.known, fun name n hn => ?_⟩
    by_cases hname : name = id
    · rw [hname, Named.find?_put_self] at hn
      cases hn
      simp [hlength]
    · rw [Named.find?_put_of_ne _ hname] at hn
      exact hpublished.names name n hn

/-- An overlay is disposed of, and its subscription goes if it has one. -/
theorem dispose (h : d.Tracked attached gone) {n : Nat} (hn : n < attached.length) :
    (exec (Desk.dispose n) d).2.Tracked attached (gone ++ [n]) := by
  obtain ⟨o, b, hget⟩ := h.exists_overlay hn
  obtain ⟨a, ha, hattached, hdisposed⟩ := h.overlay hget
  have hknown : ∀ m ∈ gone ++ [n], m < attached.length := by
    intro m hm
    rcases List.mem_append.1 hm with hm | hm
    · exact h.known m hm
    · rwa [List.mem_singleton.1 hm]
  cases hcase : o.disposed with
  | true =>
    have hgone : gone.contains n = true := hdisposed.symm.trans hcase
    have hsame : ∀ m, (gone ++ [n]).contains m = gone.contains m := by
      intro m
      by_cases hm : m = n
      · subst hm
        rw [hgone]
        simp
      · simp [hm]
    rw [exec_dispose_of_disposed hget hcase]
    refine ⟨fun m => ?_, ?_, hknown, h.names⟩
    · rw [hsame]
      exact h.statuses m
    · rw [subscribers_dispose, List.erase_of_not_mem, h.listeners]
      rw [mem_subscribers]
      exact fun hmem => hmem.2 (by simpa using hgone)
  | false =>
    have hgone : gone.contains n = false := hdisposed.symm.trans hcase
    rw [exec_dispose_of_live hget hcase]
    refine ⟨fun m => ?_, ?_, hknown, h.names⟩
    · rw [Desk.statuses, retire, List.getElem?_map, List.getElem?_modify]
      by_cases hm : n = m
      · subst hm
        simp [hget, ha]
      · have hstatus := h.statuses m
        rw [Desk.statuses, List.getElem?_map] at hstatus
        simp only [if_neg hm, List.contains_append, List.contains_cons, List.contains_nil,
          beq_eq_false_iff_ne.2 (Ne.symm hm), Bool.or_false] at hstatus ⊢
        rw [← hstatus]
        cases d.overlays[m]? <;> rfl
    · rw [subscribers_dispose, ← h.listeners]
      rw [hgone, Bool.not_false, Bool.and_true] at hattached
      subst hattached
      cases hsub : o.attached with
      | true => simp [retire, hsub, Store.unsubscribe]
      | false =>
        have hnot : n ∉ d.store.listeners := by
          rw [h.listeners, mem_subscribers, ha, hsub]
          simp
        simp [retire, hsub, List.erase_of_not_mem hnot]

/-- An operation on the overlay of an id that makes or takes back no subscription. -/
theorem named (h : d.Tracked attached gone) {names : Desk → Named Nat} {id : String} {f : Nat → Op Unit}
    (hf : ∀ n, Calm d (exec (f n) d).2) :
    (exec ((do number (names (← get)) id) >>= f) d).2.Tracked attached gone :=
  exec_bind_number (P := Tracked attached gone) h fun n => h.calm (hf n)

theorem step (h : d.Tracked attached gone) (s : DeskStep) :
    (d.step s).2.Tracked (attached ++ s.attaches.toList) (gone ++ (d.disposing s).toList) := by
  have hclear : { d with publications := [], log := [] }.Tracked attached gone := h.calm ⟨rfl, rfl, rfl⟩
  -- Steps that neither open nor dispose leave the record of the run as it is.
  have hsame : ∀ {d' : Desk}, d'.Tracked attached gone → d'.Tracked (attached ++ []) (gone ++ []) := by
    intro d' h'
    rwa [List.append_nil, List.append_nil]
  change (exec (perform s) _).2.Tracked _ _
  cases s with
  | openOverlay id mode buffer attach given =>
    have hopened := hclear.openOverlay id mode buffer attach given
    rw [← List.append_nil gone] at hopened
    exact hopened
  | dispose id =>
    change (exec ((do number (← get).names id) >>= Desk.dispose) _).2.Tracked (attached ++ [])
      (gone ++ (Named.find? d.names id).toList)
    cases hid : Named.find? d.names id with
    | none =>
      rw [exec_bind_of_error ((exec_get_bind _ _).trans (by rw [number, hid, exec_throw]))]
      exact hsame hclear
    | some n =>
      rw [exec_bind_of_ok ((exec_get_bind _ _).trans (by rw [number, hid, exec_pure])), List.append_nil]
      exact hclear.dispose (h.names id n hid)
  | update changes =>
    refine hsame ?_
    rw [perform]
    cases hfit : checkChanges changes with
    | error e =>
      rw [exec_update_of_unfit hfit]
      exact hclear
    | ok fit =>
      rw [exec_update_of_fit hfit]
      exact hclear.calm (calm_apply _ _)
  | apply flags =>
    rw [perform]
    exact hsame (hclear.calm (calm_apply flags _))
  | setFiles files => exact hsame (hclear.calm ⟨rfl, rfl, rfl⟩)
  | refresh id trigger =>
    refine hsame (hclear.named fun n => ?_)
    unfold refreshNamed
    cases Trigger.ofName? trigger with
    | none => exact Calm.refl _
    | some t => exact calm_refresh n t _
  | settingsChanged id flags => exact hsame (hclear.named fun n => calm_settingsChanged n flags _)
  | setText id text => exact hsame (hclear.named fun n => calm_modify n fun _ => rfl)
  | setBroken id fault => exact hsame (hclear.named fun n => calm_modify n fun _ => rfl)
  | setRefusal id fault => exact hsame (hclear.named fun n => calm_modify n fun _ => rfl)

theorem run (h : d.Tracked attached gone) (steps : List DeskStep) :
    (d.run steps).Tracked (attached ++ steps.filterMap DeskStep.attaches) (gone ++ d.disposals steps) := by
  induction steps generalizing attached gone d with
  | nil =>
    rw [List.filterMap_nil, disposals, List.append_nil, List.append_nil]
    exact h
  | cons s rest ih =>
    have hrest := ih (h.step s)
    rw [List.append_assoc, List.append_assoc] at hrest
    have hattaches : s.attaches.toList ++ rest.filterMap DeskStep.attaches = (s :: rest).filterMap DeskStep.attaches := by
      cases hs : s.attaches <;> simp [hs]
    rw [hattaches] at hrest
    exact hrest

end Tracked

/-! ## One notification -/

/-- What a notification does: the overlays that it reached have the flags, and all others are as they
were. -/
structure Reaches (flags : Flags) (told : List Nat) (d d' : Desk) : Prop where
  store : d'.store = d.store
  published : d'.publications.map (·.overlay) = d.publications.map (·.overlay) ++ told
  taken : ∀ n ∈ told, ∃ o b, d'.overlays[n]? = some (o, b) ∧ o.flags = flags
  kept : ∀ n, n ∉ told → d'.overlays[n]? = d.overlays[n]?

section Reaches

variable {flags : Flags} {d d' : Desk} {n : Nat}

theorem Reaches.refl (flags : Flags) (d : Desk) : Reaches flags [] d d :=
  ⟨rfl, (List.append_nil _).symm, fun _ hn => absurd hn List.not_mem_nil, fun _ _ => rfl⟩

theorem Reaches.trans {told more : List Nat} {d'' : Desk} (h : Reaches flags told d d')
    (h' : Reaches flags more d' d'') : Reaches flags (told ++ more) d d'' where
  store := h'.store.trans h.store
  published := by rw [h'.published, h.published, List.append_assoc]
  taken m hm := by
    by_cases hmore : m ∈ more
    · exact h'.taken m hmore
    · rw [h'.kept m hmore]
      exact h.taken m ((List.mem_append.1 hm).resolve_right hmore)
  kept m hm := by
    rw [List.mem_append, not_or] at hm
    rw [h'.kept m hm.2, h.kept m hm.1]

theorem Reaches.refusalOf {told : List Nat} (h : Reaches flags told d d') (hn : n ∉ told) :
    d'.refusalOf n = d.refusalOf n := by
  rw [Desk.refusalOf, Desk.refusalOf, h.kept n hn]

/-- An overlay in use takes the flags and publishes, also if the receiver refuses the markers. -/
theorem exec_settingsChanged_of_live {o : Overlay} {b : Buffer} (hn : d.overlays[n]? = some (o, b))
    (hlive : o.disposed = false) (flags : Flags) :
    ∃ d', exec (settingsChanged n flags) d = (receipt (d.refusalOf n), d') ∧ Reaches flags [n] d d' := by
  have hget : (d.withFlags n flags).overlays[n]? = some ({ o with flags }, b) := by
    rw [withFlags, List.getElem?_modify_eq, hn]
    rfl
  have hrefusal : d.refusalOf n = b.refusal := by
    rw [Desk.refusalOf, hn]
    rfl
  refine ⟨(d.withFlags n flags).publish n .settingsChanged { o with flags } b, ?_, rfl, ?_, ?_, ?_⟩
  · rw [exec_settingsChanged, exec_refresh_of_live .settingsChanged hget hlive, hrefusal]
    cases b.refusal <;> rfl
  · rw [publish, List.map_append]
    rfl
  · intro m hm
    rw [List.mem_singleton.1 hm]
    refine ⟨{ o with flags, markers := { o with flags }.current b }, b, ?_, rfl⟩
    rw [publish, List.getElem?_modify_eq, hget]
    rfl
  · intro m hm
    have hne : n ≠ m := fun heq => hm (List.mem_singleton.2 heq.symm)
    rw [publish, List.getElem?_modify_ne _ _ hne, withFlags, List.getElem?_modify_ne _ _ hne]

/-- Tell an overlay the flags of the store. -/
def tell (n : Nat) : Op Unit := do settingsChanged n (← get).store.flags

theorem exec_notify (d : Desk) : exec notify d = exec (d.store.listeners.forM tell) d := rfl

theorem store_forM_tell (ns : List Nat) (d : Desk) : (exec (ns.forM tell) d).2.store = d.store := by
  refine exec_forM_rel (R := fun d d' : Desk => d'.store = d.store) (fun _ => rfl)
    (fun h h' => h'.trans h) ?_ d
  intro n _ d'
  exact store_refresh .settingsChanged (d'.withFlags n d'.store.flags) n

theorem exec_tell_of_live {o : Overlay} {b : Buffer} (hn : d.overlays[n]? = some (o, b))
    (hlive : o.disposed = false) :
    ∃ d', exec (tell n) d = (receipt (d.refusalOf n), d') ∧ Reaches d.store.flags [n] d d' :=
  exec_settingsChanged_of_live hn hlive d.store.flags

/-- If no receiver refuses, all are told. -/
theorem exec_forM_tell {ns : List Nat} (hnodup : ns.Nodup)
    (hlive : ∀ n ∈ ns, ∃ o b, d.overlays[n]? = some (o, b) ∧ o.disposed = false)
    (haccept : ∀ n ∈ ns, d.refusalOf n = none) :
    ∃ d', exec (ns.forM tell) d = (.ok (), d') ∧ Reaches d.store.flags ns d d' := by
  induction ns generalizing d with
  | nil => exact ⟨d, rfl, Reaches.refl _ d⟩
  | cons n ns ih =>
    obtain ⟨hnot, hnodup⟩ := List.nodup_cons.1 hnodup
    obtain ⟨o, b, hn, hdisposed⟩ := hlive n List.mem_cons_self
    obtain ⟨d₁, hfirst, hreach⟩ := exec_tell_of_live hn hdisposed
    rw [haccept n List.mem_cons_self] at hfirst
    -- The overlays still to be told have not changed.
    have hout : ∀ m ∈ ns, m ∉ [n] := fun m hm heq => hnot (List.mem_singleton.1 heq ▸ hm)
    have hlive' : ∀ m ∈ ns, ∃ o b, d₁.overlays[m]? = some (o, b) ∧ o.disposed = false := by
      intro m hm
      rw [hreach.kept m (hout m hm)]
      exact hlive m (List.mem_cons_of_mem n hm)
    have haccept' : ∀ m ∈ ns, d₁.refusalOf m = none := by
      intro m hm
      rw [hreach.refusalOf (hout m hm)]
      exact haccept m (List.mem_cons_of_mem n hm)
    obtain ⟨d₂, hrest, hreach'⟩ := ih hnodup hlive' haccept'
    rw [hreach.store] at hreach'
    refine ⟨d₂, ?_, hreach.trans hreach'⟩
    change exec (tell n >>= fun _ => ns.forM tell) d = _
    rw [exec_bind_of_ok hfirst, hrest]

/-- The first receiver that refuses is the last one that is told. -/
theorem exec_forM_tell_of_refusal {before after : List Nat} {fault : Fault} (hnodup : (before ++ n :: after).Nodup)
    (hlive : ∀ m ∈ before ++ n :: after, ∃ o b, d.overlays[m]? = some (o, b) ∧ o.disposed = false)
    (haccept : ∀ m ∈ before, d.refusalOf m = none) (hrefuse : d.refusalOf n = some fault) :
    ∃ d', exec ((before ++ n :: after).forM tell) d = (.error (.refused fault), d') ∧
      Reaches d.store.flags (before ++ [n]) d d' := by
  have hnot : n ∉ before := fun hmem =>
    List.disjoint_of_nodup_append hnodup hmem List.mem_cons_self
  obtain ⟨d₁, hbefore, hreach⟩ := exec_forM_tell (hnodup.sublist (List.sublist_append_left _ _))
    (fun m hm => hlive m (List.mem_append_left _ hm)) haccept
  obtain ⟨o, b, hn, hdisposed⟩ := hlive n (List.mem_append_right _ List.mem_cons_self)
  rw [← hreach.kept n hnot] at hn
  obtain ⟨d₂, hlast, hreach'⟩ := exec_tell_of_live hn hdisposed
  rw [hreach.refusalOf hnot, hrefuse] at hlast
  rw [hreach.store] at hreach'
  refine ⟨d₂, ?_, hreach.trans hreach'⟩
  change exec (forM (before ++ n :: after) tell) d = _
  rw [List.forM_append]
  refine (exec_bind_of_ok hbefore).trans ?_
  change exec (tell n >>= fun _ => after.forM tell) d₁ = _
  exact exec_bind_of_error hlast

end Reaches

/-! ## Overlays that are disposed of -/

/-- The markers and the rule set of an overlay that is disposed of. -/
def resting (d : Desk) (n : Nat) : Option (List Marker × Mode) :=
  d.overlays[n]?.bind fun ob => if ob.1.disposed then some (ob.1.markers, ob.1.mode) else none

/-- If an overlay is disposed of, it publishes nothing and stays as it is. -/
def Rests (n : Nat) (d d' : Desk) : Prop :=
  ∀ x, d.resting n = some x → d'.resting n = some x ∧ ∀ p ∈ d'.publications, p.overlay = n → p ∈ d.publications

section Rests

variable {n : Nat} {d d' : Desk}

theorem Rests.refl (n : Nat) (d : Desk) : Rests n d d := fun _ hx => ⟨hx, fun _ hp _ => hp⟩

theorem Rests.trans {d'' : Desk} (h : Rests n d d') (h' : Rests n d' d'') : Rests n d d'' := by
  intro x hx
  obtain ⟨hx', hold⟩ := h x hx
  obtain ⟨hx'', hold'⟩ := h' x hx'
  exact ⟨hx'', fun p hp hpn => hold p (hold' p hp hpn) hpn⟩

theorem rests_of_same (hresting : ∀ x, d.resting n = some x → d'.resting n = some x)
    (hpublications : d'.publications = d.publications) : Rests n d d' :=
  fun x hx => ⟨hresting x hx, fun _ hp _ => hpublications ▸ hp⟩

theorem resting_eq_some {x : List Marker × Mode} (hx : d.resting n = some x) :
    ∃ o b, d.overlays[n]? = some (o, b) ∧ o.disposed = true := by
  obtain ⟨⟨o, b⟩, hget, hcase⟩ := Option.bind_eq_some_iff.1 hx
  split at hcase
  · exact ⟨o, b, hget, ‹_›⟩
  · cases hcase

theorem rests_modify {f : Overlay × Buffer → Overlay × Buffer} (m : Nat)
    (hf : ∀ ob, ob.1.disposed = true →
      (f ob).1.disposed = true ∧ (f ob).1.markers = ob.1.markers ∧ (f ob).1.mode = ob.1.mode) :
    Rests n d { d with overlays := d.overlays.modify m f } := by
  refine rests_of_same (fun x hx => ?_) rfl
  obtain ⟨o, b, hget, hdisposed⟩ := resting_eq_some hx
  obtain ⟨hdisposed', hmarkers, hmode⟩ := hf (o, b) hdisposed
  rw [resting, hget, Option.bind_some, if_pos hdisposed] at hx
  rw [resting, List.getElem?_modify, hget]
  by_cases hm : m = n
  · simpa [hm, hdisposed', hmarkers, hmode] using hx
  · simpa [hm, hdisposed] using hx

theorem rests_publish {m : Nat} {o : Overlay} {b : Buffer} (hm : d.overlays[m]? = some (o, b))
    (hlive : o.disposed = false) (trigger : Trigger) : Rests n d (d.publish m trigger o b) := by
  intro x hx
  have hne : m ≠ n := by
    rintro rfl
    rw [resting, hm, Option.bind_some, hlive] at hx
    cases hx
  refine ⟨?_, fun p hp hpn => ?_⟩
  · rwa [resting, publish, List.getElem?_modify_ne _ _ hne]
  · rcases List.mem_append.1 hp with hp | hp
    · exact hp
    · rw [List.mem_singleton.1 hp] at hpn
      exact absurd hpn hne

theorem rests_refresh (m : Nat) (trigger : Trigger) (d : Desk) : Rests n d (exec (refresh m trigger) d).2 := by
  rcases hm : d.overlays[m]? with _ | ⟨o, b⟩
  · rw [exec_refresh_of_none trigger hm]
    exact Rests.refl n d
  · cases hdisposed : o.disposed with
    | true =>
      rw [exec_refresh_of_disposed trigger hm hdisposed]
      exact Rests.refl n d
    | false =>
      rw [exec_refresh_of_live trigger hm hdisposed]
      exact rests_publish hm hdisposed trigger

theorem rests_settingsChanged (m : Nat) (flags : Flags) (d : Desk) :
    Rests n d (exec (settingsChanged m flags) d).2 := by
  have hflags : Rests n d (d.withFlags m flags) := rests_modify m fun _ hob => ⟨hob, rfl, rfl⟩
  rw [exec_settingsChanged]
  exact hflags.trans (rests_refresh m _ _)

theorem rests_apply (flags : Flags) (d : Desk) : Rests n d (exec (apply flags) d).2 := by
  refine exec_apply_rel (Rests.refl n) Rests.trans ?_ rests_settingsChanged
  refine rests_of_same (fun x hx => ?_) (publications_saved flags d)
  rwa [resting, overlays_saved]

theorem rests_openOverlay (id : String) (mode : Mode) (buffer : Buffer) (attach : Bool) (given : Option Flags)
    (d : Desk) : Rests n d (exec (openOverlay id mode buffer attach given) d).2 := by
  let o := d.newOverlay id mode attach given
  have hadded : Rests n d (d.seat o buffer) := by
    refine rests_of_same (fun x hx => ?_) rfl
    obtain ⟨o', b', hget, -⟩ := resting_eq_some hx
    rwa [resting, seat, List.getElem?_append_left (List.getElem?_eq_some_iff.1 hget).1]
  have hpublished := hadded.trans (rests_publish (d.getElem?_seat o buffer) rfl .textChanged)
  rw [exec_openOverlay]
  cases buffer.refusal with
  | some fault => exact hpublished
  | none => exact hpublished.trans (rests_of_same (fun _ hx => hx) rfl)

theorem rests_dispose (m : Nat) (d : Desk) : Rests n d (exec (dispose m) d).2 := by
  rcases hm : d.overlays[m]? with _ | ⟨o, b⟩
  · rw [dispose, exec_bind_of_error (exec_overlay_of_none hm)]
    exact Rests.refl n d
  · cases hdisposed : o.disposed with
    | true =>
      rw [exec_dispose_of_disposed hm hdisposed]
      exact Rests.refl n d
    | false =>
      rw [exec_dispose_of_live hm hdisposed]
      have hretired : Rests n d { d with overlays := d.overlays.modify m fun x =>
          ({ x.1 with attached := false, disposed := true }, x.2) } := rests_modify m fun _ _ => ⟨rfl, rfl, rfl⟩
      exact hretired.trans (rests_of_same (fun _ hx => hx) rfl)

/-- Within a step, an overlay that is disposed of publishes nothing. -/
theorem rests_perform (s : DeskStep) (d : Desk) : Rests n d (exec (perform s) d).2 := by
  have hnamed : ∀ {names : Desk → Named Nat} {id : String} {f : Nat → Op Unit},
      (∀ m, Rests n d (exec (f m) d).2) → Rests n d (exec ((do number (names (← get)) id) >>= f) d).2 :=
    fun hf => exec_bind_number (P := Rests n d) (Rests.refl n d) hf
  cases s with
  | openOverlay id mode buffer attach given => exact rests_openOverlay id mode buffer attach given d
  | setText id text => exact hnamed fun m => rests_modify m fun _ hob => ⟨hob, rfl, rfl⟩
  | setBroken id fault => exact hnamed fun m => rests_modify m fun _ hob => ⟨hob, rfl, rfl⟩
  | setRefusal id fault => exact hnamed fun m => rests_modify m fun _ hob => ⟨hob, rfl, rfl⟩
  | refresh id trigger =>
    refine hnamed fun m => ?_
    unfold refreshNamed
    cases Trigger.ofName? trigger with
    | none => exact Rests.refl n d
    | some t => exact rests_refresh m t d
  | settingsChanged id flags => exact hnamed fun m => rests_settingsChanged m flags d
  | update changes =>
    rw [perform]
    cases hfit : checkChanges changes with
    | error e =>
      rw [exec_update_of_unfit hfit]
      exact Rests.refl n d
    | ok fit =>
      rw [exec_update_of_fit hfit]
      exact rests_apply _ d
  | apply flags =>
    rw [perform]
    exact rests_apply flags d
  | setFiles files => exact rests_of_same (fun _ hx => hx) rfl
  | dispose id => exact hnamed fun m => rests_dispose m d

/-- An overlay that is disposed of publishes nothing any more and stays as it is. -/
theorem resting_run {x : List Marker × Mode} (hx : d.resting n = some x) (steps : List DeskStep) :
    (d.run steps).resting n = some x ∧ ∀ p ∈ d.history steps, p.overlay ≠ n := by
  induction steps generalizing d with
  | nil => exact ⟨hx, fun p hp => absurd hp List.not_mem_nil⟩
  | cons s rest ih =>
    obtain ⟨hstep, hnothing⟩ := rests_perform s { d with publications := [], log := [] } x hx
    obtain ⟨hrun, hhistory⟩ := ih hstep
    refine ⟨hrun, fun p hp hpn => ?_⟩
    rcases List.mem_append.1 hp with hp | hp
    · exact absurd (hnothing p hp hpn) List.not_mem_nil
    · exact hhistory p hp hpn

end Rests

/-! ## Runs -/

theorem tracked_ofStore (files : Files) (st : Store Nat) : (ofStore files st).Tracked [] [] :=
  ⟨fun _ => rfl, rfl, fun _ hn => absurd hn List.not_mem_nil, fun _ _ hn => by cases hn⟩

/-- A desk as a step finds it. -/
def cleared (d : Desk) : Desk := { d with publications := [], log := [] }

/-- A step that asks for flags puts them in force. -/
theorem step_of_requested {d : Desk} {s : DeskStep} {flags : Flags} (hs : d.requested s = some flags) :
    d.step s = exec (apply flags) d.cleared := by
  cases s with
  | apply given =>
    cases hs
    rfl
  | update changes =>
    rw [requested] at hs
    cases hfit : checkChanges changes with
    | error e =>
      rw [hfit] at hs
      cases hs
    | ok fit =>
      rw [hfit] at hs
      cases hs
      exact exec_update_of_fit hfit
  | _ => cases hs

/-- Flags that a step puts in force reach the listeners up to the first that refuses. -/
theorem step_of_saved {d : Desk} {s : DeskStep} {flags : Flags} (hs : d.requested s = some flags)
    (hsaving : d.saving flags = .ok ()) :
    d.step s = exec (d.store.listeners.forM tell) (d.cleared.saved flags) := by
  rw [step_of_requested hs, exec_apply_of_saved (d := d.cleared) hsaving, exec_notify, store_saved]
  rfl

/-- **Overlays are told of new flags as long as they are in use.** After every run, the listeners of the
store are the overlays that were opened attached and not disposed of, each once and in the order in which
they subscribed. New flags are saved first. If that fails, the failure is passed on, nobody publishes, and all
overlays stay as they are. Otherwise each listener takes the flags and publishes once, in that order; if
receivers refuse, that ends with the first of them, the failure is passed on, the store keeps the flags, and all
other overlays stay as they are. An overlay that was disposed of never publishes again, and keeps its markers
and its rule set. -/
theorem run_subscriptions (files : Files) (st : Store Nat) (steps : List DeskStep) :
    let d := (ofStore files st).run steps
    let gone := (ofStore files st).disposals steps
    d.store.listeners = subscribers (steps.filterMap DeskStep.attaches) gone ∧
    (∀ s flags, d.requested s = some flags →
      (∀ e, d.saving flags = .error e →
        (d.step s).1 = .error e ∧ (d.step s).2.publications = [] ∧ (d.step s).2.overlays = d.overlays) ∧
      (d.saving flags = .ok () →
        (d.step s).2.store = { d.store with flags } ∧
        ((∀ n ∈ d.store.listeners, d.refusalOf n = none) →
          (d.step s).1 = .ok () ∧
          (d.step s).2.publications.map (·.overlay) = d.store.listeners ∧
          (∀ n ∈ d.store.listeners, ∃ o b, (d.step s).2.overlays[n]? = some (o, b) ∧ o.flags = flags) ∧
          ∀ n, n ∉ d.store.listeners → (d.step s).2.overlays[n]? = d.overlays[n]?) ∧
        ∀ before n after fault, d.store.listeners = before ++ n :: after →
          (∀ m ∈ before, d.refusalOf m = none) → d.refusalOf n = some fault →
          (d.step s).1 = .error (.refused fault) ∧
          (d.step s).2.publications.map (·.overlay) = before ++ [n] ∧
          (∀ m ∈ before ++ [n], ∃ o b, (d.step s).2.overlays[m]? = some (o, b) ∧ o.flags = flags) ∧
          ∀ m, m ∉ before ++ [n] → (d.step s).2.overlays[m]? = d.overlays[m]?)) ∧
    ∀ n ∈ gone, ∃ markers mode, ∀ more,
      (∀ p ∈ d.history more, p.overlay ≠ n) ∧
      ∃ o b, (d.run more).overlays[n]? = some (o, b) ∧ o.disposed = true ∧ o.markers = markers ∧ o.mode = mode := by
  intro d gone
  have htracked := (tracked_ofStore files st).run steps
  rw [List.nil_append, List.nil_append] at htracked
  have hnodup : d.store.listeners.Nodup := htracked.listeners ▸ nodup_subscribers _ _
  refine ⟨htracked.listeners, fun s flags hs => ⟨fun e hsaving => ?_, fun hsaving => ?_⟩, fun n hn => ?_⟩
  · rw [step_of_requested hs, exec_apply_of_unsaved (d := d.cleared) hsaving]
    exact ⟨rfl, publications_saved flags d.cleared, overlays_saved flags d.cleared⟩
  · let d₀ := d.cleared.saved flags
    have hstore : d₀.store = { d.store with flags } := store_saved flags d.cleared
    have hoverlays : d₀.overlays = d.overlays := overlays_saved flags d.cleared
    have hrefusal : ∀ n, d₀.refusalOf n = d.refusalOf n := fun n => by rw [refusalOf, hoverlays, refusalOf]
    have hlive : ∀ n ∈ d.store.listeners, ∃ o b, d₀.overlays[n]? = some (o, b) ∧ o.disposed = false :=
      fun n hn => hoverlays ▸ htracked.live hn
    have hnew : d₀.publications.map (·.overlay) = [] := by
      rw [publications_saved]
      rfl
    rw [step_of_saved hs hsaving]
    refine ⟨(store_forM_tell d.store.listeners d₀).trans hstore, fun haccept => ?_,
      fun before n after fault hsplit haccept hrefuse => ?_⟩
    · obtain ⟨d', hrun, hreach⟩ := exec_forM_tell hnodup hlive fun n hn => (hrefusal n).trans (haccept n hn)
      rw [hstore] at hreach
      rw [hrun]
      exact ⟨rfl, by rw [hreach.published, hnew, List.nil_append], hreach.taken,
        fun n hn => (hreach.kept n hn).trans (by rw [hoverlays])⟩
    · rw [hsplit] at hnodup hlive ⊢
      obtain ⟨d', hrun, hreach⟩ := exec_forM_tell_of_refusal hnodup hlive
        (fun m hm => (hrefusal m).trans (haccept m hm)) ((hrefusal n).trans hrefuse)
      rw [hstore] at hreach
      rw [hrun]
      exact ⟨rfl, by rw [hreach.published, hnew, List.nil_append], hreach.taken,
        fun m hm => (hreach.kept m hm).trans (by rw [hoverlays])⟩
  · obtain ⟨o, b, hget⟩ := htracked.exists_overlay (htracked.known n hn)
    obtain ⟨-, -, -, hdisposed⟩ := htracked.overlay hget
    have hresting : d.resting n = some (o.markers, o.mode) := by
      rw [resting, hget, Option.bind_some, if_pos]
      rw [hdisposed]
      simpa using hn
    refine ⟨o.markers, o.mode, fun more => ?_⟩
    obtain ⟨hrun, hhistory⟩ := resting_run hresting more
    obtain ⟨o', b', hget', hdisposed'⟩ := resting_eq_some hrun
    rw [resting, hget', Option.bind_some, if_pos hdisposed', Option.some.injEq, Prod.mk.injEq] at hrun
    exact ⟨hhistory, o', b', hget', hdisposed', hrun.1, hrun.2⟩

/-- A run that opens an id twice, opens an overlay whose receiver refuses at once, and disposes of one. -/
def crowded : List DeskStep :=
  [.openOverlay "a" .clike { text := [] } true none, .openOverlay "b" .csharp { text := [] } true none,
   .openOverlay "a" .clike { text := [] } true none,
   .openOverlay "c" .clike { text := [], refusal := some ⟨"closed"⟩ } true none,
   .openOverlay "d" .clike { text := [] } false none, .dispose "b", .setRefusal "a" (some ⟨"full"⟩)]

/-- The old overlay of a reopened id is told, the new one refuses, and the one after it is not told. -/
theorem run_subscriptions_crowded :
    (inMemory.run crowded).store.listeners = [0, 2, 3] ∧
      ((inMemory.run crowded).step (.apply { classes := false })).1 = .error (.refused ⟨"full"⟩) ∧
      ((inMemory.run crowded).step (.apply { classes := false })).2.publications.map (·.overlay) = [0, 2] ∧
      (∀ n, n ∉ [0, 2] → ((inMemory.run crowded).step (.apply { classes := false })).2.overlays[n]? =
        (inMemory.run crowded).overlays[n]?) ∧
      ∀ more, ∀ p ∈ (inMemory.run crowded).history more, p.overlay ≠ 1 := by
  have hlisteners : (inMemory.run crowded).store.listeners = [0] ++ 2 :: [3] := rfl
  obtain ⟨-, hstep, hgone⟩ := run_subscriptions noFiles memoryStore crowded
  obtain ⟨herror, htold, -, hkept⟩ := ((hstep (.apply { classes := false }) _ rfl).2 rfl).2.2 [0] 2 [3] ⟨"full"⟩
    hlisteners (List.forall_mem_singleton.2 rfl) rfl
  obtain ⟨_, _, hrests⟩ := hgone 1 (List.mem_singleton.2 rfl)
  exact ⟨hlisteners, herror, htold, hkept, fun more => (hrests more).1⟩

/-- An overlay is opened whose receiver takes what it is given. -/
def oneOpen : List DeskStep := [.openOverlay "a" .clike { text := [] } true none]

/-- A store whose file would be where a directory is. -/
def directoryStore : Store Nat := ⟨some ⟨"/", ["d"]⟩, "main", {}, {}, []⟩

/-- A desk with an overlay that listens to such a store. -/
def atDirectory : Desk := (ofStore Hub.atDirectory.files directoryStore).run oneOpen

theorem saving_atDirectory (flags : Flags) : atDirectory.saving flags = .error (.file .isDirectory) := by
  have hpath : atDirectory.store.path = some ⟨"/", ["d"]⟩ := rfl
  have hfiles : atDirectory.files = Hub.atDirectory.files := rfl
  obtain ⟨⟨old, log⟩, hold⟩ := Store.exists_payloadAt_iff.2 Hub.legible_atDirectory
  rw [saving, hfiles, Store.persist_of_payloadAt hpath hold, Hub.exec_writeFile_atDirectory]

/-- The overlay would take the flags, but they do not reach it. -/
theorem unsaved_untold :
    atDirectory.store.listeners = [0] ∧ atDirectory.refusalOf 0 = none ∧
      (atDirectory.step (.apply { headers := false })).1 = .error (.file .isDirectory) ∧
      (atDirectory.step (.apply { headers := false })).2.publications = [] := by
  have hstep := exec_apply_of_unsaved (d := atDirectory.cleared) (saving_atDirectory { headers := false })
  refine ⟨rfl, rfl, ?_, ?_⟩
  · rw [step_of_requested rfl, hstep]
  · rw [step_of_requested rfl, hstep]
    exact publications_saved { headers := false } atDirectory.cleared

end Desk

end Landmarks
