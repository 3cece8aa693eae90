import Landmarks.Proofs.Subscriptions

/-!
# Overlays that could not be opened

An overlay subscribes before it publishes for the first time. If the receiver refuses that publication, the
overlay gets no name, but its subscription is there.

* `Desk.OutOfReach` : an overlay has no name; it never gets one, so nobody can dispose of it.
* `Desk.Tracked.listens_of_outOfReach` : so it stays a listener if it was attached.
* `Desk.publishes_of_saved` : a listener publishes when flags are saved and put in force, unless a receiver before
  it refuses.
* `Desk.failed_open_stays` : an overlay that could not be opened listens to the store ever after.
-/

namespace Landmarks.Desk

variable {d d' : Desk} {n : Nat}

/-! ## Overlays without a name -/

/-- An overlay that no id denotes. -/
structure OutOfReach (n : Nat) (d : Desk) : Prop where
  there : n < d.overlays.length
  unnamed : ∀ id, Named.find? d.names id ≠ some n

theorem OutOfReach.calm (h : d.OutOfReach n) (hcalm : Calm d d') : d'.OutOfReach n := by
  refine ⟨?_, hcalm.names ▸ h.unnamed⟩
  have hlength := congrArg List.length hcalm.statuses
  rw [statuses, statuses, List.length_map, List.length_map] at hlength
  exact hlength ▸ h.there

theorem OutOfReach.openOverlay (h : d.OutOfReach n) (id : String) (mode : Mode) (buffer : Buffer) (attach : Bool)
    (given : Option Flags) : (exec (Desk.openOverlay id mode buffer attach given) d).2.OutOfReach n := by
  let o := d.newOverlay id mode attach given
  have hadded : (d.seat o buffer).OutOfReach n := by
    refine ⟨?_, h.unnamed⟩
    have := h.there
    rw [seat, List.length_append, List.length_singleton]
    omega
  have hpublished := hadded.calm (calm_publish d.overlays.length .textChanged o buffer)
  rw [exec_openOverlay]
  cases buffer.refusal with
  | some fault => exact hpublished
  | none =>
    refine ⟨hpublished.there, fun name => ?_⟩
    by_cases hname : name = id
    · rw [hname, Named.find?_put_self]
      exact fun heq => Nat.ne_of_gt h.there (Option.some.inj heq)
    · rw [Named.find?_put_of_ne _ hname]
      exact hpublished.unnamed name

theorem OutOfReach.dispose (h : d.OutOfReach n) (m : Nat) : (exec (Desk.dispose m) d).2.OutOfReach n := by
  rcases hm : d.overlays[m]? with _ | ⟨o, b⟩
  · rw [Desk.dispose, exec_bind_of_error (exec_overlay_of_none hm)]
    exact h
  · cases hdisposed : o.disposed with
    | true =>
      rw [exec_dispose_of_disposed hm hdisposed]
      exact h
    | false =>
      rw [exec_dispose_of_live hm hdisposed]
      exact ⟨by simpa [retire] using h.there, h.unnamed⟩

/-- No step gives an overlay a name but the one that opens it. -/
theorem OutOfReach.step (h : d.OutOfReach n) (s : DeskStep) : (d.step s).2.OutOfReach n := by
  have hclear : { d with publications := [], log := [] }.OutOfReach n := h.calm ⟨rfl, rfl, rfl⟩
  have hnamed : ∀ {names : Desk → Named Nat} {id : String} {f : Nat → Op Unit},
      (∀ m, Calm { d with publications := [], log := [] } (exec (f m) { d with publications := [], log := [] }).2) →
      (exec ((do number (names (← get)) id) >>= f) { d with publications := [], log := [] }).2.OutOfReach n :=
    fun hf => exec_bind_number (P := OutOfReach n) hclear fun m => hclear.calm (hf m)
  change (exec (perform s) _).2.OutOfReach n
  cases s with
  | openOverlay id mode buffer attach given => exact hclear.openOverlay id mode buffer attach given
  | setText id text => exact hnamed fun m => calm_modify m fun _ => rfl
  | setBroken id fault => exact hnamed fun m => calm_modify m fun _ => rfl
  | setRefusal id fault => exact hnamed fun m => calm_modify m fun _ => rfl
  | refresh id trigger =>
    refine hnamed fun m => ?_
    unfold refreshNamed
    cases Trigger.ofName? trigger with
    | none => exact Calm.refl _
    | some t => exact calm_refresh m t _
  | settingsChanged id flags => exact hnamed fun m => calm_settingsChanged m flags _
  | update changes =>
    rw [perform]
    cases hfit : checkChanges changes with
    | error e =>
      rw [exec_update_of_unfit hfit]
      exact hclear
    | ok fit =>
      rw [exec_update_of_fit hfit]
      exact hclear.calm (calm_apply _ _)
  | apply flags =>
    rw [perform]
    exact hclear.calm (calm_apply flags _)
  | setFiles files => exact hclear.calm ⟨rfl, rfl, rfl⟩
  | dispose id => exact exec_bind_number (P := OutOfReach n) hclear hclear.dispose

/-- An overlay without a name is not disposed of. -/
theorem OutOfReach.run (h : d.OutOfReach n) (steps : List DeskStep) :
    (d.run steps).OutOfReach n ∧ n ∉ d.disposals steps := by
  induction steps generalizing d with
  | nil => exact ⟨h, List.not_mem_nil⟩
  | cons s rest ih =>
    obtain ⟨hrun, hrest⟩ := ih (h.step s)
    refine ⟨hrun, fun hmem => ?_⟩
    rcases List.mem_append.1 hmem with hmem | hmem
    · cases s with
      | dispose id => exact h.unnamed id (Option.mem_toList.1 hmem)
      | _ => exact absurd hmem List.not_mem_nil
    · exact hrest hmem

/-- An overlay whose first publication is refused has no name. -/
theorem Tracked.outOfReach_of_refusal {attached : List Bool} {gone : List Nat} (h : d.Tracked attached gone)
    (id : String) (mode : Mode) {buffer : Buffer} {fault : Fault} (hrefusal : buffer.refusal = some fault)
    (attach : Bool) (given : Option Flags) :
    (d.step (.openOverlay id mode buffer attach given)).2.OutOfReach d.overlays.length := by
  have hopened : d.step (.openOverlay id mode buffer attach given) = _ :=
    exec_openOverlay { d with publications := [], log := [] } id mode buffer attach given
  rw [hrefusal] at hopened
  refine ⟨?_, fun name hname => ?_⟩
  · rw [hopened]
    simp [publish, seat]
  · rw [hopened] at hname
    have hlt := h.names name _ hname
    have hlength := h.length_overlays
    omega

/-- An attached overlay that nobody can dispose of stays a listener. -/
theorem Tracked.listens_of_outOfReach {attached : List Bool} {gone : List Nat} (h : d.Tracked attached gone)
    {s : DeskStep} (hs : s.attaches = some true) (hreach : (d.step s).2.OutOfReach d.overlays.length)
    (more : List DeskStep) : d.overlays.length ∈ ((d.step s).2.run more).store.listeners := by
  have hlength := h.length_overlays
  rw [((h.step s).run more).listeners, mem_subscribers, hs]
  refine ⟨?_, fun hmem => ?_⟩
  · rw [List.getElem?_append_left (by simp [hlength]), hlength]
    simp
  · have hopens : d.disposing s = none := by
      cases s with
      | openOverlay id mode buffer attach given => rfl
      | _ => cases hs
    rcases List.mem_append.1 hmem with hmem | hmem
    · have hlt := h.known _ (by simpa [hopens] using hmem)
      omega
    · exact (hreach.run more).2 hmem

/-! ## Publications of listeners -/

theorem publications_settingsChanged (n : Nat) (flags : Flags) (d : Desk) :
    d.publications <+: (exec (settingsChanged n flags) d).2.publications := by
  rw [exec_settingsChanged]
  rcases hn : (d.withFlags n flags).overlays[n]? with _ | ⟨o, b⟩
  · rw [exec_refresh_of_none _ hn]
    exact List.prefix_rfl
  · cases hdisposed : o.disposed with
    | true =>
      rw [exec_refresh_of_disposed _ hn hdisposed]
      exact List.prefix_rfl
    | false =>
      rw [exec_refresh_of_live _ hn hdisposed]
      exact List.prefix_append _ _

/-- A listener publishes when flags are saved and put in force, unless a receiver before it refuses. -/
theorem publishes_of_saved {attached : List Bool} {gone before after : List Nat} (h : d.Tracked attached gone)
    {s : DeskStep} {flags : Flags} (hs : d.requested s = some flags) (hsaving : d.saving flags = .ok ())
    (hsplit : d.store.listeners = before ++ n :: after) (haccept : ∀ m ∈ before, d.refusalOf m = none) :
    ∃ p ∈ (d.step s).2.publications, p.overlay = n := by
  let d₀ := d.cleared.saved flags
  have hoverlays : d₀.overlays = d.overlays := overlays_saved flags d.cleared
  have hnodup : (before ++ n :: after).Nodup := hsplit ▸ h.listeners ▸ nodup_subscribers attached gone
  have hlive : ∀ m ∈ before ++ n :: after, ∃ o b, d₀.overlays[m]? = some (o, b) ∧ o.disposed = false :=
    fun m hm => hoverlays ▸ h.live (hsplit ▸ hm)
  have hnot : n ∉ before := fun hmem => List.disjoint_of_nodup_append hnodup hmem List.mem_cons_self
  have haccept' : ∀ m ∈ before, d₀.refusalOf m = none := by
    intro m hm
    rw [refusalOf, hoverlays]
    exact haccept m hm
  obtain ⟨d₁, hbefore, hreach⟩ := exec_forM_tell (d := d₀) (hnodup.sublist (List.sublist_append_left _ _))
    (fun m hm => hlive m (List.mem_append_left _ hm)) haccept'
  obtain ⟨o, b, hn, hdisposed⟩ := hlive n (List.mem_append_right _ List.mem_cons_self)
  rw [← hreach.kept n hnot] at hn
  obtain ⟨d₂, htell, hreach'⟩ := exec_tell_of_live hn hdisposed
  have hmem : n ∈ d₂.publications.map (·.overlay) := by
    rw [hreach'.published]
    exact List.mem_append_right _ (List.mem_singleton.2 rfl)
  obtain ⟨p, hp, hpn⟩ := List.mem_map.1 hmem
  refine ⟨p, ?_, hpn⟩
  rw [step_of_saved hs hsaving, hsplit]
  change p ∈ (exec (forM (before ++ n :: after) tell) d₀).2.publications
  rw [List.forM_append]
  change p ∈ (exec (before.forM tell >>= fun _ => tell n >>= fun _ => after.forM tell) d₀).2.publications
  rw [exec_bind_of_ok hbefore]
  cases hrefusal : d₁.refusalOf n with
  | some fault =>
    rw [hrefusal] at htell
    rw [exec_bind_of_error htell]
    exact hp
  | none =>
    rw [hrefusal] at htell
    rw [exec_bind_of_ok htell]
    have hgrows : d₂.publications <+: (exec (after.forM tell) d₂).2.publications :=
      exec_forM_rel (R := fun d d' : Desk => d.publications <+: d'.publications) (fun _ => List.prefix_rfl)
        (fun h h' => h.trans h') (fun m _ d' => publications_settingsChanged m d'.store.flags d') d₂
    exact hgrows.subset hp

/-! ## Runs -/

/-- **An overlay that could not be opened listens ever after.** Opening an overlay fails just if its receiver
refuses the first publication, whatever becomes of the text. The listeners of the store are the same as before
only if the overlay was not attached; if it was, it has come last in the list. It has no name then and, on a desk
that some run led to, never gets one. So it stays a listener whatever is done afterwards, and publishes to its
receiver whenever flags are saved and put in force and no receiver before it refuses. -/
theorem failed_open_stays (d : Desk) (id : String) (mode : Mode) (buffer : Buffer) (attach : Bool)
    (given : Option Flags) :
    let n := d.overlays.length
    let opened := d.step (.openOverlay id mode buffer attach given)
    opened.1 = receipt buffer.refusal ∧
    (opened.1 ≠ .ok () →
      opened.2.store.listeners = d.store.listeners ++ (if attach then [n] else []) ∧
      (opened.2.store.listeners = d.store.listeners ↔ attach = false) ∧
      ∀ files st steps, d = (ofStore files st).run steps → attach = true → ∀ more,
        n ∈ (opened.2.run more).store.listeners ∧
        (∀ name, Named.find? (opened.2.run more).names name ≠ some n) ∧
        ∀ s flags before after, (opened.2.run more).requested s = some flags →
          (opened.2.run more).saving flags = .ok () →
          (opened.2.run more).store.listeners = before ++ n :: after →
          (∀ m ∈ before, (opened.2.run more).refusalOf m = none) →
          ∃ p ∈ ((opened.2.run more).step s).2.publications, p.overlay = n) := by
  intro n opened
  let d₀ : Desk := { d with publications := [], log := [] }
  have hopened : opened = _ := exec_openOverlay d₀ id mode buffer attach given
  cases hrefusal : buffer.refusal with
  | none =>
    rw [hrefusal] at hopened
    have hok : opened.1 = .ok () := by rw [hopened]
    exact ⟨hok, fun hfail => absurd hok hfail⟩
  | some fault =>
    rw [hrefusal] at hopened
    have hlisteners : opened.2.store.listeners = d.store.listeners ++ if attach then [n] else [] := by
      rw [hopened]
      cases attach <;> simp [publish, seat, newOverlay, Store.subscribe, d₀, n]
    refine ⟨by rw [hopened]; rfl, fun _ => ⟨hlisteners, ?_, fun files st steps hd hattach more => ?_⟩⟩
    · rw [hlisteners]
      cases attach <;> simp
    · have htracked := (tracked_ofStore files st).run steps
      rw [← hd] at htracked
      have hreach : opened.2.OutOfReach n := htracked.outOfReach_of_refusal id mode hrefusal attach given
      have hattaches : (DeskStep.openOverlay id mode buffer attach given).attaches = some true := congrArg some hattach
      have hlater := (htracked.step (.openOverlay id mode buffer attach given)).run more
      exact ⟨htracked.listens_of_outOfReach hattaches hreach more, (hreach.run more).1.unnamed,
        fun s flags before after => publishes_of_saved hlater⟩

/-- The overlay that could not be opened publishes with the other one, also when its text is out of reach. -/
theorem failed_open_stays_second :
    (((inMemory.run oneOpen).step
        (.openOverlay "x" .csharp { text := [], broken := some ⟨"gone"⟩, refusal := some ⟨"closed"⟩ } true none)).1 =
      .error (.refused ⟨"closed"⟩)) ∧
      ∃ p ∈ ((((inMemory.run oneOpen).step (.openOverlay "x" .csharp
          { text := [], broken := some ⟨"gone"⟩, refusal := some ⟨"closed"⟩ } true none)).2.run
            [.dispose "x", .dispose "a"]).step (.apply {})).2.publications, p.overlay = 1 := by
  obtain ⟨hfails, hstays⟩ := failed_open_stays (inMemory.run oneOpen) "x" .csharp
    { text := [], broken := some ⟨"gone"⟩, refusal := some ⟨"closed"⟩ } true none
  obtain ⟨-, -, hlater⟩ := hstays (by rw [hfails]; simp [receipt])
  obtain ⟨-, -, hpublishes⟩ := hlater noFiles memoryStore oneOpen rfl rfl [.dispose "x", .dispose "a"]
  exact ⟨hfails, hpublishes (.apply {}) {} [] [] rfl rfl rfl fun m hm => absurd hm List.not_mem_nil⟩

/-- After a failure to open an overlay the store has a listener that it did not have before, and a later change
reaches its receiver. -/
theorem failed_open_leaves_listener :
    let failed := inMemory.step (.openOverlay "x" .clike { text := [], refusal := some ⟨"closed"⟩ } true none)
    inMemory.store.listeners = [] ∧ failed.1 = .error (.refused ⟨"closed"⟩) ∧
      failed.2.store.listeners = [0] ∧ (failed.2.step (.apply {})).2.published = [("x", [])] :=
  ⟨rfl, rfl, rfl, by decide +kernel⟩

end Landmarks.Desk
