import Landmarks.Overlay
import Landmarks.Proofs.Operation

/-!
# What overlays publish

* `Overlay.current` : the markers an overlay has to publish, from its text, its rule set and its flags.
* `Desk.run`, `Desk.history` : the desk after some steps, and all that was published in them.
* `Desk.Steady` : what holds between the operations of a step. Every publication of the step is still
  what its overlay has to publish, and every overlay keeps the markers it published last.
* `run_publications` : both hold after every step of every run.

All publications come from `Desk.refresh`, which keeps the markers before it hands them on. So a receiver
that refuses them, and a text that is out of reach, make no difference to either fact.
-/

namespace Landmarks

/-- The markers an overlay has to publish: those of its document, or none while the text is out of
reach. -/
def Overlay.current (o : Overlay) (b : Buffer) : List Marker :=
  if b.broken.isSome then [] else scan o.mode o.flags b.text

/-- The rule set of the overlay that a step opens. -/
def DeskStep.opens : DeskStep → Option Mode
  | .openOverlay _ mode _ _ _ => some mode
  | _ => none

namespace Desk

/-- The desk after some steps. -/
def run (d : Desk) : List DeskStep → Desk
  | [] => d
  | s :: rest => (d.step s).2.run rest

/-- The rule sets of the overlays, in the order in which they were opened. -/
def modes (d : Desk) : List Mode := d.overlays.map (·.1.mode)

/-- All that is published in some steps, in order. -/
def history (d : Desk) : List DeskStep → List Publication
  | [] => []
  | s :: rest => (d.step s).2.publications ++ (d.step s).2.history rest

/-- The markers that the overlay with a number published last. -/
def lastOf (n : Nat) (ps : List Publication) : Option (List Marker) :=
  (ps.reverse.find? fun p => p.overlay == n).map (·.markers)

theorem lastOf_append_self (ps : List Publication) (p : Publication) :
    lastOf p.overlay (ps ++ [p]) = some p.markers := by
  simp [lastOf]

theorem lastOf_append_of_ne (ps : List Publication) {p : Publication} {n : Nat} (h : n ≠ p.overlay) :
    lastOf n (ps ++ [p]) = lastOf n ps := by
  have hne : (p.overlay == n) = false := beq_false_of_ne (Ne.symm h)
  simp [lastOf, hne]

theorem scanBuffer_eq_current (o : Overlay) (b : Buffer) (trigger : Trigger) :
    (scanBuffer o b trigger).1 = o.current b := by
  unfold scanBuffer Overlay.current
  cases b.broken <;> rfl

/-! ## One publication -/

/-- The desk after an overlay has published. -/
def publish (n : Nat) (trigger : Trigger) (o : Overlay) (b : Buffer) (d : Desk) : Desk :=
  { d with
    overlays := d.overlays.modify n fun (o', b') => ({ o' with markers := o.current b }, b')
    log := d.log ++ (scanBuffer o b trigger).2
    publications := d.publications ++ [⟨n, o.id, o.current b⟩] }

section Refresh

variable {d : Desk} {n : Nat} (trigger : Trigger)

theorem exec_overlay_of_none (h : d.overlays[n]? = none) :
    exec (overlay n) d = (.error .noSuchOverlay, d) := by
  rw [overlay, exec_get_bind, h, exec_throw]

theorem exec_overlay_of_some {ob : Overlay × Buffer} (h : d.overlays[n]? = some ob) :
    exec (overlay n) d = (.ok ob, d) := by
  rw [overlay, exec_get_bind, h, exec_pure]

theorem exec_refresh_of_none (h : d.overlays[n]? = none) :
    exec (refresh n trigger) d = (.error .noSuchOverlay, d) := by
  rw [refresh, exec_bind_of_error (exec_overlay_of_none h)]

theorem exec_refresh_of_disposed {o : Overlay} {b : Buffer} (h : d.overlays[n]? = some (o, b))
    (hdisposed : o.disposed = true) : exec (refresh n trigger) d = (.ok (), d) := by
  rw [refresh, exec_bind_of_ok (exec_overlay_of_some h)]
  simp only [hdisposed, if_true, exec_pure]

/-- The markers are kept and handed on before the receiver may refuse them. -/
theorem exec_refresh_of_live {o : Overlay} {b : Buffer} (h : d.overlays[n]? = some (o, b))
    (hlive : o.disposed = false) :
    exec (refresh n trigger) d =
      ((match b.refusal with
        | some fault => .error (.refused fault)
        | none => .ok ()), d.publish n trigger o b) := by
  rw [refresh, exec_bind_of_ok (exec_overlay_of_some h)]
  simp only [hlive, Bool.false_eq_true, if_false, modifyOverlay, exec_modify_bind, scanBuffer_eq_current]
  cases b.refusal <;> rfl

theorem store_refresh (d : Desk) (n : Nat) : (exec (refresh n trigger) d).2.store = d.store := by
  rcases h : d.overlays[n]? with _ | ⟨o, b⟩
  · rw [exec_refresh_of_none trigger h]
  · cases hdisposed : o.disposed with
    | true => rw [exec_refresh_of_disposed trigger h hdisposed]
    | false => rw [exec_refresh_of_live trigger h hdisposed]; rfl

/-- An overlay takes new flags. -/
def withFlags (n : Nat) (flags : Flags) (d : Desk) : Desk :=
  { d with overlays := d.overlays.modify n fun (o, b) => ({ o with flags }, b) }

theorem exec_settingsChanged (d : Desk) (n : Nat) (flags : Flags) :
    exec (settingsChanged n flags) d = exec (refresh n .settingsChanged) (d.withFlags n flags) := rfl

/-- An overlay is out of use, and so is its subscription if it has one. -/
def retire (n : Nat) (o : Overlay) (d : Desk) : Desk :=
  { d with
    store := if o.attached then d.store.unsubscribe n else d.store
    overlays := d.overlays.modify n fun (o, b) => ({ o with attached := false, disposed := true }, b) }

theorem exec_dispose_of_live {o : Overlay} {b : Buffer} (h : d.overlays[n]? = some (o, b))
    (hlive : o.disposed = false) : exec (dispose n) d = (.ok (), d.retire n o) := by
  rw [dispose, exec_bind_of_ok (exec_overlay_of_some h), retire]
  simp only [hlive, Bool.false_eq_true, if_false]
  cases o.attached <;> rfl

theorem exec_dispose_of_disposed {o : Overlay} {b : Buffer} (h : d.overlays[n]? = some (o, b))
    (hdisposed : o.disposed = true) : exec (dispose n) d = (.ok (), d) := by
  rw [dispose, exec_bind_of_ok (exec_overlay_of_some h)]
  simp only [hdisposed, if_true, exec_pure]

end Refresh

/-! ## Saving flags -/

/-- How it goes to save flags. -/
def saving (flags : Flags) (d : Desk) : Except DeskError Unit :=
  match { d.store with flags }.persist d.files with
  | .error e => .error (.content e)
  | .ok ((.error e, _), _) => .error (.file e)
  | .ok ((.ok (), _), _) => .ok ()

/-- The desk after flags were saved, or could not be saved. -/
def saved (flags : Flags) (d : Desk) : Desk :=
  match { d.store with flags }.persist d.files with
  | .error _ => { d with store := { d.store with flags } }
  | .ok ((_, files), log) => { d with store := { d.store with flags }, files, log := d.log ++ log }

theorem exec_save (flags : Flags) (d : Desk) : exec (save flags) d = (d.saving flags, d.saved flags) := by
  rw [save, exec_modify_bind, exec_get_bind, saving, saved]
  dsimp only
  generalize Store.persist d.files { d.store with flags } = attempt
  rcases attempt with e | ⟨⟨e | _, files⟩, log⟩ <;> rfl

section Saved

variable (flags : Flags) (d : Desk)

theorem store_saved : (d.saved flags).store = { d.store with flags } := by
  rw [saved]
  split <;> rfl

theorem overlays_saved : (d.saved flags).overlays = d.overlays := by
  rw [saved]
  split <;> rfl

theorem names_saved : (d.saved flags).names = d.names := by
  rw [saved]
  split <;> rfl

theorem publications_saved : (d.saved flags).publications = d.publications := by
  rw [saved]
  split <;> rfl

variable {flags d}

theorem exec_apply_of_saved (h : d.saving flags = .ok ()) : exec (apply flags) d = exec notify (d.saved flags) := by
  have hsave : exec (save flags) d = (.ok (), d.saved flags) := by rw [exec_save, h]
  exact exec_bind_of_ok hsave

/-- Flags that cannot be saved are told to nobody. -/
theorem exec_apply_of_unsaved {e : DeskError} (h : d.saving flags = .error e) :
    exec (apply flags) d = (.error e, d.saved flags) := by
  have hsave : exec (save flags) d = (.error e, d.saved flags) := by rw [exec_save, h]
  exact exec_bind_of_error hsave

theorem exec_update_of_fit {changes : List (String × Json)} {fit : List (Flag × Bool)}
    (h : checkChanges changes = .ok fit) : exec (update changes) d = exec (apply (d.store.flags.setAll fit)) d := by
  rw [update, h]
  exact exec_get_bind d _

theorem exec_update_of_unfit {changes : List (String × Json)} {e : ChangeError}
    (h : checkChanges changes = .error e) : exec (update changes) d = (.error (.change e), d) := by
  rw [update, h]
  exact exec_throw d _

end Saved

/-- The overlay that is opened with some flags, or else with those in force. -/
def newOverlay (d : Desk) (id : String) (mode : Mode) (attach : Bool) (given : Option Flags) : Overlay :=
  { id, mode, flags := given.getD (if attach then d.store.flags else {}), attached := attach }

/-- The desk with one more overlay, which has its subscription but has published nothing. -/
def seat (d : Desk) (o : Overlay) (buffer : Buffer) : Desk :=
  { d with overlays := d.overlays ++ [(o, buffer)]
           bufferNames := Named.put o.id d.overlays.length d.bufferNames
           store := if o.attached then d.store.subscribe d.overlays.length else d.store }

theorem getElem?_seat (d : Desk) (o : Overlay) (buffer : Buffer) :
    (d.seat o buffer).overlays[d.overlays.length]? = some (o, buffer) := List.getElem?_concat_length

/-- An overlay that is opened has its subscription before it publishes. It gets its name only after that, so not if
the receiver refuses. -/
theorem exec_openOverlay (d : Desk) (id : String) (mode : Mode) (buffer : Buffer) (attach : Bool) (given : Option Flags) :
    exec (openOverlay id mode buffer attach given) d =
      let o := d.newOverlay id mode attach given
      let d' := (d.seat o buffer).publish d.overlays.length .textChanged o buffer
      match buffer.refusal with
      | some fault => (.error (.refused fault), d')
      | none => (.ok (), { d' with names := Named.put id d.overlays.length d'.names }) := by
  let o := d.newOverlay id mode attach given
  have hrefresh := exec_refresh_of_live .textChanged (d.getElem?_seat o buffer) rfl
  change exec (refresh d.overlays.length .textChanged >>= _) (d.seat o buffer) = _
  cases hrefusal : buffer.refusal with
  | some fault =>
    rw [hrefusal] at hrefresh
    exact exec_bind_of_error hrefresh
  | none =>
    rw [hrefusal] at hrefresh
    exact exec_bind_of_ok hrefresh

theorem exists_of_getElem?_modify {α : Type} {f : α → α} {xs : List α} {n m : Nat} {y : α}
    (h : (xs.modify n f)[m]? = some y) : ∃ x, xs[m]? = some x ∧ y = if n = m then f x else x := by
  rw [List.getElem?_modify] at h
  obtain ⟨x, hx, rfl⟩ := Option.map_eq_some_iff.1 h
  exact ⟨x, hx, rfl⟩

theorem map_modify_of_same {α β : Type} {f : α → α} {g : α → β} (h : ∀ a, g (f a) = g a) (xs : List α)
    (n : Nat) : (xs.modify n f).map g = xs.map g := by
  refine List.ext_getElem? fun m => ?_
  rw [List.getElem?_map, List.getElem?_map, List.getElem?_modify, Option.map_eq_map, Option.map_map]
  congr 1
  funext a
  rw [Function.comp_apply]
  split
  · exact h a
  · rfl

/-! ## What holds between operations -/

/-- Every overlay keeps the markers it published last. -/
def Settled (ps : List Publication) (d : Desk) : Prop :=
  ∀ n o b, d.overlays[n]? = some (o, b) → lastOf n ps = some o.markers

/-- What holds between the operations of a step, with what was published before the step, the rule sets
of the overlays, and the flags of the overlays that publish in this step. -/
structure Steady (past : List Publication) (modes : List Mode) (flags : Flags) (d : Desk) : Prop where
  settled : d.Settled (past ++ d.publications)
  current : ∀ p ∈ d.publications, ∃ o b, d.overlays[p.overlay]? = some (o, b) ∧ o.flags = flags ∧
    p.markers = o.current b
  modes : d.modes = modes

section Steady

variable {past : List Publication} {modes : List Mode} {flags : Flags} {d : Desk} {n : Nat}

theorem Steady.congr {d' : Desk} (h : d.Steady past modes flags) (hoverlays : d'.overlays = d.overlays)
    (hpublications : d'.publications = d.publications) : d'.Steady past modes flags := by
  obtain ⟨hsettled, hcurrent, hmodes⟩ := h
  refine ⟨?_, ?_, (congrArg (List.map _) hoverlays).trans hmodes⟩
  · intro m o b hm
    rw [hpublications]
    exact hsettled m o b (hoverlays ▸ hm)
  · rw [hoverlays, hpublications]
    exact hcurrent

/-- A change that leaves the markers alone, the rule set too, and the flags where something was published. -/
theorem Steady.modify (h : d.Steady past modes flags) {f : Overlay × Buffer → Overlay × Buffer}
    (hmarkers : ∀ x, (f x).1.markers = x.1.markers) (hmode : ∀ x, (f x).1.mode = x.1.mode)
    (hcurrent : ∀ p ∈ d.publications, ∀ x, x.1.flags = flags →
      (f x).1.flags = flags ∧ (f x).2 = x.2) :
    { d with overlays := d.overlays.modify n f }.Steady past modes flags := by
  refine ⟨?_, ?_, ?_⟩
  · intro m o b hm
    obtain ⟨x, hx, heq⟩ := exists_of_getElem?_modify hm
    rw [h.settled m x.1 x.2 hx]
    split at heq
    · rw [← hmarkers x, ← heq]
    · rw [← heq]
  · intro p hp
    obtain ⟨o, b, hget, hflags, hmark⟩ := h.current p hp
    have hkept := hcurrent p hp (o, b) hflags
    dsimp only
    rw [List.getElem?_modify, hget]
    by_cases hn : n = p.overlay
    · refine ⟨(f (o, b)).1, (f (o, b)).2, by simp [hn], hkept.1, ?_⟩
      rw [hmark, Overlay.current, Overlay.current, hmode, hkept.1, hkept.2, ← hflags]
    · exact ⟨o, b, by simp [hn], hflags, hmark⟩
  · exact (map_modify_of_same hmode d.overlays n).trans h.modes

/-- What an overlay publishes settles it, whatever it had published before. -/
theorem steady_publish {o : Overlay} {b : Buffer} (ho : d.overlays[n]? = some (o, b))
    (hsettled : ∀ m ≠ n, ∀ o b, d.overlays[m]? = some (o, b) →
      lastOf m (past ++ d.publications) = some o.markers)
    (hcurrent : ∀ p ∈ d.publications, ∃ o b, d.overlays[p.overlay]? = some (o, b) ∧ o.flags = flags ∧
      p.markers = o.current b)
    (hmodes : d.modes = modes) (hflags : o.flags = flags) (trigger : Trigger) :
    (d.publish n trigger o b).Steady past modes flags := by
  have hself : (d.publish n trigger o b).overlays[n]? = some ({ o with markers := o.current b }, b) := by
    rw [publish, List.getElem?_modify_eq, ho]
    rfl
  have hother : ∀ m ≠ n, (d.publish n trigger o b).overlays[m]? = d.overlays[m]? := by
    intro m hm
    rw [publish, List.getElem?_modify_ne _ _ (Ne.symm hm)]
  refine ⟨?_, ?_, ?_⟩
  · intro m o' b' hm
    rw [publish, ← List.append_assoc]
    by_cases hmn : m = n
    · subst hmn
      obtain ⟨rfl, rfl⟩ := Prod.mk.inj (Option.some.inj (hself.symm.trans hm))
      exact lastOf_append_self _ ⟨m, o.id, o.current b⟩
    · rw [lastOf_append_of_ne _ hmn]
      exact hsettled m hmn o' b' (hother m hmn ▸ hm)
  · intro p hp
    rcases List.mem_append.1 hp with hp | hp
    · obtain ⟨o', b', hget, hf, hmark⟩ := hcurrent p hp
      by_cases hpn : p.overlay = n
      · subst hpn
        obtain ⟨rfl, rfl⟩ := Prod.mk.inj (Option.some.inj (ho.symm.trans hget))
        exact ⟨_, _, hself, hf, hmark⟩
      · exact ⟨o', b', (hother _ hpn).trans hget, hf, hmark⟩
    · obtain rfl := List.mem_singleton.1 hp
      exact ⟨_, _, hself, hflags, rfl⟩
  · refine Eq.trans (map_modify_of_same ?_ d.overlays n) hmodes
    exact fun _ => rfl

theorem Steady.refresh (h : d.Steady past modes flags)
    (hflags : ∀ o b, d.overlays[n]? = some (o, b) → o.flags = flags) (trigger : Trigger) :
    (exec (refresh n trigger) d).2.Steady past modes flags := by
  rcases hn : d.overlays[n]? with _ | ⟨o, b⟩
  · rw [exec_refresh_of_none trigger hn]
    exact h
  · cases hdisposed : o.disposed with
    | true =>
      rw [exec_refresh_of_disposed trigger hn hdisposed]
      exact h
    | false =>
      rw [exec_refresh_of_live trigger hn hdisposed]
      exact steady_publish hn (fun m _ => h.settled m) h.current h.modes (hflags o b hn) trigger

theorem Steady.settingsChanged (h : d.Steady past modes flags) (n : Nat) :
    (exec (settingsChanged n flags) d).2.Steady past modes flags := by
  rw [exec_settingsChanged]
  have hmod : (d.withFlags n flags).Steady past modes flags :=
    h.modify (fun _ => rfl) (fun _ => rfl) (fun _ _ _ _ => ⟨rfl, rfl⟩)
  refine hmod.refresh ?_ _
  intro o b hget
  rw [withFlags, List.getElem?_modify_eq] at hget
  obtain ⟨x, -, heq⟩ := Option.map_eq_some_iff.1 hget
  exact (congrArg (fun x : Overlay × Buffer => x.1.flags) heq).symm

theorem Steady.apply (h : d.Steady past modes flags) : (exec (apply flags) d).2.Steady past modes flags := by
  let keeps (d d' : Desk) : Prop :=
    d.Steady past modes flags ∧ d.store.flags = flags → d'.Steady past modes flags ∧ d'.store.flags = flags
  have hstart : (d.saved flags).Steady past modes flags := h.congr (overlays_saved flags d) (publications_saved flags d)
  cases hsaving : d.saving flags with
  | error e =>
    rw [exec_apply_of_unsaved hsaving]
    exact hstart
  | ok _ =>
  rw [exec_apply_of_saved hsaving, notify, exec_get_bind]
  have hflags : (d.saved flags).store.flags = flags := by rw [store_saved]
  refine (exec_forM_rel (R := keeps) (fun _ h => h) (fun h h' hd => h' (h hd)) ?_ _ ⟨hstart, hflags⟩).1
  rintro n - d ⟨hd, hstore⟩
  rw [exec_get_bind, hstore]
  refine ⟨hd.settingsChanged n, ?_⟩
  rw [exec_settingsChanged, store_refresh]
  exact hstore

theorem Steady.openOverlay (h : d.Steady past modes flags) (hnew : d.publications = []) (id : String)
    (mode : Mode) (buffer : Buffer) (attach : Bool) (given : Option Flags) :
    ∃ flags', (exec (openOverlay id mode buffer attach given) d).2.Steady past (modes ++ [mode]) flags' := by
  let o := d.newOverlay id mode attach given
  have hpublish : ((d.seat o buffer).publish d.overlays.length .textChanged o buffer).Steady past (modes ++ [mode])
      o.flags := by
    refine steady_publish (d.getElem?_seat o buffer) ?_ ?_ ?_ rfl .textChanged
    · intro m hm o' b' hm'
      have hlt : m < (d.seat o buffer).overlays.length := (List.getElem?_eq_some_iff.1 hm').1
      rw [seat, List.length_append, List.length_singleton] at hlt
      rw [seat, List.getElem?_append_left (by omega)] at hm'
      exact h.settled m o' b' hm'
    · intro p hp
      exact absurd hp (by simp [seat, hnew])
    · exact List.map_append.trans (congrArg (· ++ [mode]) h.modes)
  refine ⟨o.flags, ?_⟩
  rw [exec_openOverlay]
  cases buffer.refusal with
  | some fault => exact hpublish
  | none => exact hpublish.congr rfl rfl

theorem Steady.dispose (h : d.Steady past modes flags) (n : Nat) :
    (exec (dispose n) d).2.Steady past modes flags := by
  rcases hn : d.overlays[n]? with _ | ⟨o, b⟩
  · rw [Desk.dispose, exec_bind_of_error (exec_overlay_of_none hn)]
    exact h
  · cases hdisposed : o.disposed with
    | true =>
      rw [exec_dispose_of_disposed hn hdisposed]
      exact h
    | false =>
      rw [exec_dispose_of_live hn hdisposed]
      have hmod : { d with overlays := d.overlays.modify n fun (o, b) =>
          ({ o with attached := false, disposed := true }, b) }.Steady past modes flags :=
        h.modify (fun _ => rfl) (fun _ => rfl) fun _ _ _ hf => ⟨hf, rfl⟩
      exact hmod.congr rfl rfl

end Steady

/-! ## Steps -/

theorem exec_number (names : Named Nat) (id : String) (d : Desk) :
    (∃ n, exec (number names id) d = (.ok n, d)) ∨ exec (number names id) d = (.error .noSuchOverlay, d) := by
  rw [number]
  cases Named.find? names id with
  | none => exact Or.inr rfl
  | some n => exact Or.inl ⟨n, rfl⟩

/-- An operation on what an id denotes does what it does by number, or nothing. -/
theorem exec_bind_number {P : Desk → Prop} {names : Desk → Named Nat} {id : String} {f : Nat → Op Unit}
    {d : Desk} (hd : P d) (hf : ∀ n, P (exec (f n) d).2) :
    P (exec ((do number (names (← get)) id) >>= f) d).2 := by
  rcases exec_number (names d) id d with ⟨n, hn⟩ | hn
  · rw [exec_bind_of_ok ((exec_get_bind d _).trans hn)]
    exact hf n
  · rw [exec_bind_of_error ((exec_get_bind d _).trans hn)]
    exact hd

theorem steady_start {past : List Publication} {d : Desk} (h : d.Settled past) (flags : Flags) :
    { d with publications := [], log := [] }.Steady past d.modes flags where
  settled := (List.append_nil past).symm ▸ h
  current _ hp := absurd hp List.not_mem_nil
  modes := rfl

/-- A step keeps what was settled, and publishes what the overlays have to publish. -/
theorem steady_step {past : List Publication} {d : Desk} (h : d.Settled past) (s : DeskStep) :
    ∃ flags, (d.step s).2.Steady past (d.modes ++ s.opens.toList) flags := by
  let d₀ : Desk := { d with publications := [], log := [] }
  have hstart : ∀ flags, d₀.Steady past (d.modes ++ []) flags := fun flags =>
    (List.append_nil d.modes).symm ▸ steady_start h flags
  have hbuffer : ∀ (id : String) (f : Buffer → Buffer),
      (exec (do modifyBuffer (← bufferNumber id) f) d₀).2.Steady past (d.modes ++ []) {} := by
    intro id f
    refine exec_bind_number (P := Steady past (d.modes ++ []) {}) (hstart {}) fun n => ?_
    exact (hstart {}).modify (fun _ => rfl) (fun _ => rfl) fun p hp => absurd hp List.not_mem_nil
  change ∃ flags, (exec (perform s) d₀).2.Steady _ _ flags
  cases s with
  | openOverlay id mode buffer attach given =>
    exact (steady_start h {}).openOverlay rfl id mode buffer attach given
  | setText id text => exact ⟨{}, hbuffer id _⟩
  | setBroken id fault => exact ⟨{}, hbuffer id _⟩
  | setRefusal id fault => exact ⟨{}, hbuffer id _⟩
  | refresh id trigger =>
    refine exec_bind_number (P := fun d' => ∃ flags, d'.Steady past _ flags) ⟨{}, hstart {}⟩ fun n => ?_
    unfold refreshNamed
    cases Trigger.ofName? trigger with
    | none => exact ⟨{}, hstart {}⟩
    | some t =>
      rcases hn : d.overlays[n]? with _ | ⟨o, b⟩
      · exact ⟨{}, (hstart {}).refresh (fun o b hget => nomatch hn.symm.trans hget) t⟩
      · refine ⟨o.flags, (hstart o.flags).refresh (fun o' b' hget => ?_) t⟩
        rw [(Prod.mk.inj (Option.some.inj (hn.symm.trans hget))).1]
  | settingsChanged id flags =>
    exact ⟨flags, exec_bind_number (P := Steady past _ flags) (hstart flags) (hstart flags).settingsChanged⟩
  | update changes =>
    rw [perform]
    cases hfit : checkChanges changes with
    | error e =>
      rw [exec_update_of_unfit hfit]
      exact ⟨{}, hstart {}⟩
    | ok fit =>
      rw [exec_update_of_fit hfit]
      exact ⟨_, (hstart _).apply⟩
  | apply flags =>
    rw [perform]
    exact ⟨flags, (hstart flags).apply⟩
  | dispose id =>
    exact ⟨{}, exec_bind_number (P := Steady past _ {}) (hstart {}) (hstart {}).dispose⟩
  | setFiles files => exact ⟨{}, (hstart {}).congr rfl rfl⟩

/-! ## Runs -/

theorem run_concat (d : Desk) (steps : List DeskStep) (s : DeskStep) :
    d.run (steps ++ [s]) = ((d.run steps).step s).2 := by
  induction steps generalizing d with
  | nil => rfl
  | cons t rest ih => exact ih _

theorem settled_run {past : List Publication} {d : Desk} (h : d.Settled past) (steps : List DeskStep) :
    (d.run steps).Settled (past ++ d.history steps) ∧
      (d.run steps).modes = d.modes ++ steps.filterMap DeskStep.opens := by
  induction steps generalizing past d with
  | nil => exact ⟨(List.append_nil past).symm ▸ h, (List.append_nil _).symm⟩
  | cons s rest ih =>
    obtain ⟨flags, hstep⟩ := steady_step h s
    obtain ⟨hsettled, hmodes⟩ := ih hstep.settled
    refine ⟨?_, ?_⟩
    · rw [history, ← List.append_assoc]
      exact hsettled
    · rw [run, hmodes, hstep.modes, List.append_assoc]
      cases hopens : s.opens <;> simp [hopens]

/-- **Overlays publish what their documents hold, and keep it.** Whatever is published in a step is what
its overlay has to publish, by the text and the flags it has then and the rule set it was opened with;
and after the step every overlay has the markers that it published last. -/
theorem run_publications (files : Files) (st : Store Nat) (steps : List DeskStep) (s : DeskStep) :
    (∀ p ∈ (((ofStore files st).run steps).step s).2.publications,
      ∃ o b, ((ofStore files st).run (steps ++ [s])).overlays[p.overlay]? = some (o, b) ∧
        ((steps ++ [s]).filterMap DeskStep.opens)[p.overlay]? = some o.mode ∧
        p.markers = if b.broken.isSome then [] else scan o.mode o.flags b.text) ∧
      ∀ n o b, ((ofStore files st).run (steps ++ [s])).overlays[n]? = some (o, b) →
        lastOf n ((ofStore files st).history (steps ++ [s])) = some o.markers := by
  have hempty : (ofStore files st).Settled [] := fun n o b hget => by simp [ofStore] at hget
  obtain ⟨hsettled, -⟩ := settled_run hempty steps
  obtain ⟨hlast, hmodes⟩ := settled_run hempty (steps ++ [s])
  obtain ⟨flags, hstep⟩ := steady_step hsettled s
  refine ⟨fun p hp => ?_, hlast⟩
  obtain ⟨o, b, hget, -, hmarkers⟩ := hstep.current p hp
  rw [← run_concat] at hget
  refine ⟨o, b, hget, ?_, hmarkers⟩
  rw [show (ofStore files st).modes = [] from rfl, List.nil_append] at hmodes
  rw [← hmodes, modes, List.getElem?_map, hget, Option.map_some]

/-- No files at all. -/
def noFiles : Files := ⟨.empty, ⟨"/", []⟩⟩

/-- A store that is kept in memory. -/
def memoryStore : Store Nat := ⟨none, "", {}, {}, []⟩

/-- A desk around a store that is kept in memory. -/
def inMemory : Desk := ofStore noFiles memoryStore

/-- A receiver that refuses the markers has them all the same. -/
theorem run_publications_refused :
    let steps : List DeskStep :=
      [.openOverlay "a" .clike { text := "class A".toList } true none, .setRefusal "a" (some ⟨"full"⟩)]
    ⟨0, "a", scan .clike { classes := false } "class A".toList⟩ ∈
        ((inMemory.run steps).step (.apply { classes := false })).2.publications ∧
      lastOf 0 (inMemory.history (steps ++ [.apply { classes := false }])) =
        some (scan .clike { classes := false } "class A".toList) := by
  intro steps
  refine ⟨List.mem_singleton.2 rfl, ?_⟩
  exact (run_publications noFiles memoryStore steps (.apply { classes := false })).2 0 _ _ rfl

end Desk

end Landmarks
