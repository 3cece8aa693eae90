import Landmarks.Proofs.FlagLayers
import Landmarks.Proofs.JsonRoundTrip
import Landmarks.Proofs.Utf8
import Landmarks.Service.App

/-!
# Scan requests and their replies

* `requestedFlag?` : the value that a request gives a flag; `lastFor_readOverrides` : it is the change that the
  request makes.
* `valueOf?` : the value that a body holds; `valueOf?_pretty` : a value that is written out is found again.
* `ofJson_eq_ok` : a value is a request if each of its fields is.
* `Asks` : what a value asks for; `Asks.request` : it is a request for just that.
* `respond_scan` : the reply to a scan request.
-/

namespace Landmarks.Service

/-! ## Changes of flags -/

/-- The value that a request gives a flag. -/
def requestedFlag? (j : Json) (f : Flag) : Option Bool := do
  let value ← (← j.get? "flags").get? f.name
  (readBoolean value).toOption.join

theorem lastFor_readFlag {j : Json} {g : Flag} {changes : List (Flag × Bool)} (h : readFlag j g = .ok changes) (f : Flag) :
    lastFor f changes =
      if g = f then (j.get? f.name).bind fun value => (readBoolean value).toOption.join else none := by
  unfold readFlag at h
  split at h
  · rename_i hvalue
    cases h
    by_cases hg : g = f
    · subst hg
      simp [hvalue, lastFor]
    · simp [hg, lastFor]
  · rename_i value hvalue
    split at h
    · rename_i b hb
      cases h
      by_cases hg : g = f
      · subst hg
        cases b <;> simp [hvalue, hb, lastFor, Except.toOption]
      · cases b <;> simp [hg, lastFor]
    · cases h

theorem lastFor_readFlagList {j : Json} {flags : List Flag} {changes : List (Flag × Bool)}
    (h : readFlagList j flags = .ok changes) (f : Flag) :
    lastFor f changes =
      if f ∈ flags then (j.get? f.name).bind fun value => (readBoolean value).toOption.join else none := by
  induction flags generalizing changes with
  | nil =>
    cases h
    rfl
  | cons g flags ih =>
    rw [readFlagList] at h
    rcases hfirst : readFlag j g with issues | first
    · cases hrest : readFlagList j flags <;> (rw [hfirst, hrest] at h; cases h)
    · rcases hrest : readFlagList j flags with issues | rest
      · rw [hfirst, hrest] at h
        cases h
      · rw [hfirst, hrest] at h
        cases h
        rw [lastFor_append, ih hrest, lastFor_readFlag hfirst]
        by_cases hg : g = f
        · subst hg
          by_cases hmem : g ∈ flags <;> simp [hmem]
        · simp [hg, Ne.symm hg]

theorem lastFor_readOverrides {j : Json} {changes : List (Flag × Bool)} (h : readOverrides j = .ok changes) (f : Flag) :
    lastFor f changes = requestedFlag? j f := by
  unfold readOverrides at h
  split at h
  · rename_i hflags
    cases h
    rw [requestedFlag?, hflags]
    rfl
  · rename_i hflags
    cases h
    rw [requestedFlag?, hflags]
    rfl
  · rename_i fields hflags
    rw [lastFor_readFlagList h, if_pos f.mem_all, requestedFlag?, hflags]
    rfl
  · cases h

/-! ## Bodies -/

/-- The value that the bytes of a body hold. -/
def valueOf? (body : List Utf8.Byte) : Option Json :=
  (Encoding.decodeDetected? body).bind fun cs => (Json.parse cs).toOption

theorem ofBody_of_value {body : List Utf8.Byte} {j : Json} (h : valueOf? body = some j) :
    ScanRequest.ofBody body = (ScanRequest.ofJson j).mapError .invalid := by
  obtain ⟨cs, hdecode, hparse⟩ := Option.bind_eq_some_iff.1 h
  have hne : body.isEmpty = false := by
    cases body with
    | nil =>
      have hempty : valueOf? [] = none := rfl
      rw [hempty] at h
      cases h
    | cons b body => rfl
  cases hresult : Json.parse cs with
  | error e =>
    rw [hresult] at hparse
    cases hparse
  | ok found =>
    rw [hresult] at hparse
    cases hparse
    simp only [ScanRequest.ofBody, hne, hdecode, hresult, Bool.false_eq_true, if_false]

/-- An object that is written out is read from its bytes. -/
theorem valueOf?_pretty {fields : Json.Fields} (hne : fields ≠ []) (h : (Json.obj fields).Readable) :
    valueOf? (Utf8.encode (Json.obj fields).pretty.toList) = some (.obj fields) := by
  have htext : ∃ rest, (Json.obj fields).pretty.toList = '\x7b' :: '\n' :: rest := by
    obtain ⟨f, fs, rfl⟩ := List.exists_cons_of_ne_nil hne
    rw [Json.pretty, String.toList_ofList, Json.prettyChars]
    cases fs <;> exact ⟨_, rfl⟩
  obtain ⟨rest, hrest⟩ := htext
  have hbytes : Utf8.encode (Json.obj fields).pretty.toList = 0x7B :: 0x0A :: Utf8.encode rest := by
    rw [hrest]
    rfl
  have hmark : Encoding.mark.isPrefixOf (0x7B :: 0x0A :: Utf8.encode rest) = false := rfl
  have hform : Encoding.Form.ofBytes (0x7B :: 0x0A :: Utf8.encode rest) = .utf8 := by
    rcases Utf8.encode rest with _ | ⟨b, _ | ⟨d, bs⟩⟩ <;> rfl
  have hdecode : Encoding.decodeDetected? (Utf8.encode (Json.obj fields).pretty.toList) =
      some (Json.obj fields).pretty.toList := by
    have hutf8 := Utf8.decode_encode (Json.obj fields).pretty.toList
    rw [hbytes] at hutf8 ⊢
    rw [Encoding.decodeDetected?, hmark, if_neg Bool.false_ne_true, hform, hutf8]
    rfl
  rw [valueOf?, hdecode, Option.bind_some, Json.parse_pretty h]
  rfl

theorem both_eq_ok {α β : Type} {a : Except (List Issue) α} {b : Except (List Issue) β} {r : α × β} :
    both a b = .ok r ↔ a = .ok r.1 ∧ b = .ok r.2 := by
  obtain ⟨x, y⟩ := r
  cases a <;> cases b <;> simp [both]

/-- A value is a request if each of its fields is. -/
theorem ofJson_eq_ok {j : Json} {r : ScanRequest} :
    ScanRequest.ofJson j = .ok r ↔ readText j "text" = .ok r.text ∧ readOptionalText j "language" = .ok r.language ∧
      readOptionalText j "path" = .ok r.path ∧ readOverrides j = .ok r.overrides := by
  cases j with
  | obj fields =>
    rw [ScanRequest.ofJson, bind_eq_ok]
    constructor
    · rintro ⟨⟨text, language, path, overrides⟩, hfields, hr⟩
      cases hr
      simpa only [both_eq_ok] using hfields
    · intro h
      refine ⟨(r.text, r.language, r.path, r.overrides), ?_, rfl⟩
      simpa only [both_eq_ok] using h
  | _ =>
    constructor
    · intro h
      cases h
    · rintro ⟨h, -⟩
      cases h

/-! ## What is asked for -/

/-- A value asks for the markers of a text under a path, with a language and changes of flags, where these are
given. What is not given may be missing or null. -/
structure Asks (j : Json) (text path : String) (language : Option Mode) (overrides : Flag → Option Bool) : Prop where
  text : j.get? "text" = some (.str text)
  path : j.get? "path" = some (.str path)
  language : (j.get? "language").getD .null = (language.map fun m => Json.str m.name).getD .null
  flags : ((j.get? "flags").getD .null = .null ∧ ∀ f, overrides f = none) ∨
    ∃ fields, j.get? "flags" = some (.obj fields) ∧
      ∀ f, (Named.find? fields f.name).getD .null = ((overrides f).map Json.bool).getD .null

theorem readString_str (field s : String) : readString field (.str s) = .ok s := by
  simp only [readString, Str.text?_ofString]

theorem readOptionalText_of {j : Json} {field : String} {value : Option String}
    (h : (j.get? field).getD .null = (value.map fun s : String => Json.str s).getD .null) : readOptionalText j field = .ok value := by
  unfold readOptionalText
  cases hfield : j.get? field with
  | none =>
    rw [hfield] at h
    cases value with
    | none => rfl
    | some s => cases h
  | some v =>
    rw [hfield, Option.getD_some] at h
    subst h
    cases value with
    | none => rfl
    | some s => exact congrArg (Except.map some) (readString_str field s)

theorem readFlagList_of_boolean {j : Json} (h : ∀ f : Flag, ∃ b, readBoolean ((j.get? f.name).getD .null) = .ok b)
    (flags : List Flag) : ∃ changes, readFlagList j flags = .ok changes := by
  induction flags with
  | nil => exact ⟨[], rfl⟩
  | cons f flags ih =>
    obtain ⟨rest, hrest⟩ := ih
    obtain ⟨b, hb⟩ := h f
    have hfirst : ∃ first, readFlag j f = .ok first := by
      unfold readFlag
      cases hvalue : j.get? f.name with
      | none => exact ⟨[], rfl⟩
      | some value =>
        rw [hvalue, Option.getD_some] at hb
        exact ⟨b.toList.map fun b => (f, b), by simp only [hb]⟩
    obtain ⟨first, hfirst⟩ := hfirst
    exact ⟨first ++ rest, by rw [readFlagList, hfirst, hrest]; rfl⟩

theorem readOverrides_of_null {j : Json} (h : (j.get? "flags").getD .null = .null) :
    readOverrides j = .ok [] := by
  unfold readOverrides
  cases hflags : j.get? "flags" with
  | none => rfl
  | some value =>
    rw [hflags, Option.getD_some] at h
    subst h
    rfl

theorem readOverrides_of_boolean {j : Json} {fields : Json.Fields} {overrides : Flag → Option Bool}
    (hfields : j.get? "flags" = some (.obj fields))
    (h : ∀ f, readBoolean ((Named.find? fields f.name).getD .null) = .ok (overrides f)) :
    ∃ changes, readOverrides j = .ok changes ∧ ∀ f, lastFor f changes = overrides f := by
  obtain ⟨changes, hchanges⟩ := readFlagList_of_boolean (j := .obj fields) (fun f => ⟨_, h f⟩) Flag.all
  have hread : readOverrides j = .ok changes := by
    rw [readOverrides, hfields]
    exact hchanges
  refine ⟨changes, hread, fun f => ?_⟩
  rw [lastFor_readOverrides hread, requestedFlag?, hfields]
  have hf := h f
  cases hvalue : Named.find? fields f.name with
  | none =>
    rw [hvalue] at hf
    simpa [Json.get?, hvalue] using Except.ok.inj hf
  | some value =>
    rw [hvalue, Option.getD_some] at hf
    simp [Json.get?, hvalue, hf, Except.toOption]

/-- What a value asks for is the request that it is. -/
theorem Asks.request {j : Json} {text path : String} {language : Option Mode} {overrides : Flag → Option Bool}
    (h : Asks j text path language overrides) :
    ∃ changes, ScanRequest.ofJson j = .ok ⟨text, language.map Mode.name, some path, changes⟩ ∧
      ∀ f, lastFor f changes = overrides f := by
  have hflags : ∃ changes, readOverrides j = .ok changes ∧ ∀ f, lastFor f changes = overrides f := by
    rcases h.flags with ⟨hnull, hnone⟩ | ⟨fields, hfields, hvalues⟩
    · exact ⟨[], readOverrides_of_null hnull, fun f => (hnone f).symm⟩
    · refine readOverrides_of_boolean hfields fun f => ?_
      rw [hvalues]
      cases overrides f <;> rfl
  obtain ⟨changes, hchanges, hlast⟩ := hflags
  refine ⟨changes, ofJson_eq_ok.2 ⟨?_, ?_, ?_, hchanges⟩, hlast⟩
  · rw [readText, h.text]
    exact readString_str "text" text
  · refine readOptionalText_of ?_
    rw [h.language, Option.map_map]
    rfl
  · refine readOptionalText_of ?_
    rw [h.path]
    rfl

/-! ## Replies -/

theorem respond_scan {app : App} {files : Files} {body : List Utf8.Byte} {j : Json} {r : ScanRequest} {mode : Mode}
    {flags : Flags} {log : List Record} (hbody : valueOf? body = some j) (hr : ScanRequest.ofJson j = .ok r)
    (hmode : app.modeOf r = .ok mode) (hflags : app.flags.read files = .ok (flags, log)) :
    (app.respond files "POST" "/scan" body).1 =
      .markers mode (scan mode (flags.setAll r.overrides) r.text.toList) := by
  have hroute : (Target.ofString "/scan").route = "/scan".toList := by decide +kernel
  have hrequest : ScanRequest.ofBody body = .ok r := by
    rw [ofBody_of_value hbody, hr]
    rfl
  simp only [App.respond, hroute, hrequest, App.scan, hmode, hflags]
  rfl

end Landmarks.Service
