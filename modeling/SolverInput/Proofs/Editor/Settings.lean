import SolverInput.Proofs.Editor.Session
import Mathlib.Data.List.Induction

/-!
# Settings have no memory

The settings are replaced by every well-formed payload, and what replaces them depends on that
payload and the defaults alone. The argument has three parts:

* which sections are well formed, and what they spell, as a relation beside the reader
  (`Spells`, `ofJson?_eq_some_iff`);
* one payload: a malformed one leaves the settings, any other forgets them (`apply_of_isMalformed`,
  `apply_of_not_isMalformed`);
* a history of payloads, where the last one that is not malformed decides (`foldl_configure_cases`).
-/

namespace SolverInput

/-- Only objects have members. -/
lemma Json.get?_eq_some_iff {name : String} {json value : Json} :
    json.get? name = some value ↔
      ∃ members, json = .object members ∧ members.lookup name = some value := by
  cases json <;> simp [Json.get?]

namespace Editor.Settings

/-! ## Well-formed sections -/

/-- A value that may be left out. If it is left out or null, it gives nothing; otherwise it is of
the kind that `wrap` makes, and it gives what is wrapped. -/
inductive Optional {α : Type} (wrap : α → Json) : Option Json → Option α → Prop
  | absent : Optional wrap none none
  | null : Optional wrap (some .null) none
  | given (value : α) : Optional wrap (some (wrap value)) (some value)

/-- A well-formed settings section and the keys that it gives: an object, whose other members do not
count, or a list of the two values in order. -/
inductive Spells : Json → Update → Prop
  | members {members : List (String × Json)} {highlighting : Option Bool}
      {extension : Option String} :
      Optional .bool (members.lookup "semanticHighlighting") highlighting →
      Optional .string (members.lookup "outputExtension") extension →
      Spells (.object members) ⟨highlighting, extension⟩
  | items {first second : Json} {highlighting : Option Bool} {extension : Option String} :
      Optional .bool (some first) highlighting → Optional .string (some second) extension →
      Spells (.array [first, second]) ⟨highlighting, extension⟩

lemma optional?_of_ne_null {α : Type} (read : Json → Option α) {value : Json}
    (h : value ≠ .null) : optional? read (some value) = (read value).map some := by
  cases value with
  | null => exact absurd rfl h
  | _ => rfl

/-- Reading an optional value, if what is read is what is wrapped. -/
lemma optional?_eq_some_iff {α : Type} {read : Json → Option α} {wrap : α → Json}
    (hread : ∀ value a, read value = some a ↔ value = wrap a) (hnull : ∀ a, wrap a ≠ .null)
    {value : Option Json} {result : Option α} :
    optional? read value = some result ↔ Optional wrap value result := by
  constructor
  · intro h
    cases value with
    | none =>
      obtain rfl : none = result := Option.some.inj h
      exact .absent
    | some value =>
      by_cases hvalue : value = .null
      · subst hvalue
        obtain rfl : none = result := Option.some.inj h
        exact .null
      · rw [optional?_of_ne_null read hvalue] at h
        obtain ⟨a, ha, rfl⟩ := Option.map_eq_some_iff.1 h
        rw [(hread value a).1 ha]
        exact .given a
  · intro h
    cases h with
    | absent => rfl
    | null => rfl
    | given a => rw [optional?_of_ne_null read (hnull a), (hread _ a).2 rfl, Option.map_some]

lemma optional?_bool {value : Option Json} {result : Option Bool} :
    optional? Json.bool? value = some result ↔ Optional .bool value result := by
  refine optional?_eq_some_iff (fun value a => ?_) (fun a => by simp)
  cases value <;> simp [Json.bool?]

lemma optional?_string {value : Option Json} {result : Option String} :
    optional? Json.string? value = some result ↔ Optional .string value result := by
  refine optional?_eq_some_iff (fun value a => ?_) (fun a => by simp)
  cases value <;> simp [Json.string?]

/-- The reader accepts exactly the well-formed sections, and reads what they spell. -/
lemma ofJson?_eq_some_iff {values : Json} {update : Update} :
    Update.ofJson? values = some update ↔ Spells values update := by
  constructor
  · intro h
    unfold Update.ofJson? at h
    split at h
    · obtain ⟨highlighting, hh, h⟩ := Option.bind_eq_some_iff.1 h
      obtain ⟨extension, he, h⟩ := Option.bind_eq_some_iff.1 h
      obtain rfl : _ = update := Option.some.inj h
      exact .members (optional?_bool.1 hh) (optional?_string.1 he)
    · obtain ⟨highlighting, hh, h⟩ := Option.bind_eq_some_iff.1 h
      obtain ⟨extension, he, h⟩ := Option.bind_eq_some_iff.1 h
      obtain rfl : _ = update := Option.some.inj h
      exact .items (optional?_bool.1 hh) (optional?_string.1 he)
    · cases h
  · intro h
    cases h with
    | members hh he =>
      rw [← optional?_bool] at hh
      rw [← optional?_string] at he
      simp [Update.ofJson?, hh, he]
    | items hh he =>
      rw [← optional?_bool] at hh
      rw [← optional?_string] at he
      simp [Update.ofJson?, hh, he]

/-! ## One payload -/

/-- A malformed payload is an object with a settings section that is not well formed. -/
def IsMalformed (payload : Json) : Prop :=
  ∃ members values, payload = .object members ∧ members.lookup "MInDesServer" = some values ∧
    ∀ update, ¬ Spells values update

lemma requested?_of_section {payload values : Json} (defaults : Settings)
    (h : payload.get? "MInDesServer" = some values) :
    requested? defaults payload = (Update.ofJson? values).map (·.over defaults) := by
  unfold requested? sectionName
  rw [h]

section Payload

variable {payload values : Json} {update : Update} (defaults current : Settings)

/-- A payload without the section resets the settings. -/
lemma apply_of_no_section (h : payload.get? "MInDesServer" = none) :
    apply defaults current payload = (defaults, true) := by
  unfold apply requested? sectionName
  rw [h]

/-- A well-formed section gives the settings that it spells, over the defaults. -/
lemma apply_of_spells (h : payload.get? "MInDesServer" = some values) (hs : Spells values update) :
    apply defaults current payload
      = (⟨update.semanticHighlighting.getD defaults.semanticHighlighting,
          update.outputExtension.getD defaults.outputExtension⟩, true) := by
  unfold apply
  rw [requested?_of_section defaults h, ofJson?_eq_some_iff.2 hs]
  rfl

/-- A malformed payload leaves the settings. -/
lemma apply_of_isMalformed (h : IsMalformed payload) :
    apply defaults current payload = (current, false) := by
  obtain ⟨members, values, hpayload, hvalues, hno⟩ := h
  have hsection : payload.get? "MInDesServer" = some values :=
    Json.get?_eq_some_iff.2 ⟨members, hpayload, hvalues⟩
  have hread : Update.ofJson? values = none := by
    rw [Option.eq_none_iff_forall_ne_some]
    intro update hupdate
    exact hno update (ofJson?_eq_some_iff.1 hupdate)
  unfold apply
  rw [requested?_of_section defaults hsection, hread]
  rfl

/-- Any other payload replaces the settings, whatever they were. -/
lemma apply_of_not_isMalformed (h : ¬ IsMalformed payload) :
    apply defaults current payload = ((apply defaults defaults payload).1, true) := by
  cases hsection : payload.get? "MInDesServer" with
  | none => rw [apply_of_no_section defaults _ hsection, apply_of_no_section defaults _ hsection]
  | some values =>
    obtain ⟨members, hpayload, hvalues⟩ := Json.get?_eq_some_iff.1 hsection
    obtain ⟨update, hs⟩ : ∃ update, Spells values update := by
      by_contra hno
      push Not at hno
      exact h ⟨members, values, hpayload, hvalues, hno⟩
    rw [apply_of_spells defaults _ hsection hs, apply_of_spells defaults _ hsection hs]

lemma apply_eq_false_iff : (apply defaults current payload).2 = false ↔ IsMalformed payload := by
  constructor
  · intro hfalse
    by_contra h
    rw [apply_of_not_isMalformed defaults current h] at hfalse
    cases hfalse
  · intro h
    rw [apply_of_isMalformed defaults current h]

end Payload

/-! ## A history of payloads -/

/-- The last payload that is not malformed decides, and if there is none, the settings stay. -/
lemma foldl_configure_cases (defaults current : Settings) (payloads : List Json) :
    let settled := payloads.foldl (Session.configure defaults) current
    (∀ payload ∈ payloads, IsMalformed payload) ∧ settled = current ∨
    ∃ before payload later, payloads = before ++ payload :: later ∧ ¬ IsMalformed payload ∧
      (∀ p ∈ later, IsMalformed p) ∧ settled = (apply defaults defaults payload).1 := by
  -- from the end: the last payload is malformed and leaves the settings, or it decides
  induction payloads using List.reverseRecOn with
  | nil => exact Or.inl ⟨by simp, rfl⟩
  | append_singleton payloads last ih =>
    intro settled
    have hsettled : settled
        = (apply defaults (payloads.foldl (Session.configure defaults) current) last).1 := by
      simp only [settled, List.foldl_append]
      rfl
    by_cases hlast : IsMalformed last
    · rw [apply_of_isMalformed _ _ hlast] at hsettled
      rw [hsettled]
      rcases ih with ⟨hall, hkept⟩ | ⟨before, payload, later, rfl, hgood, hlater, hset⟩
      · refine Or.inl ⟨fun payload hmem => ?_, hkept⟩
        rcases List.mem_append.1 hmem with hmem | hmem
        · exact hall payload hmem
        · exact List.mem_singleton.1 hmem ▸ hlast
      · refine Or.inr ⟨before, payload, later ++ [last], by simp, hgood, fun p hmem => ?_, hset⟩
        rcases List.mem_append.1 hmem with hmem | hmem
        · exact hlater p hmem
        · exact List.mem_singleton.1 hmem ▸ hlast
    · rw [apply_of_not_isMalformed _ _ hlast] at hsettled
      exact Or.inr ⟨payloads, last, [], rfl, hlast, by simp, hsettled⟩

/-- **Settings have no memory beyond the last good payload.** A payload is refused exactly if it is
malformed, and then the settings stay as they were. Without the section it resets them, and a
well-formed section gives them anew: keys that are left out or null take their defaults, whatever
the settings were. So after any payloads, and in a session after any calls, the settings are those
that the last payload that is not malformed makes of the defaults, or the defaults if there is
none. -/
theorem settings_decided_by_last_payload (defaults : Settings) :
    (∀ current payload, (apply defaults current payload).2 = false ↔ IsMalformed payload) ∧
    (∀ current payload, IsMalformed payload → (apply defaults current payload).1 = current) ∧
    (∀ current payload, payload.get? "MInDesServer" = none →
      apply defaults current payload = (defaults, true)) ∧
    (∀ current payload values update, payload.get? "MInDesServer" = some values →
      Spells values update →
      apply defaults current payload
        = (⟨update.semanticHighlighting.getD defaults.semanticHighlighting,
            update.outputExtension.getD defaults.outputExtension⟩, true)) ∧
    (∀ payloads : List Json,
      let settled := payloads.foldl (Session.configure defaults) defaults
      (∀ payload ∈ payloads, IsMalformed payload) ∧ settled = defaults ∨
      ∃ before payload later, payloads = before ++ payload :: later ∧ ¬ IsMalformed payload ∧
        (∀ p ∈ later, IsMalformed p) ∧ settled = (apply defaults defaults payload).1) ∧
    (∀ dictionary startup files calls,
      ((Session.start defaults dictionary startup).after files calls).1.settings
        = (calls.filterMap Call.payload?).foldl (Session.configure defaults) defaults) := by
  refine ⟨fun current payload => apply_eq_false_iff defaults current, ?_, ?_, ?_, ?_, ?_⟩
  · intro current payload h
    rw [apply_of_isMalformed defaults current h]
  · intro current payload h
    exact apply_of_no_section defaults current h
  · intro current payload values update h hs
    exact apply_of_spells defaults current h hs
  · intro payloads
    exact foldl_configure_cases defaults defaults payloads
  · intro dictionary startup files calls
    exact (Session.settings_after (Session.start defaults dictionary startup) files calls).1

/-- A list section is well formed, and its null takes the default and not the extension that was set
before; a section of the wrong kind after it changes nothing. -/
theorem settings_decided_by_last_payload_bad_last :
    let defaults : Settings := ⟨true, "mindes"⟩
    let first : Json := .object [("MInDesServer", .object [("outputExtension", .string "txt")])]
    let good : Json := .object [("MInDesServer", .array [.bool false, .null])]
    let bad : Json := .object [("MInDesServer", .object [("semanticHighlighting", .string "yes")])]
    Spells (.array [.bool false, .null]) ⟨some false, none⟩ ∧
      apply defaults ⟨true, "txt"⟩ good = (⟨false, "mindes"⟩, true) ∧ IsMalformed bad ∧
      (apply defaults ⟨false, "mindes"⟩ bad).1 = ⟨false, "mindes"⟩ ∧
      [first, good, bad].foldl (Session.configure defaults) defaults = ⟨false, "mindes"⟩ := by
  intro defaults first good bad
  obtain ⟨hfalse, hkept, -, hspelled, -, -⟩ := settings_decided_by_last_payload defaults
  have hspells : Spells (.array [.bool false, .null]) ⟨some false, none⟩ :=
    .items (.given false) .null
  have hbad : IsMalformed bad := (hfalse defaults bad).1 rfl
  exact ⟨hspells, hspelled ⟨true, "txt"⟩ good _ _ rfl hspells, hbad, hkept _ bad hbad, rfl⟩

end Editor.Settings

end SolverInput
