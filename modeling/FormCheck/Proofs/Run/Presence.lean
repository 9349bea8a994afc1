import FormCheck.Proofs.Run.Absent
import FormCheck.Proofs.Run.Events

/-!
The rules that ask whether anything is there. Cleaning a value takes nothing from it that they look
at, so two validators, of which one cleans values and the other does not, meet the same failures of
these rules, in the same places of a run. What else fails may differ.
-/
namespace FormCheck

namespace Checks

variable {value : Value}

private theorem holdsText_eq_false_iff {s : String} :
    holdsText s = false ↔ sanitizeText s = "" := by
  rw [holdsText, Bool.not_eq_false', List.isEmpty_iff, stripPadding, Text.strip_eq_nil_iff,
    sanitizeText_eq_empty_iff]

private theorem holdsText_sanitizeText (s : String) : holdsText (sanitizeText s) = holdsText s := by
  rw [Bool.eq_iff_iff, ← not_iff_not, Bool.not_eq_true, Bool.not_eq_true, holdsText_eq_false_iff,
    holdsText_eq_false_iff, sanitizeText_sanitizeText]

private theorem isEmpty_sanitizeAll (items : List Value) :
    (Value.sanitizeAll items).isEmpty = items.isEmpty := by
  cases items <;> rfl

private theorem required_sanitize (value : Value) : required value.sanitize = required value := by
  cases value with
  | text s => exact holdsText_sanitizeText s
  | list items => exact congrArg Bool.not (isEmpty_sanitizeAll items)
  | _ => rfl

private theorem filled_sanitize (value : Value) : filled value.sanitize = filled value := by
  cases value with
  | text s => exact holdsText_sanitizeText s
  | list items => exact congrArg Bool.not (isEmpty_sanitizeAll items)
  | _ => rfl

private theorem filled_of_required (h : required value = true) : filled value = true := by
  cases value <;> first | exact h | rfl

private theorem required_ne_filled_iff :
    required value ≠ filled value ↔
      value = .null ∨ ∃ u, value = .upload u ∧ u.error = Upload.noFile := by
  cases value <;> simp [required, filled]

end Checks

def presenceChecks : List (String × (Value → Bool)) :=
  [("required", Checks.required), ("filled", Checks.filled)]

private theorem eq_of_mem_presenceChecks {c : String × (Value → Bool)} (hc : c ∈ presenceChecks) :
    c = ("required", Checks.required) ∨ c = ("filled", Checks.filled) := by
  simpa [presenceChecks] using hc

def isPresence (name : String) : Bool := presenceChecks.any fun c => c.1 == name

def Event.tellsPresence : Event → Bool
  | .ruleFailed _ rule _ => isPresence rule
  | _ => false

/-- The registry has the built-in rules under these names. -/
def Registry.KeepsPresence (r : Registry) : Prop :=
  ∀ c ∈ presenceChecks, r.get? c.1 = Registry.builtin.get? c.1

namespace Validator

variable {v w : Validator} {env : Surroundings} {data : Data} {field : String}

private theorem check_prepare {c : String × (Value → Bool)} (hc : c ∈ presenceChecks)
    (value : Value) : c.2 (v.prepare value) = c.2 value := by
  cases hs : v.sanitizes with
  | false => rw [prepare_of_not_sanitizes hs]
  | true =>
    rw [prepare_of_sanitizes hs]
    obtain rfl | rfl := eq_of_mem_presenceChecks hc
    · exact Checks.required_sanitize value
    · exact Checks.filled_sanitize value

private theorem kind_prepare (value : Value) : (v.prepare value).kind = value.kind := by
  cases hs : v.sanitizes with
  | false => rw [prepare_of_not_sanitizes hs]
  | true => rw [prepare_of_sanitizes hs, value.kind_sanitize]

private theorem eventOf_congr_prepare (f : Failure) : v.eventOf data f = w.eventOf data f := by
  rw [eventOf, eventOf, prepared, prepared, kind_prepare, kind_prepare]

private theorem builtin_presence {c : String × (Value → Bool)} (hc : c ∈ presenceChecks) :
    ∃ template, Registry.builtin.get? c.1 = some ⟨c.1, .ofValue c.2, template⟩ := by
  obtain rfl | rfl := eq_of_mem_presenceChecks hc
  · exact ⟨_, builtin_required⟩
  · exact ⟨"The :field field must have a value.", rfl⟩

private theorem names_of_presence {c : String × (Value → Bool)} (hc : c ∈ presenceChecks) :
    isCrossField c.1 = false ∧ (c.1 = "required" ∨ c.1 = "filled") := by
  obtain rfl | rfl := eq_of_mem_presenceChecks hc
  · exact ⟨rfl, .inl rfl⟩
  · exact ⟨rfl, .inr rfl⟩

private theorem fails_presence_iff (hv : v.registry.KeepsPresence) {c : String × (Value → Bool)}
    (hc : c ∈ presenceChecks) {rule : Rule} (hg : v.registry.get? c.1 = some rule)
    (params : List String) :
    v.Fails env data field rule c.1 params ↔ c.2 ((data.get? field).getD .null) = false := by
  obtain ⟨template, hb⟩ := builtin_presence hc
  rw [hv c hc, hb] at hg
  cases hg
  obtain ⟨hcross, hname⟩ := names_of_presence hc
  rw [← fails_iff, fails_of_not_isCrossField hcross, prepared]
  constructor
  · rintro ⟨-, ht⟩
    rw [← check_prepare hc]
    exact ht
  · intro ht
    rw [← check_prepare hc] at ht
    exact ⟨.inr hname, ht⟩

private theorem failure?_presence_congr (hv : v.registry.KeepsPresence)
    (hr : w.registry = v.registry)
    {listed : String × List String} (hl : isPresence listed.1 = true) :
    w.failure? env data field listed = v.failure? env data field listed := by
  obtain ⟨name, params⟩ := listed
  obtain ⟨c, hc, rfl⟩ : ∃ c ∈ presenceChecks, c.1 = name := by simpa [isPresence] using hl
  have hw : w.registry.KeepsPresence := by rwa [hr]
  rw [failure?, failure?, hr]
  cases hg : v.registry.get? c.1 with
  | none => rfl
  | some rule => simp only [fails_presence_iff hv hc hg, fails_presence_iff hw hc (hr ▸ hg)]

private theorem filter_failures_name (p : String → Bool) (rules : List (String × List String)) :
    (v.failures env data field rules).filter (fun f => p f.name) =
      v.failures env data field (rules.filter fun r => p r.1) := by
  rw [failures, failures, List.filter_filterMap, List.filterMap_filter]
  congr 1
  funext listed
  rw [failure?]
  cases v.registry.get? listed.1 with
  | none => simp
  | some rule =>
    by_cases hf : v.Fails env data field rule listed.1 listed.2 <;> simp [hf, Option.filter]

private theorem filter_failures_presence (hv : v.registry.KeepsPresence)
    (hr : w.registry = v.registry) (rules : List (String × List String)) :
    (w.failures env data field rules).filter (fun f => isPresence f.name) =
      (v.failures env data field rules).filter (fun f => isPresence f.name) := by
  rw [filter_failures_name, filter_failures_name]
  apply List.filterMap_congr
  intro listed hl
  exact failure?_presence_congr hv hr (List.mem_filter.1 hl).2

private theorem filter_failureLog_presence (hv : v.registry.KeepsPresence)
    (hr : w.registry = v.registry) (entries : List Entry) :
    (w.failureLog env data entries).filter (fun f => isPresence f.name) =
      (v.failureLog env data entries).filter (fun f => isPresence f.name) := by
  simp only [failureLog, List.filter_flatMap, filter_failures_presence hv hr]

private theorem filter_map_eventOf (failures : List Failure) :
    (failures.map (v.eventOf data)).filter Event.tellsPresence =
      (failures.filter fun f => isPresence f.name).map (v.eventOf data) :=
  List.filter_map

private theorem filter_tellsPresence_finished (fields errors : Nat) (locale : String) :
    [Event.validationFinished fields errors locale].filter Event.tellsPresence = [] := rfl

private theorem filter_events_presence (hv : v.registry.KeepsPresence)
    (hr : w.registry = v.registry) (entries : List Entry) :
    (w.validate env data entries).events.filter Event.tellsPresence =
      (v.validate env data entries).events.filter Event.tellsPresence := by
  have he : w.eventOf data = v.eventOf data := funext fun f => eventOf_congr_prepare f
  have hn : w.registry.has = v.registry.has := by rw [hr]
  cases hm : firstMistake? v.registry.has entries with
  | none =>
    have hw := @validate_of_no_mistake w env data entries (hn ▸ hm)
    have hv' := @validate_of_no_mistake v env data entries hm
    rw [events_of_ok hw, events_of_ok hv', List.filter_append, List.filter_append,
      filter_map_eventOf, filter_map_eventOf, filter_tellsPresence_finished,
      filter_tellsPresence_finished, filter_failureLog_presence hv hr, he]
  | some m =>
    obtain ⟨before, entry, after, rfl, hb, hf⟩ := firstMistake?_eq_some_iff.1 hm
    rw [events_of_error (validate_eq_error_iff.2 (hn ▸ hm)),
      events_of_error (validate_eq_error_iff.2 hm), events_runEntries_of_faulty _ hb hf,
      events_runEntries_of_faulty _ (hn ▸ hb) (hn ▸ hf), filter_map_eventOf, filter_map_eventOf,
      List.filter_append, List.filter_append, filter_failureLog_presence hv hr,
      filter_failures_presence hv hr, he, hn]

private theorem filter_failureLog_of_presence {entries : List Entry}
    (h : ∀ e ∈ entries, ∀ r ∈ e.2.listed, isPresence r.1 = true) :
    (v.failureLog env data entries).filter (fun f => isPresence f.name) =
      v.failureLog env data entries := by
  rw [List.filter_eq_self]
  intro f hf
  obtain ⟨entry, he, hf⟩ := List.mem_flatMap.1 hf
  obtain ⟨listed, hl, hf⟩ := List.mem_filterMap.1 hf
  obtain ⟨_, _, _, rfl⟩ := failure?_eq_some_iff.1 hf
  exact h entry he listed hl

/-- Whether values are cleaned does not matter to the rules that ask if anything is there. They
answer the same for a value and the clean one, and `filled` differs from `required` where nothing
was sent. A field fails them by its value as submitted, and a run meets and logs the same failures
of theirs in the same order, whatever other rules do and whether it ends in a report or a
mistake. -/
theorem presence_is_seen_through_cleaning (v : Validator) (hv : v.registry.KeepsPresence)
    (sanitizes : Bool) (env : Surroundings) (data : Data) (entries : List Entry) :
    let w : Validator := { v with sanitizes }
    (∀ value : Value,
      Checks.required value.sanitize = Checks.required value ∧
      Checks.filled value.sanitize = Checks.filled value ∧
      (Checks.required value = true → Checks.filled value = true) ∧
      (Checks.required value ≠ Checks.filled value ↔
        value = .null ∨ ∃ u, value = .upload u ∧ u.error = Upload.noFile)) ∧
    (∀ c ∈ presenceChecks, ∀ rule, v.registry.get? c.1 = some rule → ∀ field params,
      (v.Fails env data field rule c.1 params ↔ c.2 ((data.get? field).getD .null) = false) ∧
      (w.Fails env data field rule c.1 params ↔ c.2 ((data.get? field).getD .null) = false)) ∧
    (∀ m, (w.validate env data entries).value = .error m ↔
      (v.validate env data entries).value = .error m) ∧
    (w.validate env data entries).events.filter Event.tellsPresence =
      (v.validate env data entries).events.filter Event.tellsPresence ∧
    (w.failureLog env data entries).filter (fun f => isPresence f.name) =
      (v.failureLog env data entries).filter (fun f => isPresence f.name) ∧
    ((∀ e ∈ entries, ∀ r ∈ e.2.listed, isPresence r.1 = true) →
      ∀ r s, (v.validate env data entries).value = .ok r →
        (w.validate env data entries).value = .ok s → s.errors = r.errors) := by
  intro w
  have hr : w.registry = v.registry := rfl
  refine ⟨fun value => ⟨Checks.required_sanitize value, Checks.filled_sanitize value,
      Checks.filled_of_required, Checks.required_ne_filled_iff⟩,
    fun c hc rule hg field params => ⟨fails_presence_iff hv hc hg params,
      fails_presence_iff (v := w) hv hc hg params⟩,
    fun m => ?_, filter_events_presence hv hr entries, filter_failureLog_presence hv hr entries,
    fun hp r s h hs => ?_⟩
  · rw [validate_eq_error_iff, validate_eq_error_iff]
  · have hl : w.failureLog env data entries = v.failureLog env data entries := by
      rw [← filter_failureLog_of_presence hp, filter_failureLog_presence hv hr,
        filter_failureLog_of_presence hp]
    apply OrderedMap.ext
    rw [(collects_validate hs).entries_eq, (collects_validate h).entries_eq, hl]
    rfl

/-- Padding, an upload without its file and a missing field. The address is one only if clean. -/
theorem presence_in_padded_record :
    let plain : Validator := { new with sanitizes := false }
    let data : Data := .ofList [("a", .text "\t \n"), ("b", .upload ⟨Upload.noFile, "", 0, ""⟩),
      ("c", .text " me@example.com ")]
    let mixed : List Entry := [("a", .text "required|min:3"), ("b", .text "filled|required"),
      ("c", .text "email|required"), ("d", .text "filled|required")]
    let only : List Entry := [("a", .text "filled|required"), ("c", .text "required")]
    new.registry.KeepsPresence ∧
    (plain.validate .bare data mixed).events.filter Event.tellsPresence =
      (new.validate .bare data mixed).events.filter Event.tellsPresence ∧
    (new.validate .bare data mixed).events.filter Event.tellsPresence =
      [.ruleFailed "a" "required" "string", .ruleFailed "b" "required" "upload",
        .ruleFailed "d" "required" "null"] ∧
    ∃ r s, (new.validate .bare data only).value = .ok r ∧
      (plain.validate .bare data only).value = .ok s ∧ s.errors = r.errors := by
  intro plain data mixed only
  have hk : new.registry.KeepsPresence := fun _ _ => rfl
  have hn : firstMistake? new.registry.has only = none := by rfl
  have hr := @validate_of_no_mistake new .bare data only hn
  have hs := @validate_of_no_mistake plain .bare data only hn
  have hp : ∀ e ∈ only, ∀ r ∈ e.2.listed, isPresence r.1 = true := by decide
  obtain ⟨-, -, -, hevents, -, -⟩ := presence_is_seen_through_cleaning new hk false .bare data mixed
  obtain ⟨-, -, -, -, -, herrors⟩ := presence_is_seen_through_cleaning new hk false .bare data only
  exact ⟨hk, hevents, by decide +kernel, _, _, hr, hs, herrors hp _ _ hr hs⟩

end Validator

end FormCheck
