import FormCheck.Proofs.Rules.Registry
import FormCheck.Proofs.Run.Cleaning
import FormCheck.Proofs.Run.Prepared

/-!
The rules that compare a field with another. Two fields match if both are there and what rules see
of them agrees, which is the same both ways. The three rules make this one comparison and differ in
the other field and in the outcome they want. Every validator knows them, and what is registered
under their names only words their messages.
-/
namespace FormCheck

theorem Double.eq_comm (x y : Double) : x.eq y = y.eq x := Bool.and_comm _ _

private theorem Upload.agrees_comm (a b : Upload) : a.agrees b = b.agrees a := by
  simp only [Upload.agrees, Files.samePath, BEq.comm]

namespace Value

mutual

private theorem agrees_comm : ∀ a b : Value, a.agrees b = b.agrees a
  | null, b => by cases b <;> rfl
  | bool a, b => by cases b <;> simp only [agrees, BEq.comm]
  | int a, b => by cases b <;> simp only [agrees, BEq.comm]
  | float x, b => by cases b <;> simp only [agrees, Double.eq_comm]
  | text a, b => by cases b <;> simp only [agrees, BEq.comm]
  | list as, b => by
    cases b with
    | list bs => exact agreesAll_comm as bs
    | _ => rfl
  | upload a, b => by cases b <;> simp only [agrees, Upload.agrees_comm]

private theorem agreesAll_comm : ∀ as bs : List Value, agreesAll as bs = agreesAll bs as
  | [], bs => by cases bs <;> rfl
  | a :: as, [] => rfl
  | a :: as, b :: bs => by
    rw [agreesAll, agreesAll, agrees_comm a b, agreesAll_comm as bs]

end

@[simp] theorem agrees_null_iff {a : Value} : a.agrees .null = true ↔ a = .null := by
  cases a <;> simp [agrees]

end Value

namespace Registry

def IsStocked (r : Registry) : Prop := ∃ registered, r = builtin.after registered

namespace IsStocked

variable {r : Registry}

private theorem exists_rule (h : r.IsStocked) {name : String}
    (hn : name ∈ builtinRules.map Rule.name) :
    ∃ rule, r.get? name = some rule ∧ rule.name = name := by
  obtain ⟨registered, rfl⟩ := h
  rw [builtin_eq_after, ← after_append, get?_after]
  have hsome : (lastNamed? (builtinRules ++ registered) name).isSome = true := by
    obtain ⟨rule, hm, hn⟩ := List.mem_map.1 hn
    exact isSome_lastNamed?_iff.2 ⟨rule, List.mem_append_left _ hm, hn⟩
  obtain ⟨rule, hl⟩ := Option.isSome_iff_exists.1 hsome
  exact ⟨rule, by rw [hl, Option.some_or], name_of_lastNamed? hl⟩

private theorem exists_crossFieldRule (h : r.IsStocked) (name : String)
    (hc : isCrossField name = true) : ∃ rule, r.get? name = some rule ∧ rule.name = name := by
  have hm : name ∈ crossFieldRules.map Rule.name := List.contains_iff_mem.1 hc
  apply h.exists_rule
  rw [builtinRules, List.map_append]
  exact List.mem_append_right _ hm

end IsStocked

end Registry

namespace Validator

variable {v : Validator} {env : Surroundings} {data : Data} {field other name : String}
  {rule : Rule} {params : List String}

section Matches

/-- Two fields match if neither is missing or null and what rules see of them agrees. -/
structure Matches (v : Validator) (data : Data) (a b : String) : Prop where
  left : v.prepared data a ≠ .null
  right : v.prepared data b ≠ .null
  agrees : (v.prepared data a).agrees (v.prepared data b) = true

theorem Matches.symm (h : v.Matches data field other) : v.Matches data other field :=
  ⟨h.right, h.left, (Value.agrees_comm _ _).trans h.agrees⟩

private theorem matches_comm : v.Matches data field other ↔ v.Matches data other field :=
  ⟨.symm, .symm⟩

/-- The field matches the one that the rule compares it with, if there is a name of such a field. -/
def MatchesSibling (v : Validator) (data : Data) (field name : String) (params : List String) :
    Prop :=
  ∃ other, siblingName? name field params = some other ∧ v.Matches data field other

private theorem matchesSibling_iff_exists_sibling :
    v.MatchesSibling data field name params ↔
      ∃ sibling, v.IsSibling data field name params sibling ∧
        sibling.agrees (v.prepared data field) = true := by
  simp only [MatchesSibling, isSibling_iff, Option.bind_eq_some_iff,
    sibling?_eq_some_iff_prepared]
  constructor
  · rintro ⟨other, hn, hm⟩
    exact ⟨_, ⟨other, hn, rfl, hm.right⟩, hm.symm.agrees⟩
  · rintro ⟨_, ⟨other, hn, rfl, hs⟩, ha⟩
    refine ⟨other, hn, ?_, hs, (Value.agrees_comm _ _).trans ha⟩
    -- A field that is null agrees with no sibling, since no sibling is null.
    intro h
    rw [h, Value.agrees_null_iff] at ha
    exact hs ha

/-- One rule fails fields that match, the other two fail fields that do not. -/
theorem fails_iff_of_isCrossField (hc : isCrossField name = true) :
    v.Fails env data field rule name params ↔
      (v.MatchesSibling data field name params ↔ name = "different") := by
  rw [← fails_iff, fails_of_isCrossField hc, siblingMatches_eq_false_iff]
  split
  · next hd =>
    rw [← matchesSibling_iff_exists_sibling]
    simp only [hd, iff_true]
  · next hd =>
    simp only [hd, iff_false, matchesSibling_iff_exists_sibling, not_exists, not_and,
      Bool.not_eq_true]

private theorem matchesSibling_same : v.MatchesSibling data field "same" [other] ↔
    v.Matches data field other := by
  simp [MatchesSibling, siblingName?]

private theorem matchesSibling_different : v.MatchesSibling data field "different" params ↔
    v.MatchesSibling data field "same" params := Iff.rfl

private theorem matchesSibling_confirmed : v.MatchesSibling data field "confirmed" params ↔
    v.Matches data field (confirmationField field) := by
  simp [MatchesSibling, siblingName?]

private theorem matchesSibling_of_siblingName? (h : siblingName? name field params = some other) :
    v.MatchesSibling data field name params ↔ v.Matches data field other := by
  simp [MatchesSibling, h]

private theorem matchesSibling_congr {w : Validator} (h : v.sanitizes = w.sanitizes) :
    v.MatchesSibling data field name params ↔ w.MatchesSibling data field name params := by
  simp only [matchesSibling_iff_exists_sibling, isSibling_iff, sibling?_congr h, prepared,
    prepare_congr h]

end Matches

section Verdict

def single (field name : String) (params : List String) : List Entry :=
  [(field, .spec (.ofList [(name, params)]))]

def Accepts (v : Validator) (env : Surroundings) (data : Data) (field name : String)
    (params : List String) : Prop :=
  ∃ report, (v.validate env data (single field name params)).value = .ok report ∧
    report.hasErrors = false

def Refuses (v : Validator) (env : Surroundings) (data : Data) (field name : String)
    (params : List String) : Prop :=
  ∃ report, (v.validate env data (single field name params)).value = .ok report ∧
    report.hasErrors = true

private theorem accepts_iff (hg : v.registry.get? name = some rule) :
    v.Accepts env data field name params ↔ ¬v.Fails env data field rule name params := by
  obtain ⟨report, hv, hr⟩ :=
    @validate_single v env data field name (.spec (.ofList [(name, params)])) params rule rfl hg
  simp only [Accepts, single, hv, Except.ok.injEq, exists_eq_left', hr]

private theorem refuses_iff (hg : v.registry.get? name = some rule) :
    v.Refuses env data field name params ↔ v.Fails env data field rule name params := by
  obtain ⟨report, hv, hr⟩ :=
    @validate_single v env data field name (.spec (.ofList [(name, params)])) params rule rfl hg
  simp only [Refuses, single, hv, Except.ok.injEq, exists_eq_left', ← Bool.not_eq_false, hr,
    not_not]

private theorem refuses_iff_of_isCrossField (hc : isCrossField name = true)
    (hg : v.registry.get? name = some rule) :
    v.Refuses env data field name params ↔
      (v.MatchesSibling data field name params ↔ name = "different") :=
  (refuses_iff hg).trans (fails_iff_of_isCrossField hc)

private theorem accepts_iff_of_isCrossField (hc : isCrossField name = true)
    (hg : v.registry.get? name = some rule) :
    v.Accepts env data field name params ↔
      (v.MatchesSibling data field name params ↔ name ≠ "different") := by
  rw [accepts_iff hg, fails_iff_of_isCrossField hc, not_iff]
  tauto

private theorem fails_of_mem_failureLog {entries : List Entry} {f : Failure}
    (h : f ∈ v.failureLog env data entries) : v.Fails env data f.field f.rule f.name f.params := by
  obtain ⟨entry, _, hf⟩ := List.mem_flatMap.1 h
  obtain ⟨listed, _, hf⟩ := List.mem_filterMap.1 hf
  obtain ⟨rule, _, hfails, rfl⟩ := failure?_eq_some_iff.1 hf
  exact hfails

private theorem mem_failureLog_iff {entries : List Entry} {rules : FieldRules}
    (he : (field, rules) ∈ entries) (hl : (name, params) ∈ rules.listed)
    (hg : v.registry.get? name = some rule) :
    ⟨field, rule, name, params⟩ ∈ v.failureLog env data entries ↔
      v.Fails env data field rule name params :=
  ⟨fails_of_mem_failureLog, fun hf =>
    List.mem_flatMap.2 ⟨(field, rules), he, mem_failures hl hg hf⟩⟩

private theorem message_mem_fieldErrors {entries : List Entry} {report : Report}
    (hv : (v.validate env data entries).value = .ok report)
    (hm : ⟨field, rule, name, params⟩ ∈ v.failureLog env data entries) :
    v.message field rule params ∈ report.fieldErrors field := by
  rw [fieldErrors_eq_map hv]
  exact List.mem_map.2 ⟨_, List.mem_filter.2 ⟨hm, beq_self_eq_true field⟩, rfl⟩

end Verdict

private theorem replacement?_other (hc : isCrossField name = true)
    (hn : siblingName? name field params = some other) :
    Template.replacement? (placeholders field name params) "other".toList = some other := by
  have hm := isCrossField_iff.1 hc
  simp only [List.mem_cons, List.not_mem_nil, or_false] at hm
  obtain rfl | hm := hm
  · cases hn
    rfl
  · have hne : name ≠ "confirmed" := by rcases hm with rfl | rfl <;> decide
    rw [siblingName?, if_neg hne] at hn
    obtain ⟨rest, rfl⟩ := List.head?_eq_some_iff.1 hn
    obtain rfl | rfl := hm <;> rfl

/-- Whatever rules have been registered, `different` accepts a field where `same` refuses it,
`confirmed` says what `same` says of the confirmation, and `same` says of two fields the same both
ways. Every run decides as the run of the one rule does, for which neither the tests that stand
under the three names nor the surroundings count. Where such a rule refuses a field, its message has
for `:other` the name of the field that it was compared with. -/
theorem cross_field_rules_mirror (v : Validator) (registered others : List Rule)
    (env env' : Surroundings) (data : Data) (field : String) (params : List String) :
    let w : Validator := { v with registry := .after .builtin registered }
    let u : Validator := { v with registry := .after .builtin others }
    (w.Accepts env data field "different" params ↔ w.Refuses env data field "same" params) ∧
    (w.Accepts env data field "confirmed" params ↔
      w.Accepts env data field "same" [confirmationField field]) ∧
    (∀ other, w.Accepts env data field "same" [other] ↔
      w.Accepts env data other "same" [field]) ∧
    ∀ name, isCrossField name = true →
      (w.Refuses env data field name params ↔ ¬w.Accepts env data field name params) ∧
      (w.Accepts env data field name params ↔ u.Accepts env' data field name params) ∧
      ∃ rule, w.registry.get? name = some rule ∧
        (∀ entries rules, (field, rules) ∈ entries → (name, params) ∈ rules.listed →
          (⟨field, rule, name, params⟩ ∈ w.failureLog env data entries ↔
            w.Refuses env data field name params)) ∧
        ∀ other, siblingName? name field params = some other →
          (w.Refuses env data field name params ↔
            (w.Matches data field other ↔ name = "different")) ∧
          Template.replacement? (placeholders field name params) "other".toList = some other ∧
          ∀ entries report, (w.validate env data entries).value = .ok report →
            ⟨field, rule, name, params⟩ ∈ w.failureLog env data entries →
            Template.interpolate (w.template field rule) (placeholders field name params) ∈
              report.fieldErrors field := by
  intro w u
  have hw : w.registry.IsStocked := ⟨registered, rfl⟩
  have hu : u.registry.IsStocked := ⟨others, rfl⟩
  obtain ⟨confirmed, hconfirmed, -⟩ := hw.exists_crossFieldRule "confirmed" rfl
  obtain ⟨same, hsame, -⟩ := hw.exists_crossFieldRule "same" rfl
  obtain ⟨different, hdifferent, -⟩ := hw.exists_crossFieldRule "different" rfl
  -- All three rules come down to one comparison, whatever tests are registered for them.
  refine ⟨?_, ?_, fun other => ?_, fun name hc => ?_⟩
  · rw [accepts_iff_of_isCrossField rfl hdifferent, refuses_iff_of_isCrossField rfl hsame,
      matchesSibling_different]
    simp
  · rw [accepts_iff_of_isCrossField rfl hconfirmed, accepts_iff_of_isCrossField rfl hsame,
      matchesSibling_confirmed, matchesSibling_same]
    simp
  · rw [accepts_iff_of_isCrossField rfl hsame, accepts_iff_of_isCrossField rfl hsame,
      matchesSibling_same, matchesSibling_same, matches_comm]
  · obtain ⟨rule, hg, hname⟩ := hw.exists_crossFieldRule name hc
    obtain ⟨replaced, hgu, -⟩ := hu.exists_crossFieldRule name hc
    refine ⟨?_, ?_, rule, hg, fun entries rules he hl => ?_, fun other hn => ⟨?_, ?_, ?_⟩⟩
    · rw [refuses_iff hg, accepts_iff hg, not_not]
    · rw [accepts_iff_of_isCrossField hc hg, accepts_iff_of_isCrossField hc hgu,
        @matchesSibling_congr w data field name params u rfl]
    · rw [mem_failureLog_iff he hl hg, refuses_iff hg]
    · rw [refuses_iff_of_isCrossField hc hg, matchesSibling_of_siblingName? hn]
    · exact replacement?_other hc hn
    · intro entries report hv hm
      have hmessage := message_mem_fieldErrors hv hm
      rw [message, hname] at hmessage
      exact hmessage

theorem mirrored_verdicts_of_padded_lists :
    let lax : Rule := ⟨"different", fun _ _ _ => true, ":field is :other."⟩
    let strict : Rule := ⟨"same", fun _ _ _ => false, ":field is not :other."⟩
    let v : Validator := { new with registry := .after .builtin [lax, strict] }
    let data : Data := .ofList
      [("a", .list [.text " x", .null]), ("b", .list [.text "x\n", .null])]
    let entries : List Entry := [("b", .text "filled"), ("a", .text "required|different:b|same:b")]
    isCrossField "different" = true ∧ siblingName? "different" "a" ["b"] = some "b" ∧
      v.Accepts .bare data "a" "same" ["b"] ∧ v.Accepts .bare data "b" "same" ["a"] ∧
      ¬v.Accepts .bare data "a" "different" ["b"] ∧
      ∃ report, (v.validate .bare data entries).value = .ok report ∧
        Template.interpolate (v.template "a" lax) (placeholders "a" "different" ["b"]) ∈
          report.fieldErrors "a" := by
  intro lax strict v data entries
  obtain ⟨-, -, hmirror, hrules⟩ :=
    cross_field_rules_mirror new [lax, strict] [] .bare .bare data "a" ["b"]
  have hsame : v.Accepts .bare data "a" "same" ["b"] :=
    ⟨_, validate_of_no_mistake (by rfl), by rfl⟩
  obtain ⟨hrefuses, -, rule, hg, hlog, hsibling⟩ := hrules "different" rfl
  obtain ⟨-, -, hmessage⟩ := hsibling "b" rfl
  have hrefused : v.Refuses .bare data "a" "different" ["b"] :=
    ⟨_, validate_of_no_mistake (by rfl), by rfl⟩
  cases (show v.registry.get? "different" = some lax by rfl).symm.trans hg
  have hm := (hlog entries _ (List.mem_cons_of_mem _ (List.mem_singleton_self _)) (by decide)).2
    hrefused
  have hv := @validate_of_no_mistake v .bare data entries (by rfl)
  exact ⟨rfl, rfl, hsame, (hmirror "b").1 hsame, hrefuses.1 hrefused, _, hv,
    hmessage entries _ hv hm⟩

end Validator

end FormCheck
