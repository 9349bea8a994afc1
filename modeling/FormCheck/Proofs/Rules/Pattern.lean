import FormCheck.Proofs.Rules.Written
import FormCheck.Rules.Builtin

/-!
Patterns in the text of a rule. Commas divide a pattern into parameters, which lose the blanks at
their ends, and the rule glues them together again. So the pattern that is tried is the written one
without the blanks beside its commas.
-/
namespace FormCheck

namespace Text

/-- No blank stands beside a comma. -/
def HasTightCommas (s : List Char) : Prop :=
  ∀ before after, s = before ++ ',' :: after →
    before.getLast?.any isBlank = false ∧ after.head?.any isBlank = false

variable {s rest : List Char}

private theorem HasTightCommas.of_append_cons (h : HasTightCommas (s ++ ',' :: rest)) :
    HasTightCommas rest := by
  rintro before after rfl
  have hc := h (s ++ ',' :: before) after (by simp)
  rw [any_getLast?_append_cons (by decide)] at hc
  exact hc

private theorem isTrimmed_of_mem_of_joinWith {pieces : List (List Char)}
    (ht : IsTrimmed (joinWith [','] pieces)) (hc : HasTightCommas (joinWith [','] pieces)) :
    ∀ piece ∈ pieces, IsTrimmed piece := by
  induction pieces with
  | nil => exact nofun
  | cons p ps ih =>
    cases ps with
    | nil => exact List.forall_mem_singleton.2 ht
    | cons q qs =>
      rw [joinWith_cons_cons, List.singleton_append] at ht hc
      obtain ⟨hfirst, hlast⟩ := (isTrimmed_append_cons_iff (by decide)).1 ht
      obtain ⟨hbefore, hafter⟩ := hc p _ rfl
      exact List.forall_mem_cons.2 ⟨⟨hfirst, hbefore⟩, ih ⟨hafter, hlast⟩ hc.of_append_cons⟩

private theorem isTrimmed_of_splitOn (h : ∀ piece ∈ splitOn ',' s, IsTrimmed piece) :
    IsTrimmed s := by
  rw [← joinWith_splitOn ',' s]
  exact isTrimmed_joinWith (by decide) h

private theorem hasTightCommas_iff (ht : IsTrimmed s) :
    HasTightCommas s ↔ ∀ piece ∈ splitOn ',' s, IsTrimmed piece := by
  constructor
  · intro hc
    rw [← joinWith_splitOn ',' s] at ht hc
    exact isTrimmed_of_mem_of_joinWith ht hc
  · rintro h before after rfl
    rw [splitOn_append_cons, List.forall_mem_append] at h
    exact ⟨(isTrimmed_of_splitOn h.1).2, (isTrimmed_of_splitOn h.2).1⟩

end Text

namespace RuleSpec

open Text

private theorem toList_join_comma (parts : List String) :
    (Text.join "," parts).toList = joinWith [','] (parts.map String.toList) :=
  String.toList_ofList

private theorem readSegment?_pattern (p : List Char) :
    readSegment? ("pattern".toList ++ ':' :: p) = some ("pattern", readParams p) :=
  readSegment?_of_splitFirst? (splitFirst?_eq_some_iff.2 ⟨rfl, by decide⟩)

private theorem toList_readParams {args : List Char} (hn : args ≠ []) (ht : IsTrimmed args) :
    (readParams args).map String.toList = (splitOn ',' args).map (strip isBlank) := by
  rw [readParams_eq, strip_of_isTrimmed ht, if_neg hn, List.map_map]
  apply List.map_congr_left
  intro piece _
  exact String.toList_ofList

private theorem join_readParams_iff {args : String} (hn : args ≠ "") (ht : IsTrimmed args.toList) :
    Text.join "," (readParams args.toList) = args ↔ HasTightCommas args.toList := by
  have hplain : ∀ piece ∈ (splitOn ',' args.toList).map (strip isBlank), ',' ∉ piece := by
    rw [List.forall_mem_map]
    exact fun piece hp hm => not_mem_of_mem_splitOn hp (mem_of_mem_strip hm)
  rw [hasTightCommas_iff ht, ← map_strip_eq_self_iff, ← String.toList_inj, toList_join_comma,
    toList_readParams (by simpa using hn) ht]
  constructor
  · intro h
    rw [← splitOn_joinWith (by simpa using splitOn_ne_nil ',' args.toList) hplain, h]
  · intro h
    rw [h]
    exact joinWith_splitOn ',' args.toList

private theorem builtin_pattern :
    Registry.builtin.get? "pattern" = some ⟨"pattern", .ofParams Checks.pattern,
      "The :field field does not match the required format."⟩ := rfl

private theorem test_pattern_join {params : List String} (hn : params ≠ []) (env : Surroundings)
    (v : Value) : Test.ofParams Checks.pattern env v [Text.join "," params] =
      Test.ofParams Checks.pattern env v params := by
  have hj : Text.join "," [Text.join "," params] = Text.join "," params := String.ofList_toList
  have hp : params.isEmpty = false := by simpa using hn
  simp only [Test.ofParams, Checks.pattern, hj, hp, List.isEmpty_cons]

/-- A pattern behind `pattern:` becomes the pieces between its commas without the blanks at their
ends. The rule tries the pieces glued together, and that is the pattern as it was written exactly if
no blank stands beside a comma. -/
theorem pattern_of_rule_text (p : String) (hp : p ≠ "") (hbar : '|' ∉ p.toList)
    (ht : IsTrimmed p.toList) :
    ∃ params, parse ("pattern:" ++ p) = .ok (.ofList [("pattern", params)]) ∧
      params.map String.toList = (splitOn ',' p.toList).map (strip isBlank) ∧
      (Text.join "," params = p ↔ HasTightCommas p.toList) ∧
      ∃ rule, Registry.builtin.get? "pattern" = some rule ∧
        ∀ env input, rule.test env (.text input) params =
          rule.test env (.text input) [Text.join "," params] := by
  have htext : ("pattern:" ++ p).toList = "pattern".toList ++ ':' :: p.toList := by
    rw [String.toList_append]
    rfl
  have hread : parse ("pattern:" ++ p) = .ok (.ofList [("pattern", readParams p.toList)]) := by
    apply parse_of_readSegment?
    · rw [htext]
      simpa using hbar
    · rw [htext]
      exact readSegment?_pattern p.toList
  have hparams := toList_readParams (by simpa using hp) ht
  have hne : readParams p.toList ≠ [] := by
    rw [ne_eq, ← List.map_eq_nil_iff, hparams, List.map_eq_nil_iff]
    exact splitOn_ne_nil ',' p.toList
  refine ⟨_, hread, hparams, join_readParams_iff hp ht, _, builtin_pattern, fun env input => ?_⟩
  dsimp only
  rw [test_pattern_join hne]

theorem pattern_of_quantifier :
    let p := "^a b\x7b1,3\x7d:,"
    (p ≠ "" ∧ '|' ∉ p.toList ∧ IsTrimmed p.toList) ∧
      ∃ params, parse ("pattern:" ++ p) = .ok (.ofList [("pattern", params)]) ∧
        params.map String.toList = ["^a b\x7b1".toList, "3\x7d:".toList, []] ∧
        Text.join "," params = p ∧
        ∃ rule, Registry.builtin.get? "pattern" = some rule ∧
          ∀ env input, rule.test env (.text input) params = rule.test env (.text input) [p] := by
  intro p
  have hp : p ≠ "" ∧ '|' ∉ p.toList ∧ IsTrimmed p.toList := by decide
  obtain ⟨params, hread, hparams, hjoin, rule, hrule, htest⟩ :=
    pattern_of_rule_text p hp.1 hp.2.1 hp.2.2
  have hpieces : (splitOn ',' p.toList).map (strip isBlank) =
      ["^a b\x7b1".toList, "3\x7d:".toList, []] := by decide
  have htight : HasTightCommas p.toList := (hasTightCommas_iff hp.2.2).2 (by decide)
  have hsame := hjoin.2 htight
  rw [hsame] at htest
  exact ⟨hp, params, hread, hparams.trans hpieces, hsame, rule, hrule, htest⟩

/-- The blank behind the comma belongs to the pattern that was written, and the one that is tried
lacks it. -/
theorem blank_beside_comma_is_lost :
    let p := "^a, b$"
    (p ≠ "" ∧ '|' ∉ p.toList ∧ IsTrimmed p.toList) ∧
      ∃ params, parse ("pattern:" ++ p) = .ok (.ofList [("pattern", params)]) ∧
        Text.join "," params ≠ p ∧
        ∃ rule, Registry.builtin.get? "pattern" = some rule ∧
          ∀ env, rule.test env (.text "a, b") params = false ∧
            rule.test env (.text "a, b") [p] = true := by
  refine ⟨by decide, ["^a", "b$"], by rfl, by decide, _, builtin_pattern, fun env => ?_⟩
  dsimp only [Test.ofParams]
  decide

end RuleSpec

end FormCheck
