import FormCheck.Proofs.OrderedMap
import FormCheck.Proofs.Text.Blank
import FormCheck.Proofs.Text.Split
import FormCheck.Rules.Spec

/-!
Rules written as text and read back. What is read is always writable, writable rules come back as
they were and in their order, and no others do.
-/
namespace FormCheck

namespace Text

theorem isTrimmed_joinWith {sep : Char} {pieces : List (List Char)} (hs : isBlank sep = false)
    (h : ∀ piece ∈ pieces, IsTrimmed piece) : IsTrimmed (joinWith [sep] pieces) := by
  induction pieces with
  | nil => exact ⟨rfl, rfl⟩
  | cons p ps ih =>
    obtain ⟨hp, hps⟩ := List.forall_mem_cons.1 h
    cases ps with
    | nil => exact hp
    | cons q qs =>
      rw [joinWith_cons_cons, List.singleton_append, isTrimmed_append_cons_iff hs]
      exact ⟨hp.1, (ih hps).2⟩

private theorem joinWith_eq_nil_iff {sep : Char} {pieces : List (List Char)} :
    joinWith [sep] pieces = [] ↔ pieces = [] ∨ pieces = [[]] := by
  cases pieces with
  | nil => simp [joinWith]
  | cons p ps =>
    cases ps with
    | nil => simp [joinWith]
    | cons q qs => simp [joinWith_cons_cons]

end Text

namespace RuleSpec

open Text

/-- A rule whose text can be read back: no part has blanks at its ends or holds a separator that
stands behind it, and a parameter that is empty is not the only one. -/
structure IsWritableRule (rule : String × List String) : Prop where
  name_ne_empty : rule.1 ≠ ""
  name_trimmed : IsTrimmed rule.1.toList
  name_plain : ':' ∉ rule.1.toList ∧ '|' ∉ rule.1.toList
  params_trimmed : ∀ param ∈ rule.2, IsTrimmed param.toList
  params_plain : ∀ param ∈ rule.2, ',' ∉ param.toList ∧ '|' ∉ param.toList
  params_ne_blank : rule.2 ≠ [""]

instance (rule : String × List String) : Decidable (IsWritableRule rule) :=
  decidable_of_iff
    (rule.1 ≠ "" ∧ IsTrimmed rule.1.toList ∧ (':' ∉ rule.1.toList ∧ '|' ∉ rule.1.toList) ∧
      (∀ param ∈ rule.2, IsTrimmed param.toList) ∧
      (∀ param ∈ rule.2, ',' ∉ param.toList ∧ '|' ∉ param.toList) ∧ rule.2 ≠ [""])
    ⟨fun ⟨h₁, h₂, h₃, h₄, h₅, h₆⟩ => ⟨h₁, h₂, h₃, h₄, h₅, h₆⟩,
      fun ⟨h₁, h₂, h₃, h₄, h₅, h₆⟩ => ⟨h₁, h₂, h₃, h₄, h₅, h₆⟩⟩

def IsWritable (spec : RuleSpec) : Prop := ∀ rule ∈ spec.toList, IsWritableRule rule

instance (spec : RuleSpec) : Decidable spec.IsWritable :=
  inferInstanceAs (Decidable (∀ rule ∈ spec.toList, IsWritableRule rule))

variable {rule : String × List String} {spec read : RuleSpec} {text : String}

theorem readParams_eq (args : List Char) :
    readParams args = if strip isBlank args = [] then []
      else (splitOn ',' (strip isBlank args)).map fun arg => String.ofList (strip isBlank arg) := by
  simp only [readParams, List.isEmpty_iff]

private theorem readParams_joinWith {params : List String} (hn : params ≠ []) (hb : params ≠ [""])
    (ht : ∀ param ∈ params, IsTrimmed param.toList) (hc : ∀ param ∈ params, ',' ∉ param.toList) :
    readParams (joinWith [','] (params.map String.toList)) = params := by
  have htrimmed : IsTrimmed (joinWith [','] (params.map String.toList)) :=
    isTrimmed_joinWith (by decide) (by simpa using ht)
  have hne : joinWith [','] (params.map String.toList) ≠ [] := by
    rw [ne_eq, joinWith_eq_nil_iff]
    simp_all [List.map_eq_singleton_iff]
  have hsplit : splitOn ',' (joinWith [','] (params.map String.toList)) =
      params.map String.toList :=
    splitOn_joinWith (by simpa using hn) (by simpa using hc)
  have hread : ∀ param ∈ params, String.ofList (strip isBlank param.toList) = param := by
    intro param hp
    rw [strip_of_isTrimmed (ht param hp), String.ofList_toList]
  rw [readParams_eq, strip_of_isTrimmed htrimmed, if_neg hne, hsplit, List.map_map]
  exact (List.map_congr_left hread).trans (List.map_id' params)

theorem readSegment?_of_splitFirst? {segment name args : List Char}
    (h : splitFirst? ':' segment = some (name, args)) :
    readSegment? segment = if (strip isBlank name).isEmpty then none
      else some (String.ofList (strip isBlank name), readParams args) := by
  rw [readSegment?, h]

theorem readSegment?_of_not_mem {segment : List Char} (h : ':' ∉ segment) :
    readSegment? segment = if (strip isBlank segment).isEmpty then none
      else some (String.ofList (strip isBlank segment), []) := by
  rw [readSegment?, splitFirst?_eq_none_iff.2 h]

theorem isBlankSegment_of_readSegment? {segment : List Char}
    (h : readSegment? segment = some rule) : isBlankSegment segment = false := by
  rw [← Bool.not_eq_true]
  intro hb
  have hs := List.isEmpty_iff.1 hb
  have hcolon : ':' ∉ segment := fun hm => absurd (strip_eq_nil_iff.1 hs _ hm) (by decide)
  rw [readSegment?_of_not_mem hcolon, hs] at h
  cases h

theorem readSegments_cons {segment : List Char} (h : readSegment? segment = some rule)
    (segments : List (List Char)) : readSegments text spec (segment :: segments) =
      readSegments text (spec.insert rule.1 rule.2) segments := by
  rw [readSegments, isBlankSegment_of_readSegment? h, h]
  rfl

theorem parse_of_readSegment? {text name : String} {params : List String}
    (hbar : '|' ∉ text.toList) (h : readSegment? text.toList = some (name, params)) :
    parse text = .ok (.ofList [(name, params)]) := by
  rw [parse, splitOn_of_not_mem hbar, readSegments_cons h]
  rfl

private theorem renderRule_of_ne_nil (h : rule.2 ≠ []) :
    renderRule rule = rule.1.toList ++ ':' :: joinWith [','] (rule.2.map String.toList) := by
  rw [renderRule, if_neg (by simpa using h)]

private theorem renderRule_of_eq_nil (h : rule.2 = []) : renderRule rule = rule.1.toList := by
  rw [renderRule, if_pos (by simpa using h), List.append_nil]

namespace IsWritableRule

variable (h : IsWritableRule rule)
include h

private theorem strip_name : strip isBlank rule.1.toList = rule.1.toList :=
  strip_of_isTrimmed h.name_trimmed

private theorem name_toList_ne_nil : rule.1.toList ≠ [] := by
  rw [ne_eq, String.toList_eq_nil_iff]
  exact h.name_ne_empty

theorem readSegment?_renderRule : readSegment? (renderRule rule) = some rule := by
  have hname : (strip isBlank rule.1.toList).isEmpty = false := by
    rw [h.strip_name, List.isEmpty_eq_false_iff]
    exact h.name_toList_ne_nil
  by_cases hn : rule.2 = []
  · rw [renderRule_of_eq_nil hn, readSegment?_of_not_mem h.name_plain.1, hname, h.strip_name,
      String.ofList_toList, ← hn]
    rfl
  · rw [renderRule_of_ne_nil hn,
      readSegment?_of_splitFirst? (splitFirst?_eq_some_iff.2 ⟨rfl, h.name_plain.1⟩), hname,
      h.strip_name, String.ofList_toList,
      readParams_joinWith hn h.params_ne_blank h.params_trimmed fun p hp => (h.params_plain p hp).1]
    rfl

private theorem bar_not_mem_renderRule : '|' ∉ renderRule rule := by
  intro hm
  rcases List.mem_append.1 hm with hn | hp
  · exact h.name_plain.2 hn
  · split at hp
    · cases hp
    · rcases List.mem_cons.1 hp with hc | hj
      · cases hc
      · rcases mem_joinWith hj with hs | ⟨piece, hm, hc⟩
        · exact absurd hs (by decide)
        · obtain ⟨param, hparam, rfl⟩ := List.mem_map.1 hm
          exact (h.params_plain param hparam).2 hc

end IsWritableRule

private theorem readSegments_map_renderRule {rules : List (String × List String)}
    (h : ∀ rule ∈ rules, IsWritableRule rule) :
    readSegments text spec (rules.map renderRule) = .ok ⟨spec.rules.insertAll rules⟩ := by
  induction rules generalizing spec with
  | nil => rfl
  | cons rule rules ih =>
    obtain ⟨hrule, hrules⟩ := List.forall_mem_cons.1 h
    rw [List.map_cons, readSegments_cons hrule.readSegment?_renderRule]
    exact ih hrules

theorem ofList_toList (spec : RuleSpec) : ofList spec.toList = spec := by
  rw [ofList, toList, OrderedMap.ofList_entries]

theorem parse_render (h : spec.IsWritable) : parse spec.render = .ok spec := by
  have hread : ∀ text, readSegments text empty (spec.toList.map renderRule) = .ok spec := by
    intro text
    rw [readSegments_map_renderRule h]
    exact congrArg Except.ok spec.ofList_toList
  rw [parse, render, String.toList_ofList]
  by_cases hn : spec.toList = []
  · -- The text of no rules is empty, and so is its only segment.
    have he := hread ""
    rw [hn] at he ⊢
    exact he
  · have hbar : ∀ segment ∈ spec.toList.map renderRule, '|' ∉ segment := by
      simp only [List.mem_map]
      rintro _ ⟨rule, hr, rfl⟩
      exact (h rule hr).bar_not_mem_renderRule
    rw [splitOn_joinWith (by simpa using hn) hbar, hread]

private theorem mem_readParams {args : List Char} {param : String} (h : param ∈ readParams args) :
    ∃ piece ∈ splitOn ',' (strip isBlank args), param.toList = strip isBlank piece := by
  rw [readParams_eq] at h
  split at h
  · cases h
  · obtain ⟨piece, hp, rfl⟩ := List.mem_map.1 h
    exact ⟨piece, hp, String.toList_ofList⟩

private theorem readParams_ne_blank (args : List Char) : readParams args ≠ [""] := by
  intro h
  rw [readParams_eq] at h
  split at h
  · cases h
  · next hn =>
    obtain ⟨piece, hs, hp⟩ := List.map_eq_singleton_iff.1 h
    have hargs : strip isBlank args = piece := by
      rw [← joinWith_splitOn ',' (strip isBlank args), hs]
      rfl
    rw [← hargs, strip_of_isTrimmed (isTrimmed_strip args)] at hp
    rw [← String.toList_eq_nil_iff, String.toList_ofList] at hp
    exact hn hp

private theorem isWritableRule_read {name args : List Char} (hne : strip isBlank name ≠ [])
    (hcolon : ':' ∉ name) (hname : '|' ∉ name) (hargs : '|' ∉ args) :
    IsWritableRule (String.ofList (strip isBlank name), readParams args) where
  name_ne_empty := by
    rw [ne_eq, ← String.toList_eq_nil_iff, String.toList_ofList]
    exact hne
  name_trimmed := by
    rw [String.toList_ofList]
    exact isTrimmed_strip name
  name_plain := by
    rw [String.toList_ofList]
    exact ⟨fun hm => hcolon (mem_of_mem_strip hm), fun hm => hname (mem_of_mem_strip hm)⟩
  params_trimmed := by
    intro param hp
    obtain ⟨piece, _, hs⟩ := mem_readParams hp
    rw [hs]
    exact isTrimmed_strip piece
  params_plain := by
    intro param hp
    obtain ⟨piece, hm, hs⟩ := mem_readParams hp
    rw [hs]
    refine ⟨fun hc => not_mem_of_mem_splitOn hm (mem_of_mem_strip hc), fun hc => hargs ?_⟩
    exact mem_of_mem_strip (mem_of_mem_splitOn hm (mem_of_mem_strip hc))
  params_ne_blank := readParams_ne_blank args

private theorem isWritableRule_of_readSegment? {segment : List Char}
    (h : readSegment? segment = some rule) (hbar : '|' ∉ segment) : IsWritableRule rule := by
  cases hs : splitFirst? ':' segment with
  | none =>
    have hcolon := splitFirst?_eq_none_iff.1 hs
    rw [readSegment?_of_not_mem hcolon] at h
    split at h
    · cases h
    · next hne =>
      cases h
      exact @isWritableRule_read segment [] (by simpa using hne) hcolon hbar List.not_mem_nil
  | some parts =>
    obtain ⟨name, args⟩ := parts
    obtain ⟨hsegment, hcolon⟩ := splitFirst?_eq_some_iff.1 hs
    rw [hsegment, List.mem_append, List.mem_cons, not_or, not_or] at hbar
    rw [readSegment?_of_splitFirst? hs] at h
    split at h
    · cases h
    · next hne =>
      cases h
      exact isWritableRule_read (by simpa using hne) hcolon hbar.1 hbar.2.2

theorem IsWritable.insert (hspec : spec.IsWritable) (hrule : IsWritableRule rule) :
    (spec.insert rule.1 rule.2).IsWritable := by
  intro r hr
  rcases Assoc.mem_put hr with rfl | hm
  · exact hrule
  · exact hspec r hm

private theorem isWritable_of_readSegments {segments : List (List Char)}
    (hbar : ∀ segment ∈ segments, '|' ∉ segment) (hspec : spec.IsWritable)
    (h : readSegments text spec segments = .ok read) : read.IsWritable := by
  induction segments generalizing spec with
  | nil =>
    cases h
    exact hspec
  | cons segment segments ih =>
    obtain ⟨hsegment, hsegments⟩ := List.forall_mem_cons.1 hbar
    unfold readSegments at h
    split at h
    · exact ih hsegments hspec h
    · split at h
      · cases h
      · next name params hr =>
        exact ih hsegments (hspec.insert (isWritableRule_of_readSegment? hr hsegment)) h

private theorem isWritable_of_parse (h : parse text = .ok read) : read.IsWritable :=
  isWritable_of_readSegments (fun _ => not_mem_of_mem_splitOn) (fun _ hm => by cases hm) h

/-- Rules are read back from their text, as a map and in their order, exactly if they are writable,
and rules that were read from a text are. -/
theorem parse_render_iff_writable (spec : RuleSpec) :
    ((∃ read, parse spec.render = .ok read ∧ read.agrees spec = true) ↔ spec.IsWritable) ∧
    (parse spec.render = .ok spec ↔ spec.IsWritable) ∧
    ∀ text read, parse text = .ok read →
      read.IsWritable ∧ parse read.render = parse text := by
  refine ⟨⟨?_, ?_⟩, ⟨isWritable_of_parse, parse_render⟩, ?_⟩
  · rintro ⟨read, hr, ha⟩ rule hm
    exact isWritable_of_parse hr rule ((OrderedMap.agrees_iff_perm.1 ha).mem_iff.2 hm)
  · intro h
    exact ⟨spec, parse_render h, OrderedMap.agrees_iff_perm.2 (List.Perm.refl _)⟩
  · intro text read h
    have hw := isWritable_of_parse h
    rw [parse_render hw, h]
    exact ⟨hw, rfl⟩

/-- Empty parameters at the ends of a list come back, an empty one by itself does not. -/
theorem parse_render_of_empty_parameters :
    let read : RuleSpec := .ofList [("min", ["5"]), ("in", ["", "a : b", ""]), ("required", [])]
    let blank : RuleSpec := .ofList [("in", [""])]
    parse "min:3|| in : ,a : b, |required|min:5" = .ok read ∧
      read.render = "min:5|in:,a : b,|required" ∧
      (read.IsWritable ∧
        parse read.render = parse "min:3|| in : ,a : b, |required|min:5") ∧
      ¬∃ again, parse blank.render = .ok again ∧ again.agrees blank = true := by
  intro read blank
  have hparse : parse "min:3|| in : ,a : b, |required|min:5" = .ok read := by rfl
  have hread := (parse_render_iff_writable read).2.2 _ read hparse
  refine ⟨hparse, rfl, hread, fun hblank => ?_⟩
  exact absurd ((parse_render_iff_writable blank).1.1 hblank) (by decide)

end RuleSpec

end FormCheck
