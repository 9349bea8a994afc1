import FormCheck.Proofs.Rules.Written

/-!
Rule texts put together. The segments of two texts are read one after the other, so the second text
is laid over the first, and reading fails only at a segment without a name. Blank segments and the
blanks around names and arguments are not seen.
-/
namespace FormCheck

namespace Text

variable {p : Char → Bool} {sep : Char} {s : List Char}

private theorem map_strip_splitOn_rdropWhile (h : p sep = false) {pieces : List (List Char)}
    (hn : pieces ≠ []) (hp : ∀ piece ∈ pieces, sep ∉ piece) :
    (splitOn sep ((joinWith [sep] pieces).rdropWhile p)).map (strip p) = pieces.map (strip p) := by
  induction pieces with
  | nil => exact absurd rfl hn
  | cons q qs ih =>
    obtain ⟨hq, hqs⟩ := List.forall_mem_cons.1 hp
    cases qs with
    | nil =>
      have hd : sep ∉ q.rdropWhile p := fun hm => hq ((List.rdropWhile_prefix p q).mem hm)
      have hj : joinWith [sep] [q] = q := rfl
      rw [hj, splitOn_of_not_mem hd, List.map_singleton, List.map_singleton, strip_rdropWhile]
    | cons r rs =>
      rw [joinWith_cons_cons, List.singleton_append, rdropWhile_append_cons h,
        splitOn_append_cons, splitOn_of_not_mem hq, List.map_append, ih (by simp) hqs]
      rfl

private theorem map_strip_splitOn_strip (h : p sep = false) (s : List Char) :
    (splitOn sep (strip p s)).map (strip p) = (splitOn sep s).map (strip p) := by
  have hback : ∀ s, (splitOn sep (s.rdropWhile p)).map (strip p) =
      (splitOn sep s).map (strip p) := by
    intro s
    have hj := map_strip_splitOn_rdropWhile h (splitOn_ne_nil sep s) fun _ => not_mem_of_mem_splitOn
    rwa [joinWith_splitOn] at hj
  have hs : strip p s = (s.dropWhile p).rdropWhile p := rfl
  rw [hs, hback]
  cases hf : splitFirst? sep s with
  | none =>
    have hm := splitFirst?_eq_none_iff.1 hf
    have hd : sep ∉ s.dropWhile p := fun hd => hm ((List.dropWhile_sublist p).mem hd)
    rw [splitOn_of_not_mem hm, splitOn_of_not_mem hd, List.map_singleton, List.map_singleton,
      strip_dropWhile]
  | some parts =>
    obtain ⟨first, rest⟩ := parts
    obtain ⟨rfl, hm⟩ := splitFirst?_eq_some_iff.1 hf
    have hd : sep ∉ first.dropWhile p := fun hd => hm ((List.dropWhile_sublist p).mem hd)
    rw [dropWhile_append_cons h, splitOn_append_cons, splitOn_append_cons, List.map_append,
      List.map_append, splitOn_of_not_mem hm, splitOn_of_not_mem hd, List.map_singleton,
      List.map_singleton, strip_dropWhile]

private theorem map_strip_splitOn_eq_iff (h : p sep = false) :
    (splitOn sep s).map (strip p) = [[]] ↔ strip p s = [] := by
  constructor
  · intro hp
    obtain ⟨piece, hs, hb⟩ := List.map_eq_singleton_iff.1 hp
    have hj : s = piece := by
      rw [← joinWith_splitOn sep s, hs]
      rfl
    rw [hj]
    exact hb
  · intro hb
    have hm : sep ∉ s := by
      intro hm
      have hsep := strip_eq_nil_iff.1 hb sep hm
      rw [h] at hsep
      cases hsep
    rw [splitOn_of_not_mem hm, List.map_singleton, hb]

end Text

namespace RuleSpec

open Text

variable {text other : String} {spec read : RuleSpec} {segment name args : List Char}
  {segments : List (List Char)}

def IsNameless (segment : List Char) : Prop := (strip isBlank segment).head? = some ':'

private theorem isBlankSegment_iff :
    isBlankSegment segment = true ↔ ∀ c ∈ segment, isBlank c = true := by
  rw [isBlankSegment, List.isEmpty_iff, strip_eq_nil_iff]

private theorem isBlankSegment_call (name args : List Char) :
    isBlankSegment (name ++ ':' :: args) = false := by
  rw [← Bool.not_eq_true, isBlankSegment_iff]
  exact fun h => absurd (h ':' (by simp)) (by decide)

private theorem readSegment?_call (h : ':' ∉ name) (args : List Char) :
    readSegment? (name ++ ':' :: args) = if (strip isBlank name).isEmpty then none
      else some (String.ofList (strip isBlank name), readParams args) :=
  readSegment?_of_splitFirst? (splitFirst?_eq_some_iff.2 ⟨rfl, h⟩)

private theorem isNameless_call_iff (h : ':' ∉ name) :
    IsNameless (name ++ ':' :: args) ↔ strip isBlank name = [] := by
  rw [IsNameless, strip_append_cons (by decide), strip_eq_nil_iff, ← List.dropWhile_eq_nil_iff]
  cases hd : name.dropWhile isBlank with
  | nil => simp
  | cons c cs =>
    have hc : c ∈ name := (List.dropWhile_sublist isBlank).mem (hd ▸ List.mem_cons_self)
    have hne : c ≠ ':' := by
      rintro rfl
      exact h hc
    simp [hne]

private theorem not_isNameless_of_not_mem (h : ':' ∉ segment) : ¬IsNameless segment :=
  fun hh => h (mem_of_mem_strip (List.mem_of_head? hh))

private theorem segment_cases (segment : List Char) :
    (isBlankSegment segment = true ∧ ¬IsNameless segment) ∨
    (isBlankSegment segment = false ∧ readSegment? segment = none ∧ IsNameless segment) ∨
    ∃ rule, readSegment? segment = some rule ∧ ¬IsNameless segment := by
  cases hs : splitFirst? ':' segment with
  | none =>
    have hm := splitFirst?_eq_none_iff.1 hs
    have hn := not_isNameless_of_not_mem hm
    cases hb : isBlankSegment segment with
    | true => exact .inl ⟨rfl, hn⟩
    | false =>
      have hne : (strip isBlank segment).isEmpty = false := hb
      refine .inr (.inr ⟨(String.ofList (strip isBlank segment), []), ?_, hn⟩)
      rw [readSegment?_of_not_mem hm, hne]
      rfl
  | some parts =>
    obtain ⟨name, args⟩ := parts
    obtain ⟨rfl, hm⟩ := splitFirst?_eq_some_iff.1 hs
    rw [readSegment?_call hm, isNameless_call_iff hm, isBlankSegment_call]
    by_cases hn : strip isBlank name = []
    · exact .inr (.inl ⟨rfl, if_pos (by rw [hn]; rfl), hn⟩)
    · exact .inr (.inr ⟨_, if_neg (by simpa using hn), hn⟩)

private theorem readSegments_cons_of_blank (h : isBlankSegment segment = true)
    (segments : List (List Char)) :
    readSegments text spec (segment :: segments) = readSegments text spec segments := by
  rw [readSegments, if_pos h]

private theorem readSegments_cons_of_nameless (h : isBlankSegment segment = false)
    (hr : readSegment? segment = none) (segments : List (List Char)) :
    readSegments text spec (segment :: segments) =
      .error (.namelessSegment text (String.ofList segment)) := by
  rw [readSegments, h, hr]
  rfl

private theorem readSegments_eq_error_iff :
    (∃ m, readSegments text spec segments = .error m) ↔
      ∃ segment ∈ segments, IsNameless segment := by
  induction segments generalizing spec with
  | nil => simp [readSegments]
  | cons segment segments ih =>
    rw [List.exists_mem_cons_iff]
    obtain ⟨hb, hn⟩ | ⟨hb, hr, hn⟩ | ⟨rule, hr, hn⟩ := segment_cases segment
    · rw [readSegments_cons_of_blank hb, ih, or_iff_right hn]
    · rw [readSegments_cons_of_nameless hb hr]
      exact iff_of_true ⟨_, rfl⟩ (.inl hn)
    · rw [readSegments_cons hr, ih, or_iff_right hn]

private theorem readSegments_append (segments more : List (List Char)) :
    readSegments text spec (segments ++ more) =
      (readSegments text spec segments).bind fun read => readSegments text read more := by
  induction segments generalizing spec with
  | nil => rfl
  | cons segment segments ih =>
    rw [List.cons_append]
    obtain ⟨hb, -⟩ | ⟨hb, hr, -⟩ | ⟨rule, hr, -⟩ := segment_cases segment
    · rw [readSegments_cons_of_blank hb, readSegments_cons_of_blank hb, ih]
    · rw [readSegments_cons_of_nameless hb hr, readSegments_cons_of_nameless hb hr]
      rfl
    · rw [readSegments_cons hr, readSegments_cons hr, ih]

def overlay (first second : RuleSpec) : RuleSpec := ⟨first.rules.overlay second.rules⟩

theorem overlay_empty (spec : RuleSpec) : spec.overlay empty = spec := rfl

theorem empty_overlay (spec : RuleSpec) : empty.overlay spec = spec :=
  congrArg RuleSpec.mk spec.rules.empty_overlay

theorem insert_overlay (first second : RuleSpec) (name : String) (params : List String) :
    (first.overlay second).insert name params = first.overlay (second.insert name params) :=
  congrArg RuleSpec.mk (first.rules.insert_overlay second.rules name params)

private theorem toList_overlay (first second : RuleSpec) :
    (first.overlay second).toList =
      first.toList.map (fun rule => (rule.1, (second.get? rule.1).getD rule.2)) ++
        second.toList.filter fun rule => !first.contains rule.1 :=
  first.rules.entries_overlay second.rules

/-- Rules that were there before stay below those that are read, and the whole text is there for
the mistakes alone. -/
private theorem readSegments_overlay (h : readSegments text spec segments = .ok read)
    (other : String) (base : RuleSpec) :
    readSegments other (base.overlay spec) segments = .ok (base.overlay read) := by
  induction segments generalizing spec with
  | nil =>
    cases h
    rfl
  | cons segment segments ih =>
    obtain ⟨hb, -⟩ | ⟨hb, hr, -⟩ | ⟨rule, hr, -⟩ := segment_cases segment
    · rw [readSegments_cons_of_blank hb] at h ⊢
      exact ih h
    · rw [readSegments_cons_of_nameless hb hr] at h
      cases h
    · rw [readSegments_cons hr] at h ⊢
      rw [insert_overlay]
      exact ih h

private theorem splitOn_bar (a b : String) :
    splitOn '|' (a ++ "|" ++ b).toList = splitOn '|' a.toList ++ splitOn '|' b.toList := by
  have hbar : "|".toList = ['|'] := rfl
  rw [String.toList_append, String.toList_append, hbar, List.append_assoc,
    List.singleton_append, splitOn_append_cons]

theorem parse_append {a b : String} {first second : RuleSpec} (ha : parse a = .ok first)
    (hb : parse b = .ok second) : parse (a ++ "|" ++ b) = .ok (first.overlay second) := by
  have hfirst := readSegments_overlay ha (a ++ "|" ++ b) empty
  have hsecond := readSegments_overlay hb (a ++ "|" ++ b) first
  rw [empty_overlay, empty_overlay] at hfirst
  rw [overlay_empty] at hsecond
  rw [parse, splitOn_bar, readSegments_append, hfirst]
  exact hsecond

theorem parse_eq_error_iff :
    (∃ m, parse text = .error m) ↔ ∃ segment ∈ splitOn '|' text.toList, IsNameless segment :=
  readSegments_eq_error_iff

/-- The arguments of a segment as they are written, without the blanks around each. -/
def writtenArgs (args : List Char) : List (List Char) := (splitOn ',' args).map (strip isBlank)

private theorem readParams_eq_writtenArgs (args : List Char) :
    readParams args =
      if writtenArgs args = [[]] then [] else (writtenArgs args).map String.ofList := by
  have hcomma : isBlank ',' = false := by decide
  have hiff : writtenArgs args = [[]] ↔ strip isBlank args = [] :=
    map_strip_splitOn_eq_iff hcomma
  have hpieces : (splitOn ',' (strip isBlank args)).map
      (fun arg => String.ofList (strip isBlank arg)) = (writtenArgs args).map String.ofList := by
    rw [writtenArgs, ← map_strip_splitOn_strip hcomma, List.map_map]
    rfl
  simp only [readParams_eq, hpieces, hiff]

/-- Segments that differ in the blanks around their name and their arguments alone. -/
inductive SameParts : List Char → List Char → Prop where
  | name {s t : List Char} : ':' ∉ s → ':' ∉ t → strip isBlank s = strip isBlank t → SameParts s t
  | call {name args name' args' : List Char} : ':' ∉ name → ':' ∉ name' →
      strip isBlank name = strip isBlank name' → writtenArgs args = writtenArgs args' →
      SameParts (name ++ ':' :: args) (name' ++ ':' :: args')

/-- Lists of segments that differ in blank segments and in the blanks around parts alone. -/
inductive Respaced : List (List Char) → List (List Char) → Prop where
  | nil : Respaced [] []
  | skipLeft {s : List Char} {ss ts : List (List Char)} : (∀ c ∈ s, isBlank c = true) →
      Respaced ss ts → Respaced (s :: ss) ts
  | skipRight {t : List Char} {ss ts : List (List Char)} : (∀ c ∈ t, isBlank c = true) →
      Respaced ss ts → Respaced ss (t :: ts)
  | cons {s t : List Char} {ss ts : List (List Char)} : SameParts s t → Respaced ss ts →
      Respaced (s :: ss) (t :: ts)

namespace SameParts

variable {s t : List Char}

private theorem isBlankSegment_eq (h : SameParts s t) : isBlankSegment s = isBlankSegment t := by
  cases h with
  | name _ _ h => rw [isBlankSegment, h, isBlankSegment]
  | call => rw [isBlankSegment_call, isBlankSegment_call]

private theorem readSegment?_eq (h : SameParts s t) : readSegment? s = readSegment? t := by
  cases h with
  | name hs ht h => rw [readSegment?_of_not_mem hs, readSegment?_of_not_mem ht, h]
  | call hs ht h ha =>
    rw [readSegment?_call hs, readSegment?_call ht, h, readParams_eq_writtenArgs, ha,
      ← readParams_eq_writtenArgs]

end SameParts

private theorem Respaced.readSegments_iff {ss ts : List (List Char)} (h : Respaced ss ts)
    (text other : String) (spec read : RuleSpec) :
    readSegments text spec ss = .ok read ↔ readSegments other spec ts = .ok read := by
  induction h generalizing spec with
  | nil => exact Iff.rfl
  | skipLeft hb _ ih => rw [readSegments_cons_of_blank (isBlankSegment_iff.2 hb), ih]
  | skipRight hb _ ih => rw [readSegments_cons_of_blank (isBlankSegment_iff.2 hb), ih]
  | @cons s t ss ts hp _ ih =>
    have hblank := hp.isBlankSegment_eq
    have hread := hp.readSegment?_eq
    obtain ⟨hb, -⟩ | ⟨hb, hr, -⟩ | ⟨rule, hr, -⟩ := segment_cases s
    · rw [readSegments_cons_of_blank hb, readSegments_cons_of_blank (hblank ▸ hb), ih]
    · rw [readSegments_cons_of_nameless hb hr,
        readSegments_cons_of_nameless (hblank ▸ hb) (hread ▸ hr)]
      exact iff_of_false nofun nofun
    · rw [readSegments_cons hr, readSegments_cons (hread ▸ hr), ih]

/-- A text is refused exactly if one of its segments is nameless. Two texts with a bar between them
are refused if one of them is; otherwise the rules of the second are laid over those of the first:
a name that both have keeps its place and takes the parameters of the second, new names follow in
their order. Texts that differ in blank segments and in the blanks around segments, names and
arguments give the same rules or are both refused. -/
theorem parse_of_glued_texts (a b : String) :
    ((∃ m, parse a = .error m) ↔
      ∃ segment ∈ splitOn '|' a.toList, (strip isBlank segment).head? = some ':') ∧
    ((∃ m, parse (a ++ "|" ++ b) = .error m) ↔
      (∃ m, parse a = .error m) ∨ ∃ m, parse b = .error m) ∧
    (∀ first second, parse a = .ok first → parse b = .ok second →
      ∃ both, parse (a ++ "|" ++ b) = .ok both ∧
        both.toList = first.toList.map (fun rule => (rule.1, (second.get? rule.1).getD rule.2)) ++
          second.toList.filter fun rule => !first.contains rule.1) ∧
    (Respaced (splitOn '|' a.toList) (splitOn '|' b.toList) →
      ∀ read, parse a = .ok read ↔ parse b = .ok read) := by
  refine ⟨parse_eq_error_iff, ?_, ?_, ?_⟩
  · simp only [parse_eq_error_iff, splitOn_bar, List.mem_append, or_and_right, exists_or]
  · intro first second ha hb
    exact ⟨_, parse_append ha hb, toList_overlay first second⟩
  · intro h read
    exact h.readSegments_iff a b empty read

/-- The text `a` names `min` twice and `b` names `in` again, and `c` is `a` with other blanks. -/
theorem parse_of_texts_with_shared_names :
    let a := "min:3|in : a:b, c||min: 5 "
    let b := " |between:1 ,2|in:d"
    let c := "min :3| |in:a:b ,c|min:5"
    let first : RuleSpec := .ofList [("min", ["5"]), ("in", ["a:b", "c"])]
    let second : RuleSpec := .ofList [("between", ["1", "2"]), ("in", ["d"])]
    parse a = .ok first ∧ parse b = .ok second ∧
      (∃ both, parse (a ++ "|" ++ b) = .ok both ∧
        both.toList = [("min", ["5"]), ("in", ["d"]), ("between", ["1", "2"])]) ∧
      Respaced (splitOn '|' a.toList) (splitOn '|' c.toList) ∧ parse c = .ok first ∧
      ∃ m, parse (a ++ "|" ++ "filled| :x") = .error m := by
  intro a b c first second
  have ha : parse "min:3|in : a:b, c||min: 5 " = .ok first := by rfl
  have hb : parse " |between:1 ,2|in:d" = .ok second := by rfl
  obtain ⟨both, hboth, hlist⟩ := (parse_of_glued_texts a b).2.2.1 first second ha hb
  have hspaced : Respaced (splitOn '|' a.toList) (splitOn '|' c.toList) := by
    have hsa : splitOn '|' a.toList =
        ["min:3".toList, "in : a:b, c".toList, [], "min: 5 ".toList] := by decide
    have hsc : splitOn '|' c.toList =
        ["min :3".toList, " ".toList, "in:a:b ,c".toList, "min:5".toList] := by decide
    have hblank : ∀ c ∈ " ".toList, isBlank c = true := List.all_eq_true.1 (by decide)
    rw [hsa, hsc]
    refine .cons ?_ (.skipRight hblank (.cons ?_ (.skipLeft (by simp) (.cons ?_ .nil))))
    · exact @SameParts.call "min".toList "3".toList "min ".toList "3".toList
        (by decide) (by decide) (by decide) (by decide)
    · exact @SameParts.call "in ".toList " a:b, c".toList "in".toList "a:b ,c".toList
        (by decide) (by decide) (by decide) (by decide)
    · exact @SameParts.call "min".toList " 5 ".toList "min".toList "5".toList
        (by decide) (by decide) (by decide) (by decide)
  have hnameless : ∃ m, parse "filled| :x" = .error m :=
    (parse_of_glued_texts "filled| :x" "").1.2 ⟨" :x".toList, by decide, by decide⟩
  exact ⟨ha, hb, ⟨both, hboth, hlist⟩, hspaced,
    ((parse_of_glued_texts a c).2.2.2 hspaced first).1 ha,
    (parse_of_glued_texts a "filled| :x").2.1.2 (.inr hnameless)⟩

end RuleSpec

end FormCheck
