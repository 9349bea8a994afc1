import FormCheck.Proofs.Markup.Unescape

/-!
References inside a text. A text is found to begin with a reference exactly if a part at its front
is spelled as one, and it has one such part at most. Escaping can be cut at an ampersand, since no
reference reaches across one, so a reference is kept wherever it stands.
-/
namespace FormCheck.Markup

inductive IsReference : List Char → Prop where
  | of_body {body : List Char} : ReferenceBody body → IsReference ('&' :: (body ++ [';']))

variable {s r body : List Char}

private theorem beginsReference_iff : BeginsReference s ↔ ∃ r, IsReference r ∧ r <+: s := by
  constructor
  · rintro ⟨body, after, rfl, hb⟩
    exact ⟨_, .of_body hb, after, by simp⟩
  · rintro ⟨_, ⟨hb⟩, after, rfl⟩
    exact ⟨_, after, by simp, hb⟩

private theorem startsWithReference_iff_beginsReference :
    startsWithReference s = true ↔ BeginsReference s := by
  cases s with
  | nil => simp [startsWithReference, BeginsReference]
  | cons c rest =>
    by_cases hc : c = '&'
    · rw [hc]
      exact completesReference_iff_beginsReference
    · simp [startsWithReference, BeginsReference, hc]

private theorem splitFirst?_body (hb : ReferenceBody body) (after : List Char) :
    Text.splitFirst? ';' (body ++ ';' :: after) = some (body, after) :=
  Text.splitFirst?_eq_some_iff.2 ⟨rfl, semicolon_not_mem_body (isReferenceBody_iff.2 hb)⟩

namespace IsReference

private theorem eq_of_isPrefix {q : List Char} (hr : IsReference r) (hq : IsReference q)
    (hrs : r <+: s) (hqs : q <+: s) : q = r := by
  obtain ⟨after, rfl⟩ := hrs
  obtain ⟨rest, hs⟩ := hqs
  obtain @⟨body, hbody⟩ := hr
  obtain @⟨other, hother⟩ := hq
  have hsame : other ++ ';' :: rest = body ++ ';' :: after := by simpa using hs
  have hcut := splitFirst?_body hother rest
  rw [hsame, splitFirst?_body hbody] at hcut
  cases hcut
  rfl

private theorem eq_cons (h : IsReference r) :
    ∃ rest, r = '&' :: rest ∧ ∀ c ∈ rest, isMarkup c = false := by
  obtain ⟨hb⟩ := h
  exact ⟨_, rfl, isMarkup_of_mem_body_semicolon (isReferenceBody_iff.2 hb)⟩

theorem unmarked (h : IsReference r) : ∀ c ∈ r, c ∉ ['<', '>', '"', '\''] := by
  obtain ⟨rest, rfl, hrest⟩ := h.eq_cons
  intro c hc
  apply referenceOf?_eq_none_iff.1
  rcases List.mem_cons.1 hc with rfl | hm
  · rfl
  · exact (isMarkup_eq_false_iff.1 (hrest c hm)).1

private theorem count_ampersand (h : IsReference r) : r.count '&' = 1 := by
  obtain ⟨rest, rfl, hrest⟩ := h.eq_cons
  have hn : '&' ∉ rest := fun hm => (isMarkup_eq_false_iff.1 (hrest _ hm)).2 rfl
  rw [List.count_cons_self, List.count_eq_zero.2 hn]

end IsReference

private theorem completesReference_append_ampersand (before rest : List Char) :
    completesReference (before ++ '&' :: rest) = completesReference before := by
  rw [Bool.eq_iff_iff, completesReference_iff, completesReference_iff]
  constructor
  · rintro ⟨body, after, hs, hb⟩
    refine ⟨body, ?_⟩
    rcases List.append_eq_append_iff.1 hs with ⟨mid, hbody, hrest⟩ | ⟨mid, hbefore, hafter⟩
    · -- The body would hold the ampersand.
      exfalso
      cases mid with
      | nil => cases hrest
      | cons m mid =>
        have hm : '&' ∈ body := by
          rw [hbody, (List.cons.inj hrest).1]
          simp
        cases isMarkup_of_mem_body hb _ hm
    · cases mid with
      | nil => cases hafter
      | cons m mid =>
        obtain ⟨rfl, _⟩ := List.cons.inj hafter
        exact ⟨mid, hbefore, hb⟩
  · rintro ⟨body, after, rfl, hb⟩
    exact ⟨body, after ++ '&' :: rest, by simp, hb⟩

private theorem escapeChars_append_ampersand (before rest : List Char) :
    escapeChars (before ++ '&' :: rest) = escapeChars before ++ escapeChars ('&' :: rest) := by
  induction before with
  | nil => rfl
  | cons c before ih =>
    have hc : escapeChar c (before ++ '&' :: rest) = escapeChar c before := by
      unfold escapeChar
      rw [completesReference_append_ampersand]
    rw [List.cons_append, escapeChars, hc, ih, ← List.append_assoc]
    rfl

private theorem escapeChars_append_reference (hr : IsReference r) (before after : List Char) :
    escapeChars (before ++ r ++ after) = escapeChars before ++ r ++ escapeChars after := by
  obtain ⟨hb⟩ := hr
  have hkept := escapeChars_reference (isReferenceBody_iff.2 hb) after
  rw [List.append_assoc, List.cons_append, escapeChars_append_ampersand]
  simp [hkept]

/-- A text is found to begin with a reference exactly if a part at its front is spelled as one. There
is no second such part, its ampersand is the only markup in it, and escaping keeps it wherever it
stands. -/
theorem reference_recognised_and_kept :
    (∀ s, startsWithReference s = true ↔ ∃ r, IsReference r ∧ r <+: s) ∧
    (∀ s r q, IsReference r → IsReference q → r <+: s → q <+: s → q = r) ∧
    (∀ r, IsReference r → (∀ c ∈ r, c ∉ ['<', '>', '"', '\'']) ∧ r.count '&' = 1) ∧
    ∀ before r after : String, IsReference r.toList →
      escape (before ++ r ++ after) = escape before ++ r ++ escape after := by
  refine ⟨fun s => ?_, fun s r q => IsReference.eq_of_isPrefix, fun r hr => ?_,
    fun before r after hr => ?_⟩
  · rw [startsWithReference_iff_beginsReference, beginsReference_iff]
  · exact ⟨hr.unmarked, hr.count_ampersand⟩
  · rw [← String.toList_inj]
    simp only [escape, String.toList_append, String.toList_ofList]
    exact escapeChars_append_reference hr before.toList after.toList

/-- The first ampersand begins no reference, though a semicolon follows, and neither does the last. -/
theorem reference_kept_between_ampersands :
    let r := "&#x1F;"
    (IsReference r.toList ∧ r.toList <+: (r ++ ";&\"").toList) ∧
      startsWithReference (r ++ ";&\"").toList = true ∧
      (∀ q, IsReference q → q <+: (r ++ ";&\"").toList → q = r.toList) ∧
      r.toList.count '&' = 1 ∧ escape ("&lt<" ++ r ++ ";&\"") = "&amp;lt&lt;&#x1F;;&amp;&quot;" := by
  intro r
  have hbody : ReferenceBody ['#', 'x', '1', 'F'] := isReferenceBody_iff.1 (by decide)
  have hr : IsReference r.toList := by
    rw [show r.toList = '&' :: (['#', 'x', '1', 'F'] ++ [';']) by decide]
    exact .of_body hbody
  have hs : r.toList <+: (r ++ ";&\"").toList := ⟨";&\"".toList, by decide⟩
  obtain ⟨hstarts, hunique, hspelled, hkept⟩ := reference_recognised_and_kept
  refine ⟨⟨hr, hs⟩, (hstarts _).2 ⟨_, hr, hs⟩, ?_, (hspelled _ hr).2, ?_⟩
  · exact fun q hq hqs => hunique _ _ _ hr hq hs hqs
  · rw [hkept _ _ _ hr]
    decide

end FormCheck.Markup
