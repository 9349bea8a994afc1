import FormCheck.Proofs.Markup.Escaped

/-!
Escaped text read back. It is safe to put into markup, text that is safe already is left alone, and
once the references of the five characters of markup are read, the escaped text says what the text
said.
-/
namespace FormCheck.Markup

/-- A text without angle brackets and quotes in which every ampersand begins a reference. -/
structure IsSafe (s : List Char) : Prop where
  unmarked : ∀ c ∈ s, c ∉ ['<', '>', '"', '\'']
  referenced : ∀ before after, s = before ++ '&' :: after → BeginsReference ('&' :: after)

/-- The text with the references of the five characters of markup read in one pass from the left.
All else stays as it is, other references too. -/
def unescapeChars : List Char → List Char
  | '&' :: 'a' :: 'm' :: 'p' :: ';' :: cs => '&' :: unescapeChars cs
  | '&' :: 'l' :: 't' :: ';' :: cs => '<' :: unescapeChars cs
  | '&' :: 'g' :: 't' :: ';' :: cs => '>' :: unescapeChars cs
  | '&' :: 'q' :: 'u' :: 'o' :: 't' :: ';' :: cs => '"' :: unescapeChars cs
  | '&' :: '#' :: '0' :: '3' :: '9' :: ';' :: cs => '\'' :: unescapeChars cs
  | c :: cs => c :: unescapeChars cs
  | [] => []

def unescape (s : String) : String := String.ofList (unescapeChars s.toList)

variable {s rest body : List Char}

theorem referenceOf?_eq_none_iff {c : Char} :
    referenceOf? c = none ↔ c ∉ ['<', '>', '"', '\''] := by
  unfold referenceOf?
  split <;> simp_all

private theorem isEscaped_iff :
    IsEscaped s ↔ (∀ c ∈ s, referenceOf? c = none) ∧
      ∀ before after, s = before ++ '&' :: after → completesReference after = true := by
  constructor
  · intro h
    induction h with
    | nil => exact ⟨nofun, fun before after h => by cases before <;> cases h⟩
    | @cons c cs hr ha _ ih =>
      refine ⟨List.forall_mem_cons.2 ⟨hr, ih.1⟩, fun before after h => ?_⟩
      cases before with
      | nil =>
        cases h
        exact ha rfl
      | cons b before =>
        cases h
        exact ih.2 before after rfl
  · rintro ⟨hr, ha⟩
    induction s with
    | nil => exact .nil
    | cons c cs ih =>
      obtain ⟨hc, hcs⟩ := List.forall_mem_cons.1 hr
      refine .cons hc (fun h => ha [] cs (by rw [h]; rfl)) (ih hcs fun before after h => ?_)
      exact ha (c :: before) after (by rw [h]; rfl)

private theorem isSafe_iff_isEscaped : IsSafe s ↔ IsEscaped s := by
  simp only [isEscaped_iff, referenceOf?_eq_none_iff, completesReference_iff_beginsReference]
  exact ⟨fun h => ⟨h.unmarked, h.referenced⟩, fun h => ⟨h.1, h.2⟩⟩

private theorem escapeChars_eq_self_iff : escapeChars s = s ↔ IsEscaped s := by
  constructor
  · intro h
    rw [← h]
    exact isEscaped_escapeChars s
  · exact escapeChars_of_isEscaped

theorem escapeChars_reference (hb : isReferenceBody body = true) (rest : List Char) :
    escapeChars ('&' :: (body ++ ';' :: rest)) = '&' :: (body ++ ';' :: escapeChars rest) := by
  have hc : completesReference (body ++ ';' :: rest) = true :=
    completesReference_iff.2 ⟨body, rest, rfl, hb⟩
  have hkept : escapeChar '&' (body ++ ';' :: rest) = ['&'] := by simp [escapeChar, referenceOf?, hc]
  rw [escapeChars, hkept, escapeChars_append_of_not_isMarkup (isMarkup_of_mem_body hb), escapeChars,
    escapeChar_of_not_isMarkup (by decide)]
  rfl

private theorem eq_append_of_escapeChars_eq (hs : ∀ c ∈ s, isMarkup c = false) {cs : List Char}
    (h : escapeChars cs = s ++ rest) : ∃ after, cs = s ++ after := by
  induction s generalizing cs with
  | nil => exact ⟨cs, rfl⟩
  | cons c s ih =>
    obtain ⟨hc, hrest⟩ := List.forall_mem_cons.1 hs
    cases cs with
    | nil => cases h
    | cons d ds =>
      rw [escapeChars] at h
      cases escaping d ds with
      | kept he =>
        rw [he] at h
        obtain ⟨rfl, ht⟩ := List.cons.inj h
        obtain ⟨after, rfl⟩ := ih hrest ht
        exact ⟨after, rfl⟩
      | replaced body he =>
        rw [he] at h
        cases (List.cons.inj h).1
        cases hc

private theorem eq_reference_of_escapeChars_eq (hb : isReferenceBody body = true) {cs : List Char}
    (h : escapeChars cs = body ++ ';' :: rest) : ∃ after, cs = body ++ ';' :: after := by
  rw [List.append_cons] at h
  obtain ⟨after, rfl⟩ := eq_append_of_escapeChars_eq (isMarkup_of_mem_body_semicolon hb) h
  exact ⟨after, by simp⟩

private theorem unescapeChars_escapeChar {c : Char} (h : escapeChar c rest ≠ [c])
    (more : List Char) : unescapeChars (escapeChar c rest ++ more) = c :: unescapeChars more := by
  unfold escapeChar referenceOf? at h ⊢
  split
  · next hr =>
    split at hr
    · cases hr
      rfl
    · cases hr
      rfl
    · cases hr
      rfl
    · cases hr
      rfl
    · cases hr
  · next hr =>
    by_cases hc : c = '&' ∧ !completesReference rest
    · rw [if_pos hc, hc.1]
      rfl
    · rw [hr] at h
      exact absurd (if_neg hc) h

private theorem unescapeChars_escapeChars_reference (body : List Char) {c : Char}
    (hb : isReferenceBody body = true)
    (hc : ∀ more, unescapeChars ('&' :: (body ++ ';' :: more)) = c :: unescapeChars more)
    (ih : unescapeChars (escapeChars rest) = unescapeChars rest) :
    unescapeChars (escapeChars ('&' :: (body ++ ';' :: rest))) = c :: unescapeChars rest := by
  rw [escapeChars_reference hb, hc, ih]

private theorem unescapeChars_escapeChars (s : List Char) :
    unescapeChars (escapeChars s) = unescapeChars s := by
  -- The cases are those of the reader: its five references, any other character, and the end.
  fun_induction unescapeChars s with
  | case1 cs ih =>
    exact unescapeChars_escapeChars_reference ['a', 'm', 'p'] (by decide) (fun _ => rfl) ih
  | case2 cs ih =>
    exact unescapeChars_escapeChars_reference ['l', 't'] (by decide) (fun _ => rfl) ih
  | case3 cs ih =>
    exact unescapeChars_escapeChars_reference ['g', 't'] (by decide) (fun _ => rfl) ih
  | case4 cs ih =>
    exact unescapeChars_escapeChars_reference ['q', 'u', 'o', 't'] (by decide) (fun _ => rfl) ih
  | case5 cs ih =>
    exact unescapeChars_escapeChars_reference ['#', '0', '3', '9'] (by decide) (fun _ => rfl) ih
  | case6 c cs h₁ h₂ h₃ h₄ h₅ ih =>
    rw [escapeChars]
    by_cases hk : escapeChar c cs = [c]
    · -- A reference that is read here would have been read in the text.
      have hnew : ∀ body, isReferenceBody body = true →
          (∀ after, c = '&' → cs = body ++ ';' :: after → False) →
          ∀ after, c = '&' → escapeChars cs = body ++ ';' :: after → False := by
        intro body hb hn after hc he
        obtain ⟨before, hcs⟩ := eq_reference_of_escapeChars_eq hb he
        exact hn before hc hcs
      rw [hk, List.singleton_append, unescapeChars, ih]
      · exact hnew ['a', 'm', 'p'] (by decide) h₁
      · exact hnew ['l', 't'] (by decide) h₂
      · exact hnew ['g', 't'] (by decide) h₃
      · exact hnew ['q', 'u', 'o', 't'] (by decide) h₄
      · exact hnew ['#', '0', '3', '9'] (by decide) h₅
    · rw [unescapeChars_escapeChar hk, ih]
  | case7 => rfl

/-- Escaped text is safe, safe text is what escaping leaves alone, and escaped text reads as the
text does. -/
theorem escape_is_safe_and_lossless (s : String) :
    IsSafe (escape s).toList ∧ (escape s = s ↔ IsSafe s.toList) ∧
      unescape (escape s) = unescape s := by
  have he : (escape s).toList = escapeChars s.toList := String.toList_ofList
  refine ⟨?_, ?_, ?_⟩
  · rw [he, isSafe_iff_isEscaped]
    exact isEscaped_escapeChars s.toList
  · rw [isSafe_iff_isEscaped, ← escapeChars_eq_self_iff, ← he, String.toList_inj]
  · rw [unescape, unescape, he, unescapeChars_escapeChars]

/-- The first ampersand begins nothing, the second one a reference that stays as it is. -/
example : escape "&lt&copy;&quot;'" = "&amp;lt&copy;&quot;&#039;" ∧
    unescape (escape "&lt&copy;&quot;'") = "&lt&copy;\"'" := by decide

end FormCheck.Markup
