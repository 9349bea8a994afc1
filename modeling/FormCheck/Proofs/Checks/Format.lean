import FormCheck.Checks.Format
import FormCheck.Proofs.Json.Bare
import FormCheck.Proofs.Markup.Escape
import FormCheck.Proofs.Text.Split

/-!
Tests of form on escaped text. Mail addresses hold no semicolon and JSON texts without strings hold
no ampersand, so escaped text passes these tests only if escaping left it alone.
-/
namespace FormCheck.Checks

variable {s : List Char} {c : Char}

private theorem isMailboxChar_of_mem_hostLabel {label : List Char} (h : isHostLabel label = true)
    (hc : c ∈ label) : isMailboxChar c = true := by
  simp only [isHostLabel, Bool.and_eq_true, List.all_eq_true, Bool.or_eq_true, beq_iff_eq] at h
  rcases h.1.1.2 c hc with ha | rfl
  · simp [isMailboxChar, ha]
  · decide

private theorem isMailboxChar_of_email (h : email s = true) (hc : c ∈ s) :
    c = '@' ∨ isMailboxChar c = true := by
  unfold email at h
  split at h
  · next mailbox host hs =>
    simp only [Bool.and_eq_true, List.all_eq_true] at h
    obtain ⟨⟨_, hmailbox⟩, hhost⟩ := h
    rw [(Text.splitFirst?_eq_some_iff.1 hs).1, List.mem_append, List.mem_cons] at hc
    rcases hc with hm | rfl | hh
    · exact .inr (hmailbox c hm)
    · exact .inl rfl
    · rcases Text.mem_splitOn '.' hh with rfl | ⟨label, hl, hm⟩
      · exact .inr (by decide)
      · exact .inr (isMailboxChar_of_mem_hostLabel (hhost label hl) hm)
  · cases h

private theorem semicolon_not_mem_of_email (h : email s = true) : ';' ∉ s := by
  intro hm
  rcases isMailboxChar_of_email h hm with hc | hc
  · cases hc
  · exact absurd hc (by decide)

private theorem isMarkup_of_mem_email (h : email s = true) (hc : c ∈ s)
    (hm : Markup.isMarkup c = true) : c = '&' ∨ c = '\'' := by
  have hx := isMailboxChar_of_email h hc
  have hcases := Markup.isMarkup_iff.1 hm
  simp only [List.mem_cons, List.not_mem_nil, or_false] at hcases
  rcases hcases with rfl | rfl | rfl | rfl | rfl
  · exact absurd hx (by decide)
  · exact absurd hx (by decide)
  · exact absurd hx (by decide)
  · exact .inr rfl
  · exact .inl rfl

private theorem isBare_of_json (h : json s = true) (hq : '"' ∉ s) :
    ∀ c ∈ s, Json.isBare c = true := by
  obtain ⟨document, hd⟩ := Option.isSome_iff_exists.1 h
  obtain ⟨tokens, ht, _⟩ := Option.bind_eq_some_iff.1 hd
  rw [Json.tokens?, String.toList_ofList] at ht
  exact Json.isBare_of_scanTokens ht hq

private theorem ampersand_not_mem_of_json (h : json (Markup.escapeChars s) = true) :
    '&' ∉ Markup.escapeChars s := by
  have hq : '"' ∉ Markup.escapeChars s := by
    intro hm
    cases Markup.referenceOf?_of_mem_escapeChars hm
  intro ha
  exact absurd (isBare_of_json h hq _ ha) (by decide)

/-- A test that refuses every text with a trace of escaping accepts an escaped text if it accepts
the text and there was nothing to escape. -/
private theorem accepts_escapeChars_iff {test : List Char → Bool}
    (h : test (Markup.escapeChars s) = true →
      '&' ∉ Markup.escapeChars s ∨ ';' ∉ Markup.escapeChars s) :
    test (Markup.escapeChars s) = true ↔
      test s = true ∧ ∀ c ∈ s, Markup.isMarkup c = false := by
  constructor
  · intro ht
    have hp := Markup.not_isMarkup_of_not_mem (h ht)
    rw [Markup.escapeChars_of_not_isMarkup hp] at ht
    exact ⟨ht, hp⟩
  · rintro ⟨ht, hp⟩
    rw [Markup.escapeChars_of_not_isMarkup hp]
    exact ht

theorem email_escapeChars_iff :
    email (Markup.escapeChars s) = true ↔ email s = true ∧ '&' ∉ s ∧ '\'' ∉ s := by
  rw [accepts_escapeChars_iff fun h => .inr (semicolon_not_mem_of_email h)]
  apply and_congr_right
  intro h
  constructor
  · intro hp
    exact ⟨fun ha => absurd (hp _ ha) (by decide), fun hq => absurd (hp _ hq) (by decide)⟩
  · rintro ⟨ha, hq⟩ c hc
    rw [← Bool.not_eq_true]
    intro hm
    rcases isMarkup_of_mem_email h hc hm with rfl | rfl
    · exact ha hc
    · exact hq hc

theorem json_escapeChars_iff : json (Markup.escapeChars s) = true ↔ json s = true ∧ '"' ∉ s := by
  rw [accepts_escapeChars_iff fun h => .inl (ampersand_not_mem_of_json h)]
  apply and_congr_right
  intro h
  constructor
  · intro hp hq
    exact absurd (hp _ hq) (by decide)
  · intro hq c hc
    exact Markup.isMarkup_of_class (by decide) (isBare_of_json h hq c hc)

end FormCheck.Checks
