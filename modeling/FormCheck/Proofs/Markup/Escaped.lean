import FormCheck.Proofs.Markup.Escape

/-!
Texts that need no escaping: they have no angle bracket and no quote, and each of their ampersands
begins a reference. Escaping makes such a text of every text and leaves such a text alone.
-/
namespace FormCheck.Markup

inductive IsEscaped : List Char → Prop where
  | nil : IsEscaped []
  | cons {c : Char} {cs : List Char} : referenceOf? c = none →
      (c = '&' → completesReference cs = true) → IsEscaped cs → IsEscaped (c :: cs)

namespace IsEscaped

variable {s rest body : List Char}

private theorem append_of_not_isMarkup (h : ∀ c ∈ s, isMarkup c = false) (hr : IsEscaped rest) :
    IsEscaped (s ++ rest) := by
  induction s with
  | nil => exact hr
  | cons c cs ih =>
    obtain ⟨hc, hcs⟩ := List.forall_mem_cons.1 h
    obtain ⟨hn, ha⟩ := isMarkup_eq_false_iff.1 hc
    exact .cons hn (fun he => absurd he ha) (ih hcs)

theorem reference (hb : isReferenceBody body = true) (hr : IsEscaped rest) :
    IsEscaped ('&' :: (body ++ [';']) ++ rest) := by
  have hs : (body ++ [';']) ++ rest = body ++ ';' :: rest := by simp
  rw [List.cons_append, hs]
  refine .cons rfl (fun _ => completesReference_iff.2 ⟨body, rest, rfl, hb⟩) ?_
  exact append_of_not_isMarkup (isMarkup_of_mem_body hb) (.cons rfl nofun hr)

end IsEscaped

variable {s rest : List Char} {p : Char → Bool}

private theorem completesReference_escapeChars (h : completesReference rest = true) :
    completesReference (escapeChars rest) = true := by
  obtain ⟨body, after, rfl, hb⟩ := completesReference_iff.1 h
  rw [escapeChars_append_of_not_isMarkup (isMarkup_of_mem_body hb), escapeChars,
    escapeChar_of_not_isMarkup (by decide)]
  exact completesReference_iff.2 ⟨body, escapeChars after, rfl, hb⟩

theorem isEscaped_escapeChars (s : List Char) : IsEscaped (escapeChars s) := by
  induction s with
  | nil => exact .nil
  | cons c cs ih =>
    rw [escapeChars]
    cases escaping c cs with
    | kept he hr ha =>
      -- A kept ampersand looked ahead in the text; it must see the same in the escaped text.
      rw [he]
      exact .cons hr (fun hc => completesReference_escapeChars (ha hc)) ih
    | replaced body he _ hb =>
      rw [he]
      exact .reference hb ih

theorem escapeChars_of_isEscaped (h : IsEscaped s) : escapeChars s = s := by
  induction h with
  | nil => rfl
  | @cons c cs hr ha _ ih =>
    have he : escapeChar c cs = [c] := by
      rw [escapeChar, hr]
      exact if_neg fun hn => by simp [ha hn.1] at hn
    rw [escapeChars, he, ih]
    rfl

theorem escapeChars_escapeChars (s : List Char) : escapeChars (escapeChars s) = escapeChars s :=
  escapeChars_of_isEscaped (isEscaped_escapeChars s)

theorem head?_escapeChars (ha : p '&' = false) (h : s.head?.any p = false) :
    (escapeChars s).head?.any p = false := by
  cases s with
  | nil => rfl
  | cons c cs =>
    rw [escapeChars]
    cases escaping c cs with
    | kept he =>
      rw [he]
      exact h
    | replaced body he =>
      rw [he]
      exact ha

theorem getLast?_escapeChars (hs : p ';' = false) (h : s.getLast?.any p = false) :
    (escapeChars s).getLast?.any p = false := by
  induction s with
  | nil => rfl
  | cons c cs ih =>
    rw [escapeChars, List.getLast?_append]
    cases cs with
    | nil =>
      cases escaping c [] with
      | kept he =>
        rw [he]
        exact h
      | replaced body he =>
        rw [he, ← List.cons_append, List.getLast?_concat]
        exact hs
    | cons d ds =>
      have hl := ih (by rwa [List.getLast?_cons_cons] at h)
      cases he : (escapeChars (d :: ds)).getLast? with
      | none => cases escapeChars_eq_nil_iff.1 (List.getLast?_eq_none_iff.1 he)
      | some e =>
        rw [he] at hl
        exact hl

end FormCheck.Markup
