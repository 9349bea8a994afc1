import FormCheck.Markup.Escape
import FormCheck.Proofs.Markup.Reference

/-!
What escaping puts into a text. A character is kept or gives way to a reference. A text without
characters of markup stays as it is; one with them gains or keeps an ampersand and a semicolon, and
loses its angle brackets and quotes.
-/
namespace FormCheck.Markup

/-- The characters that escaping may rewrite: angle brackets, quotes and the ampersand. -/
def isMarkup (c : Char) : Bool := (referenceOf? c).isSome || c == '&'

theorem isMarkup_iff {c : Char} : isMarkup c = true ↔ c ∈ ['<', '>', '"', '\'', '&'] := by
  unfold isMarkup referenceOf?
  split <;> simp_all

theorem isMarkup_eq_false_iff {c : Char} :
    isMarkup c = false ↔ referenceOf? c = none ∧ c ≠ '&' := by
  simp [isMarkup]

def leavesOutMarkup (p : Char → Bool) : Bool := ['<', '>', '"', '\'', '&'].all fun c => !p c

theorem isMarkup_of_class {p : Char → Bool} {c : Char} (hp : leavesOutMarkup p = true)
    (h : p c = true) : isMarkup c = false := by
  rw [← Bool.not_eq_true, isMarkup_iff]
  intro hm
  have hd := List.all_eq_true.1 hp c hm
  rw [h] at hd
  cases hd

theorem isMarkup_of_mem_body {body : List Char} (h : isReferenceBody body = true) :
    ∀ c ∈ body, isMarkup c = false := by
  intro c hc
  rcases isAlphanum_of_mem_body h c hc with rfl | ha
  · decide
  · exact isMarkup_of_class (by decide) ha

theorem isMarkup_of_mem_body_semicolon {body : List Char} (h : isReferenceBody body = true) :
    ∀ c ∈ body ++ [';'], isMarkup c = false := by
  rw [List.forall_mem_append, List.forall_mem_singleton]
  exact ⟨isMarkup_of_mem_body h, rfl⟩

private theorem referenceOf?_eq_some {c : Char} {reference : String}
    (h : referenceOf? c = some reference) :
    ∃ body, reference.toList = '&' :: (body ++ [';']) ∧ isReferenceBody body = true := by
  unfold referenceOf? at h
  split at h
  · cases h
    exact ⟨"lt".toList, by decide, by decide⟩
  · cases h
    exact ⟨"gt".toList, by decide, by decide⟩
  · cases h
    exact ⟨"quot".toList, by decide, by decide⟩
  · cases h
    exact ⟨"#039".toList, by decide, by decide⟩
  · cases h

inductive Escaping (c : Char) (rest : List Char) : Prop where
  | kept : escapeChar c rest = [c] → referenceOf? c = none →
      (c = '&' → completesReference rest = true) → Escaping c rest
  | replaced (body : List Char) : escapeChar c rest = '&' :: (body ++ [';']) →
      isMarkup c = true → isReferenceBody body = true → Escaping c rest

theorem escaping (c : Char) (rest : List Char) : Escaping c rest := by
  cases hr : referenceOf? c with
  | some reference =>
    obtain ⟨body, hs, hb⟩ := referenceOf?_eq_some hr
    exact .replaced body (by simp [escapeChar, hr, hs]) (by simp [isMarkup, hr]) hb
  | none =>
    by_cases ha : c = '&' ∧ !completesReference rest
    · have he : escapeChar c rest = "&amp;".toList := by
        rw [escapeChar, hr]
        exact if_pos ha
      exact .replaced "amp".toList he (by simp [isMarkup, ha.1]) (by decide)
    · have he : escapeChar c rest = [c] := by
        rw [escapeChar, hr]
        exact if_neg ha
      exact .kept he hr fun hc => by simpa [hc] using ha

theorem escapeChar_of_not_isMarkup {c : Char} (h : isMarkup c = false) (rest : List Char) :
    escapeChar c rest = [c] := by
  obtain ⟨hn, hc⟩ := isMarkup_eq_false_iff.1 h
  simp [escapeChar, hn, hc]

theorem escapeChars_append_of_not_isMarkup {s : List Char} (h : ∀ c ∈ s, isMarkup c = false)
    (rest : List Char) : escapeChars (s ++ rest) = s ++ escapeChars rest := by
  induction s with
  | nil => rfl
  | cons c cs ih =>
    obtain ⟨hc, hcs⟩ := List.forall_mem_cons.1 h
    rw [List.cons_append, escapeChars, escapeChar_of_not_isMarkup hc, ih hcs]
    rfl

theorem escapeChars_of_not_isMarkup {s : List Char} (h : ∀ c ∈ s, isMarkup c = false) :
    escapeChars s = s := by
  have hs := escapeChars_append_of_not_isMarkup h []
  rw [List.append_nil, escapeChars, List.append_nil] at hs
  exact hs

private theorem mem_escapeChars_iff {s : List Char} {d : Char} :
    d ∈ escapeChars s ↔
      ∃ before c after, s = before ++ c :: after ∧ d ∈ escapeChar c after := by
  induction s with
  | nil => simp [escapeChars]
  | cons c cs ih =>
    rw [escapeChars, List.mem_append, ih]
    constructor
    · rintro (hd | ⟨before, e, after, rfl, hd⟩)
      · exact ⟨[], c, cs, rfl, hd⟩
      · exact ⟨c :: before, e, after, rfl, hd⟩
    · rintro ⟨before, e, after, hs, hd⟩
      cases before with
      | nil =>
        cases hs
        exact .inl hd
      | cons b before =>
        cases hs
        exact .inr ⟨before, e, after, rfl, hd⟩

private theorem mem_escapeChars_of_mem {s : List Char} {c : Char} (h : isMarkup c = false)
    (hc : c ∈ s) : c ∈ escapeChars s := by
  obtain ⟨before, after, hs⟩ := List.append_of_mem hc
  refine mem_escapeChars_iff.2 ⟨before, c, after, hs, ?_⟩
  rw [escapeChar_of_not_isMarkup h]
  exact List.mem_cons_self

private theorem ampersand_mem_escapeChar {c : Char} (h : isMarkup c = true) (rest : List Char) :
    '&' ∈ escapeChar c rest := by
  cases escaping c rest with
  | kept he hr _ =>
    have hc : c = '&' := by simpa [isMarkup, hr] using h
    rw [he, hc]
    exact List.mem_cons_self
  | replaced body he =>
    rw [he]
    exact List.mem_cons_self

private theorem escapeChar_ne_nil (c : Char) (rest : List Char) : escapeChar c rest ≠ [] := by
  cases escaping c rest with
  | kept he =>
    rw [he]
    exact List.cons_ne_nil _ _
  | replaced body he =>
    rw [he]
    exact List.cons_ne_nil _ _

theorem escapeChars_eq_nil_iff {s : List Char} : escapeChars s = [] ↔ s = [] := by
  cases s with
  | nil => simp [escapeChars]
  | cons c cs => simp [escapeChars, escapeChar_ne_nil]

private theorem semicolon_mem_escapeChar {c : Char} (h : isMarkup c = true) (rest : List Char) :
    ';' ∈ escapeChar c rest ∨ ';' ∈ rest := by
  cases escaping c rest with
  | kept _ hr ha =>
    have hc : c = '&' := by simpa [isMarkup, hr] using h
    obtain ⟨body, after, rfl, _⟩ := completesReference_iff.1 (ha hc)
    exact .inr (List.mem_append_right _ List.mem_cons_self)
  | replaced body he =>
    rw [he]
    exact .inl (List.mem_cons_of_mem _ List.mem_concat_self)

theorem ampersand_mem_escapeChars {s : List Char} {c : Char} (h : isMarkup c = true)
    (hc : c ∈ s) : '&' ∈ escapeChars s := by
  obtain ⟨before, after, hs⟩ := List.append_of_mem hc
  exact mem_escapeChars_iff.2 ⟨before, c, after, hs, ampersand_mem_escapeChar h after⟩

private theorem semicolon_mem_escapeChars {s : List Char} {c : Char} (h : isMarkup c = true)
    (hc : c ∈ s) : ';' ∈ escapeChars s := by
  obtain ⟨before, after, rfl⟩ := List.append_of_mem hc
  rcases semicolon_mem_escapeChar h after with hput | hrest
  · exact mem_escapeChars_iff.2 ⟨before, c, after, rfl, hput⟩
  · exact mem_escapeChars_of_mem (by decide)
      (List.mem_append_right _ (List.mem_cons_of_mem _ hrest))

private theorem referenceOf?_of_mem_escapeChar {c d : Char} {rest : List Char}
    (h : d ∈ escapeChar c rest) : referenceOf? d = none := by
  cases escaping c rest with
  | kept he hr _ =>
    rw [he, List.mem_singleton] at h
    rw [h, hr]
  | replaced body he _ hb =>
    rw [he, List.mem_cons, List.mem_append, List.mem_singleton] at h
    rcases h with rfl | hd | rfl
    · rfl
    · exact (isMarkup_eq_false_iff.1 (isMarkup_of_mem_body hb d hd)).1
    · rfl

theorem referenceOf?_of_mem_escapeChars {d : Char} {s : List Char} (h : d ∈ escapeChars s) :
    referenceOf? d = none := by
  obtain ⟨_, _, _, _, hd⟩ := mem_escapeChars_iff.1 h
  exact referenceOf?_of_mem_escapeChar hd

theorem not_isMarkup_of_not_mem {s : List Char} (h : '&' ∉ escapeChars s ∨ ';' ∉ escapeChars s) :
    ∀ c ∈ s, isMarkup c = false := by
  intro c hc
  cases hm : isMarkup c with
  | false => rfl
  | true =>
    rcases h with ha | hs
    · exact absurd (ampersand_mem_escapeChars hm hc) ha
    · exact absurd (semicolon_mem_escapeChars hm hc) hs

end FormCheck.Markup
