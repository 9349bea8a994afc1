import FormCheck.Markup.Reference
import FormCheck.Proofs.Text.Split

/-!
Which texts complete a reference behind an ampersand: those with a body up to the first semicolon.
A body is a name, a number, or a hexadecimal number, so it is made of letters, digits and the number
sign only.
-/
namespace FormCheck.Text

private theorem isAlphanum_of_isHexDigit {c : Char} (h : isHexDigit c = true) :
    c.isAlphanum = true := by
  unfold isHexDigit hexValue? at h
  split at h
  · next hd => exact Bool.or_eq_true_iff.2 (.inr hd)
  · split at h
    · next hl =>
      have hlower : c.isLower = true := Bool.and_eq_true_iff.2
        ⟨decide_eq_true hl.1, decide_eq_true (Char.le_trans hl.2 (by decide : 'f' ≤ 'z'))⟩
      exact Bool.or_eq_true_iff.2 (.inl (Bool.or_eq_true_iff.2 (.inr hlower)))
    · split at h
      · next hu =>
        have hupper : c.isUpper = true :=
          decide_eq_true ⟨hu.1, Char.le_trans hu.2 (by decide : 'F' ≤ 'Z')⟩
        exact Bool.or_eq_true_iff.2 (.inl (Bool.or_eq_true_iff.2 (.inl hupper)))
      · cases h

end FormCheck.Text

namespace FormCheck.Markup

/-- What stands between the ampersand and the semicolon of a reference: a name, digits behind a
number sign, or hexadecimal digits behind a number sign and an `x`. -/
inductive ReferenceBody : List Char → Prop where
  | name {c : Char} {cs : List Char} : c.isAlpha = true → (∀ d ∈ cs, d.isAlphanum = true) →
      ReferenceBody (c :: cs)
  | decimal {digits : List Char} : digits ≠ [] → (∀ d ∈ digits, d.isDigit = true) →
      ReferenceBody ('#' :: digits)
  | hexadecimal {x : Char} {digits : List Char} : x = 'x' ∨ x = 'X' → digits ≠ [] →
      (∀ d ∈ digits, Text.isHexDigit d = true) → ReferenceBody ('#' :: x :: digits)

def BeginsReference (s : List Char) : Prop :=
  ∃ body after, s = '&' :: (body ++ ';' :: after) ∧ ReferenceBody body

variable {rest body : List Char}

private theorem isReferenceBody_of_referenceBody (h : ReferenceBody body) :
    isReferenceBody body = true := by
  cases h with
  | @name c cs hc hcs =>
    have hn : c ≠ '#' := by
      rintro rfl
      exact absurd hc (by decide)
    unfold isReferenceBody
    split <;> simp_all
  | decimal hn hd =>
    unfold isReferenceBody
    split
    · next h =>
      cases h
      exact absurd (hd 'x' List.mem_cons_self) (by decide)
    · next h =>
      cases h
      exact absurd (hd 'X' List.mem_cons_self) (by decide)
    · next h =>
      cases h
      simpa [hn] using hd
    · next h =>
      cases h
      contradiction
    · next h => cases h
  | hexadecimal hx hn hd =>
    rcases hx with rfl | rfl <;> simpa [isReferenceBody, hn] using hd

private theorem referenceBody_of_isReferenceBody (h : isReferenceBody body = true) :
    ReferenceBody body := by
  unfold isReferenceBody at h
  split at h
  · obtain ⟨hn, hd⟩ := Bool.and_eq_true_iff.1 h
    exact .hexadecimal (.inl rfl) (by simpa using hn) (List.all_eq_true.1 hd)
  · obtain ⟨hn, hd⟩ := Bool.and_eq_true_iff.1 h
    exact .hexadecimal (.inr rfl) (by simpa using hn) (List.all_eq_true.1 hd)
  · obtain ⟨hn, hd⟩ := Bool.and_eq_true_iff.1 h
    exact .decimal (by simpa using hn) (List.all_eq_true.1 hd)
  · obtain ⟨hc, hd⟩ := Bool.and_eq_true_iff.1 h
    exact .name hc (List.all_eq_true.1 hd)
  · cases h

theorem isReferenceBody_iff : isReferenceBody body = true ↔ ReferenceBody body :=
  ⟨referenceBody_of_isReferenceBody, isReferenceBody_of_referenceBody⟩

private theorem isAlphanum_of_mem_of_all {p : Char → Bool} {cs : List Char}
    (hp : ∀ c, p c = true → c.isAlphanum = true) (h : cs.all p = true) :
    ∀ c ∈ cs, c = '#' ∨ c.isAlphanum = true :=
  fun c hc => .inr (hp c (List.all_eq_true.1 h c hc))

theorem isAlphanum_of_mem_body (h : isReferenceBody body = true) :
    ∀ c ∈ body, c = '#' ∨ c.isAlphanum = true := by
  unfold isReferenceBody at h
  split at h
  · have hhex := isAlphanum_of_mem_of_all (fun _ => Text.isAlphanum_of_isHexDigit)
      (Bool.and_eq_true_iff.1 h).2
    exact List.forall_mem_cons.2 ⟨.inl rfl, List.forall_mem_cons.2 ⟨.inr (by decide), hhex⟩⟩
  · have hhex := isAlphanum_of_mem_of_all (fun _ => Text.isAlphanum_of_isHexDigit)
      (Bool.and_eq_true_iff.1 h).2
    exact List.forall_mem_cons.2 ⟨.inl rfl, List.forall_mem_cons.2 ⟨.inr (by decide), hhex⟩⟩
  · have hdigits := isAlphanum_of_mem_of_all (fun _ hd => Bool.or_eq_true_iff.2 (.inr hd))
      (Bool.and_eq_true_iff.1 h).2
    exact List.forall_mem_cons.2 ⟨.inl rfl, hdigits⟩
  · obtain ⟨hc, hcs⟩ := Bool.and_eq_true_iff.1 h
    exact List.forall_mem_cons.2 ⟨.inr (Bool.or_eq_true_iff.2 (.inl hc)),
      isAlphanum_of_mem_of_all (fun _ => id) hcs⟩
  · cases h

theorem semicolon_not_mem_body (h : isReferenceBody body = true) : ';' ∉ body := by
  intro hm
  rcases isAlphanum_of_mem_body h _ hm with hc | hc
  · cases hc
  · exact absurd hc (by decide)

theorem completesReference_iff :
    completesReference rest = true ↔
      ∃ body after, rest = body ++ ';' :: after ∧ isReferenceBody body = true := by
  unfold completesReference
  constructor
  · intro h
    split at h
    · next body after hs => exact ⟨body, after, (Text.splitFirst?_eq_some_iff.1 hs).1, h⟩
    · cases h
  · rintro ⟨body, after, hs, hb⟩
    rw [Text.splitFirst?_eq_some_iff.2 ⟨hs, semicolon_not_mem_body hb⟩]
    exact hb

theorem completesReference_iff_beginsReference :
    completesReference rest = true ↔ BeginsReference ('&' :: rest) := by
  simp only [completesReference_iff, isReferenceBody_iff, BeginsReference, List.cons.injEq,
    true_and]

end FormCheck.Markup
