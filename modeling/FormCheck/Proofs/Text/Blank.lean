import Mathlib.Data.List.DropRight
import FormCheck.Text.Blank

/-!
Stripping a class of characters off both ends. None is left at either end, and a text without them
at its ends is left alone. Trimmed texts are those without blanks at their ends.
-/
namespace FormCheck.Text

def IsTrimmed (s : List Char) : Prop :=
  s.head?.any isBlank = false ∧ s.getLast?.any isBlank = false

instance (s : List Char) : Decidable (IsTrimmed s) :=
  inferInstanceAs (Decidable (_ ∧ _))

variable {p : Char → Bool} {s : List Char}

theorem dropWhile_eq_self (h : s.head?.any p = false) : s.dropWhile p = s := by
  cases s with
  | nil => rfl
  | cons c cs =>
    have hc : p c = false := h
    rw [List.dropWhile_cons, hc]
    rfl

theorem strip_eq_self (hfirst : s.head?.any p = false) (hlast : s.getLast?.any p = false) :
    strip p s = s := by
  have hr : s.reverse.dropWhile p = s.reverse := by
    apply dropWhile_eq_self
    rw [List.head?_reverse]
    exact hlast
  rw [strip, dropWhile_eq_self hfirst, hr, List.reverse_reverse]

theorem any_eq_false_of_forall {c? : Option Char} (h : ∀ c ∈ c?, p c = false) :
    c?.any p = false := by
  cases c? with
  | none => rfl
  | some c => exact h c rfl

theorem strip_of_forall (h : ∀ c ∈ s, p c = false) : strip p s = s :=
  strip_eq_self (any_eq_false_of_forall fun c hc => h c (List.mem_of_head? hc))
    (any_eq_false_of_forall fun c hc => h c (List.mem_of_getLast? hc))

theorem strip_eq_nil_iff : strip p s = [] ↔ ∀ c ∈ s, p c = true := by
  induction s with
  | nil => simp
  | cons c cs ih =>
    by_cases h : p c = true
    · simpa [strip, h] using ih
    · simp [strip, h]

theorem head?_dropWhile (p : Char → Bool) (s : List Char) :
    (s.dropWhile p).head?.any p = false := by
  have h := List.head?_dropWhile_not p s
  cases hd : (s.dropWhile p).head? with
  | none => rfl
  | some c =>
    rw [hd] at h
    exact h

theorem head?_strip (p : Char → Bool) (s : List Char) : (strip p s).head?.any p = false := by
  have h := head?_dropWhile p s
  obtain ⟨cut, hc⟩ := List.rdropWhile_prefix p (s.dropWhile p)
  change strip p s ++ cut = s.dropWhile p at hc
  cases hs : strip p s with
  | nil => rfl
  | cons c cs =>
    rw [← hc, hs] at h
    exact h

theorem getLast?_strip (p : Char → Bool) (s : List Char) : (strip p s).getLast?.any p = false := by
  rw [strip, List.getLast?_reverse]
  exact head?_dropWhile p _

private theorem any_head?_append_cons {sep : Char} (h : p sep = false) (s rest : List Char) :
    (s ++ sep :: rest).head?.any p = s.head?.any p := by
  cases s with
  | nil => exact h
  | cons c cs => rfl

theorem any_getLast?_append_cons {sep : Char} (h : p sep = false) (s rest : List Char) :
    (s ++ sep :: rest).getLast?.any p = rest.getLast?.any p := by
  rw [List.getLast?_append, List.getLast?_cons]
  cases rest.getLast? with
  | none => exact h
  | some c => rfl

theorem mem_of_mem_strip {c : Char} (h : c ∈ strip p s) : c ∈ s := by
  rw [strip, List.mem_reverse] at h
  have hr := (List.dropWhile_sublist p).mem h
  rw [List.mem_reverse] at hr
  exact (List.dropWhile_sublist p).mem hr

theorem dropWhile_append_cons {sep : Char} (h : p sep = false) (s rest : List Char) :
    (s ++ sep :: rest).dropWhile p = s.dropWhile p ++ sep :: rest := by
  induction s with
  | nil => rw [List.nil_append, List.dropWhile_cons, h]; rfl
  | cons c cs ih =>
    rw [List.cons_append, List.dropWhile_cons, List.dropWhile_cons, ih]
    split <;> rfl

theorem rdropWhile_append_cons {sep : Char} (h : p sep = false) (s rest : List Char) :
    (s ++ sep :: rest).rdropWhile p = s ++ sep :: rest.rdropWhile p := by
  rw [List.rdropWhile, List.reverse_append, List.reverse_cons, List.append_assoc,
    List.singleton_append, dropWhile_append_cons h, List.reverse_append, List.reverse_cons,
    List.reverse_reverse, List.append_assoc, List.singleton_append, List.rdropWhile]

theorem exists_strip (p : Char → Bool) (s : List Char) :
    ∃ before after, s = before ++ (strip p s ++ after) ∧
      (∀ c ∈ before, p c = true) ∧ ∀ c ∈ after, p c = true := by
  refine ⟨s.takeWhile p, (s.dropWhile p).rtakeWhile p, ?_, fun c => List.mem_takeWhile_imp,
    fun c => List.mem_rtakeWhile_imp⟩
  have hstrip : strip p s = (s.dropWhile p).rdropWhile p := rfl
  rw [hstrip, List.rdropWhile_append_rtakeWhile, List.takeWhile_append_dropWhile]

theorem strip_padded {before after : List Char} (hb : ∀ c ∈ before, p c = true)
    (ha : ∀ c ∈ after, p c = true) (hfirst : s.head?.any p = false)
    (hlast : s.getLast?.any p = false) : strip p (before ++ (s ++ after)) = s := by
  cases hs : s with
  | nil =>
    rw [strip_eq_nil_iff, List.nil_append]
    exact fun c hc => (List.mem_append.1 hc).elim (hb c) (ha c)
  | cons c cs =>
    rw [hs] at hfirst
    have hfront : (c :: cs ++ after).dropWhile p = c :: cs ++ after := dropWhile_eq_self hfirst
    rw [strip, List.dropWhile_append_of_pos hb, hfront, ← hs, List.reverse_append,
      List.dropWhile_append_of_pos fun c hc => ha c (List.mem_reverse.1 hc), dropWhile_eq_self,
      List.reverse_reverse]
    rwa [List.head?_reverse]

/-- Only the outer ends of two parts are stripped, since the separator stops at it. -/
theorem strip_append_cons {sep : Char} (h : p sep = false) (s rest : List Char) :
    strip p (s ++ sep :: rest) = s.dropWhile p ++ sep :: rest.rdropWhile p := by
  have hs : strip p (s ++ sep :: rest) = ((s ++ sep :: rest).dropWhile p).rdropWhile p := rfl
  rw [hs, dropWhile_append_cons h, rdropWhile_append_cons h]

theorem strip_dropWhile (p : Char → Bool) (s : List Char) : strip p (s.dropWhile p) = strip p s := by
  rw [strip, List.dropWhile_idempotent, strip]

theorem strip_rdropWhile (p : Char → Bool) (s : List Char) :
    strip p (s.rdropWhile p) = strip p s := by
  by_cases h : ∀ c ∈ s, p c = true
  · have hr : s.rdropWhile p = [] := List.rdropWhile_eq_nil_iff.2 h
    rw [hr, strip_eq_nil_iff.2 h, strip_nil]
  · simp only [not_forall, Bool.not_eq_true] at h
    obtain ⟨c, hm, hp⟩ := h
    obtain ⟨before, after, rfl⟩ := List.append_of_mem hm
    rw [rdropWhile_append_cons hp, strip_append_cons hp, strip_append_cons hp,
      List.rdropWhile_idempotent]

theorem isTrimmed_strip (s : List Char) : IsTrimmed (strip isBlank s) :=
  ⟨head?_strip isBlank s, getLast?_strip isBlank s⟩

theorem isTrimmed_append_cons_iff {sep : Char} (h : isBlank sep = false) {rest : List Char} :
    IsTrimmed (s ++ sep :: rest) ↔
      s.head?.any isBlank = false ∧ rest.getLast?.any isBlank = false := by
  rw [IsTrimmed, any_head?_append_cons h, any_getLast?_append_cons h]

theorem strip_of_isTrimmed (h : IsTrimmed s) : strip isBlank s = s :=
  strip_eq_self h.1 h.2

theorem strip_eq_self_iff : strip isBlank s = s ↔ IsTrimmed s := by
  constructor
  · intro h
    rw [← h]
    exact isTrimmed_strip s
  · exact strip_of_isTrimmed

theorem map_strip_eq_self_iff {pieces : List (List Char)} :
    pieces.map (strip isBlank) = pieces ↔ ∀ piece ∈ pieces, IsTrimmed piece := by
  induction pieces with
  | nil => simp
  | cons p ps ih => rw [List.map_cons, List.cons.injEq, ih, strip_eq_self_iff, List.forall_mem_cons]

end FormCheck.Text
