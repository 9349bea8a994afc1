import FormCheck.Pattern.Delimited
import FormCheck.Proofs.Text.Split
import Mathlib.Data.Option.Basic

/-!
Where a delimited pattern is cut. A body may hold the closing delimiter as often as it likes. The
letters of the flags cannot, so the last closing delimiter is the one that a pattern was wrapped
with, and no pattern is wrapped in two ways.
-/
namespace FormCheck.Pattern

def delimiters : List (Char × Char) :=
  [('/', '/'), ('#', '#'), ('~', '~'), ('!', '!'), ('@', '@'), ('%', '%'), (';', ';'), ('{', '}')]

/-- A body of any characters between delimiters, with letters of ASCII as flags behind it. -/
@[ext] structure Wrapping where
  opening : Char
  closing : Char
  body : List Char
  letters : List Char
  paired : (opening, closing) ∈ delimiters
  isAlpha_letters : ∀ c ∈ letters, c.isAlpha = true

def Wrapping.text (w : Wrapping) : List Char := w.opening :: (w.body ++ w.closing :: w.letters)

def Expr.ofText? (flags : Flags) (s : List Char) : Option (Expr Leaf) :=
  (Expr.read? flags s).filter Expr.fits

variable {s body letters : List Char} {opening closing : Char}

private theorem closing?_eq_some_iff :
    closing? opening = some closing ↔ (opening, closing) ∈ delimiters := by
  unfold closing?
  split <;> simp_all [delimiters, eq_comm]

private theorem isAlpha_closing (h : (opening, closing) ∈ delimiters) :
    closing.isAlpha = false := by
  have hall : ∀ d ∈ delimiters, d.2.isAlpha = false := by decide
  exact hall _ h

private theorem cut?_cons_eq_some_iff : cut? (opening :: s) = some (body, letters) ↔
    ∃ closing, closing? opening = some closing ∧
      Text.splitLast? closing s = some (body, letters) ∧ letters.all Char.isAlpha = true := by
  simp only [cut?, Option.bind_eq_bind, Option.bind_eq_some_iff, Option.guard_eq_some',
    Option.pure_def, Option.some.injEq, Prod.eta]
  constructor
  · rintro ⟨closing, hc, _, hs, _, ha, rfl⟩
    exact ⟨closing, hc, hs, ha⟩
  · rintro ⟨closing, hc, hs, ha⟩
    exact ⟨closing, hc, _, hs, (), ha, rfl⟩

namespace Wrapping

private theorem closing_not_mem (w : Wrapping) : w.closing ∉ w.letters := by
  intro hm
  have hc := w.isAlpha_letters _ hm
  rw [isAlpha_closing w.paired] at hc
  cases hc

private theorem cut?_text (w : Wrapping) : cut? w.text = some (w.body, w.letters) := by
  apply cut?_cons_eq_some_iff.2
  refine ⟨w.closing, closing?_eq_some_iff.2 w.paired, ?_, List.all_eq_true.2 w.isAlpha_letters⟩
  exact Text.splitLast?_eq_some_iff.2 ⟨rfl, w.closing_not_mem⟩

private theorem exists_of_cut? (h : cut? s = some (body, letters)) :
    ∃ w : Wrapping, w.text = s ∧ w.body = body ∧ w.letters = letters := by
  cases s with
  | nil => cases h
  | cons opening rest =>
    obtain ⟨closing, hc, hs, ha⟩ := cut?_cons_eq_some_iff.1 h
    obtain ⟨rfl, _⟩ := Text.splitLast?_eq_some_iff.1 hs
    exact ⟨⟨opening, closing, body, letters, closing?_eq_some_iff.1 hc, List.all_eq_true.1 ha⟩,
      rfl, rfl, rfl⟩

/-- The opening delimiter is read off the text and tells the closing one. The rest is what the text
is cut into. -/
theorem text_injective {w v : Wrapping} (h : w.text = v.text) : w = v := by
  have hcut := w.cut?_text
  rw [h, v.cut?_text] at hcut
  obtain ⟨hbody, hletters⟩ := Prod.mk.inj (Option.some.inj hcut)
  have hopening : w.opening = v.opening := (List.cons.inj h).1
  have hclosing := closing?_eq_some_iff.2 w.paired
  rw [hopening, closing?_eq_some_iff.2 v.paired] at hclosing
  ext1
  · exact hopening
  · exact (Option.some.inj hclosing).symm
  · exact hbody.symm
  · exact hletters.symm

private theorem cut?_eq_none_iff : cut? s = none ↔ ∀ w : Wrapping, w.text ≠ s := by
  constructor
  · rintro hn w rfl
    rw [w.cut?_text] at hn
    cases hn
  · intro hw
    apply Option.eq_none_iff_forall_not_mem.2
    rintro ⟨body, letters⟩ hcut
    obtain ⟨w, htext, _⟩ := exists_of_cut? hcut
    exact hw w htext

end Wrapping

private theorem compile?_of_cut?_eq_none (h : cut? s = none) : compile? s = Expr.ofText? {} s := by
  ext p
  simp [compile?, source?, h, Expr.ofText?, Option.bind_eq_some_iff, Option.guard_eq_some',
    Option.filter_eq_some_iff]

/-- A wrapped pattern is cut into its body and its flags. What is cut was wrapped, in one way only.
Any other text is cut nowhere, and the whole of it is the expression. -/
theorem cut_where_wrapped :
    (∀ w : Wrapping, cut? w.text = some (w.body, w.letters)) ∧
    (∀ s body letters, cut? s = some (body, letters) →
      ∃ w : Wrapping, w.text = s ∧ w.body = body ∧ w.letters = letters ∧
        ∀ v : Wrapping, v.text = s → v = w) ∧
    ∀ s, (∀ w : Wrapping, w.text ≠ s) → cut? s = none ∧ compile? s = Expr.ofText? {} s := by
  refine ⟨Wrapping.cut?_text, fun s body letters h => ?_, fun s h => ?_⟩
  · obtain ⟨w, rfl, hbody, hletters⟩ := Wrapping.exists_of_cut? h
    exact ⟨w, rfl, hbody, hletters, fun v => Wrapping.text_injective⟩
  · have hn := Wrapping.cut?_eq_none_iff.2 h
    exact ⟨hn, compile?_of_cut?_eq_none hn⟩

theorem cut_where_wrapped_of_brace_in_body :
    let s := "\x7ba\x7db\x7dx".toList
    let t := "/a/1".toList
    (cut? s = some ("a\x7db".toList, ['x']) ∧ ∀ w : Wrapping, w.text ≠ t) ∧
      (∃ w : Wrapping, w.text = s ∧ w.body = "a\x7db".toList ∧ w.letters = ['x'] ∧
        ∀ v : Wrapping, v.text = s → v = w) ∧
      cut? t = none ∧ compile? t = Expr.ofText? {} t := by
  intro s t
  have hcut : cut? s = some ("a\x7db".toList, ['x']) := by decide
  have hbare : ∀ w : Wrapping, w.text ≠ t := Wrapping.cut?_eq_none_iff.1 (by decide)
  obtain ⟨_, hunique, hnone⟩ := cut_where_wrapped
  exact ⟨⟨hcut, hbare⟩, hunique s _ _ hcut, hnone t hbare⟩

end FormCheck.Pattern
