import FormCheck.Proofs.Sanitize
import FormCheck.Proofs.Text.Split
import FormCheck.Rules.Builtin

/-!
Tests that admit no character of markup. What a scanner passes over has none, so texts that are read
to their end hold none: identifiers, addresses, numbers, words of a list, and texts of letters.
-/
namespace FormCheck

namespace Markup

variable {s mid rest : List Char} {p : Char → Bool}

/-- What there is of markup in `s` is still there in `rest`. -/
def LeftIn (s rest : List Char) : Prop :=
  ∀ c ∈ s, isMarkup c = true → c ∈ rest

namespace LeftIn

theorem refl (s : List Char) : LeftIn s s := fun _ h _ => h

theorem trans (h : LeftIn s mid) (hr : LeftIn mid rest) : LeftIn s rest :=
  fun c hc hm => hr c (h c hc hm) hm

theorem cons {c : Char} (hc : isMarkup c = false) (h : LeftIn s rest) : LeftIn (c :: s) rest := by
  intro d hd hm
  rcases List.mem_cons.1 hd with rfl | hs
  · rw [hc] at hm
    cases hm
  · exact h d hs hm

private theorem not_isMarkup (h : LeftIn s []) : ∀ c ∈ s, isMarkup c = false := by
  intro c hc
  rw [← Bool.not_eq_true]
  exact fun hm => List.not_mem_nil (h c hc hm)

private theorem of_not_isMarkup (h : ∀ c ∈ s, isMarkup c = false) : LeftIn s [] := by
  intro c hc hm
  rw [h c hc] at hm
  cases hm

theorem of_all (hp : leavesOutMarkup p = true) (h : s.all p = true) : LeftIn s [] :=
  of_not_isMarkup fun c hc => isMarkup_of_class hp (List.all_eq_true.1 h c hc)

theorem dropWhile (hp : leavesOutMarkup p = true) (s : List Char) :
    LeftIn s (s.dropWhile p) := by
  induction s with
  | nil => exact refl _
  | cons c cs ih =>
    rw [List.dropWhile_cons]
    split
    · next hc => exact cons (isMarkup_of_class hp hc) ih
    · exact refl _

theorem strip (hp : leavesOutMarkup p = true) (s : List Char) : LeftIn s (Text.strip p s) := by
  intro c hc hm
  have hfirst := dropWhile hp s c hc hm
  -- The other end is cut in the reversed text.
  exact List.mem_reverse.2 (dropWhile hp _ c (List.mem_reverse.2 hfirst) hm)

end LeftIn

private theorem isMarkup_toLower {c : Char} (h : isMarkup c = true) :
    isMarkup c.toLower = true := by
  have hall : (['<', '>', '"', '\'', '&'].all fun d => isMarkup d.toLower) = true := by decide
  exact List.all_eq_true.1 hall c (isMarkup_iff.1 h)

end Markup

namespace Network

open Markup

variable {s rest : List Char}

private theorem scanOctet?_leftIn (h : scanOctet? s = some rest) : LeftIn s rest := by
  simp only [scanOctet?] at h
  split at h
  · cases h
  · cases h
    exact .dropWhile (by decide) s

private theorem scanGroup?_leftIn (h : scanGroup? s = some rest) : LeftIn s rest := by
  simp only [scanGroup?] at h
  split at h
  · cases h
  · cases h
    exact .dropWhile (by decide) s

private theorem separated?_leftIn {sep : Char} {i : Nat} {read : List Char → Option (List Char)}
    (hsep : isMarkup sep = false) (hread : ∀ {s rest}, read s = some rest → LeftIn s rest)
    (h : separated? sep i read s = some rest) : LeftIn s rest := by
  unfold separated? at h
  split at h
  · exact hread h
  · split at h
    · split at h
      · next hc =>
        subst hc
        exact .cons hsep (hread h)
      · cases h
    · cases h

private theorem scanV4?_leftIn (h : scanV4? s = some rest) : LeftIn s rest := by
  simp only [scanV4?, Option.bind_eq_bind, Option.bind_eq_some_iff] at h
  obtain ⟨first, h₁, second, h₂, third, h₃, h₄⟩ := h
  have hsep : ∀ {i s rest}, separated? '.' i scanOctet? s = some rest → LeftIn s rest :=
    separated?_leftIn (by decide) scanOctet?_leftIn
  exact (scanOctet?_leftIn h₁).trans ((hsep h₂).trans ((hsep h₃).trans (hsep h₄)))

private theorem scanGroups_leftIn (room i : Nat) (s : List Char) :
    LeftIn s (scanGroups i s room).2.2 := by
  induction room generalizing i s with
  | zero => exact .refl s
  | succ room ih =>
    unfold scanGroups
    split
    · -- Four octets end the groups, if there is room for them.
      next rest h =>
      split at h
      · exact separated?_leftIn (by decide) scanV4?_leftIn h
      · cases h
    · split
      · next rest h =>
        exact (separated?_leftIn (by decide) scanGroup?_leftIn h).trans (ih (i + 1) rest)
      · exact .refl s

private theorem not_isMarkup_of_isV4 (h : isV4 s = true) : ∀ c ∈ s, isMarkup c = false :=
  (scanV4?_leftIn (beq_iff_eq.1 h)).not_isMarkup

private theorem not_isMarkup_of_isV6 (h : isV6 s = true) : ∀ c ∈ s, isMarkup c = false := by
  have hs := scanGroups_leftIn 8 0 s
  unfold isV6 at h
  split at h
  · next rest he =>
    rw [he, List.isEmpty_iff.1 h] at hs
    exact hs.not_isMarkup
  · cases h
  · -- The groups before the double colon, the colons, and the groups behind it.
    next count rest _ he =>
    rw [he] at hs
    have hrest := scanGroups_leftIn (7 - count) 0 rest
    rw [List.isEmpty_iff.1 h] at hrest
    exact (hs.trans (.cons (by decide) (.cons (by decide) hrest))).not_isMarkup
  · cases h

private theorem not_isMarkup_of_isV4_or_isV6 (h : (isV4 s || isV6 s) = true) :
    ∀ c ∈ s, isMarkup c = false := by
  rcases Bool.or_eq_true_iff.1 h with h | h
  · exact not_isMarkup_of_isV4 h
  · exact not_isMarkup_of_isV6 h

end Network

namespace Decimal

open Markup

variable {s rest : List Char}

private theorem takeSign_leftIn (s : List Char) : LeftIn s (takeSign s).2 := by
  unfold takeSign
  split
  · exact .cons (by decide) (.refl _)
  · exact .cons (by decide) (.refl _)
  · exact .refl _

private theorem not_isMarkup_of_readExponent? {n : Int} (h : readExponent? s = some n) :
    ∀ c ∈ s, isMarkup c = false := by
  unfold readExponent? at h
  split at h
  · simp
  · next c cs =>
    split at h
    · next hc =>
      simp only at h
      split at h
      · next hd =>
        have hdigits := LeftIn.of_all (by decide) hd.2
        have hmark : isMarkup c = false := by rcases hc with rfl | rfl <;> decide
        exact (LeftIn.cons hmark ((takeSign_leftIn cs).trans hdigits)).not_isMarkup
      · cases h
    · cases h

private theorem not_isMarkup_of_read? {l : Literal} (h : Literal.read? s = some l) :
    ∀ c ∈ s, isMarkup c = false := by
  have hdigits : ∀ s, LeftIn s (s.dropWhile Char.isDigit) := .dropWhile (by decide)
  have hrest : LeftIn ((takeSign s).2.dropWhile Char.isDigit) [] := by
    simp only [Literal.read?] at h
    split at h
    · next cs hp =>
      split at h
      · cases h
      · obtain ⟨n, hn, -⟩ := Option.map_eq_some_iff.1 h
        have hexponent := LeftIn.of_not_isMarkup (not_isMarkup_of_readExponent? hn)
        rw [hp]
        exact .cons (by decide) ((hdigits cs).trans hexponent)
    · split at h
      · cases h
      · obtain ⟨n, hn, -⟩ := Option.map_eq_some_iff.1 h
        exact .of_not_isMarkup (not_isMarkup_of_readExponent? hn)
  exact ((takeSign_leftIn s).trans ((hdigits _).trans hrest)).not_isMarkup

end Decimal

namespace Checks

open Markup

variable {s : List Char}

private theorem not_isMarkup_of_uuid (h : uuid s = true) : ∀ c ∈ s, isMarkup c = false := by
  unfold uuid at h
  split at h
  · next a b c d e hs =>
    simp only [Bool.and_eq_true] at h
    intro x hx
    rcases Text.mem_splitOn '-' hx with rfl | ⟨group, hg, hm⟩
    · decide
    · rw [hs] at hg
      have hdigits := List.all_eq_true.1 h.1.1.2 group hg
      exact isMarkup_of_class (p := Text.isHexDigit) (by decide) (List.all_eq_true.1 hdigits x hm)
  · cases h

theorem not_isMarkup_of_all {p : Char → Bool} (hp : leavesOutMarkup p = true)
    (h : (!s.isEmpty && s.all p) = true) : ∀ c ∈ s, isMarkup c = false :=
  (LeftIn.of_all hp (Bool.and_eq_true_iff.1 h).2).not_isMarkup

private theorem not_isMarkup_of_readNumber? {s : String} {x : Double}
    (h : Value.readNumber? s = some x) : ∀ c ∈ s.toList, isMarkup c = false := by
  obtain ⟨l, hl, -⟩ := Option.map_eq_some_iff.1 h
  have hread := LeftIn.of_not_isMarkup (Decimal.not_isMarkup_of_read? hl)
  exact ((LeftIn.strip (by decide) s.toList).trans hread).not_isMarkup

private theorem toList_word (s : String) :
    (word s).toList = (Text.strip Text.isBlank s.toList).map Char.toLower := by
  rw [word, Text.lower, Text.trim, String.toList_ofList, String.toList_ofList]

private theorem not_isMarkup_of_word {s : String} {words : List String}
    (hw : (words.all fun w => w.toList.all fun c => !isMarkup c) = true)
    (h : words.contains (word s) = true) : ∀ c ∈ s.toList, isMarkup c = false := by
  have hplain := List.all_eq_true.1 (List.all_eq_true.1 hw (word s) (List.contains_iff_mem.1 h))
  have hstripped : LeftIn (Text.strip Text.isBlank s.toList) [] := by
    intro c hc hm
    have hl := hplain c.toLower (by rw [toList_word]; exact List.mem_map_of_mem hc)
    rw [isMarkup_toLower hm] at hl
    cases hl
  exact ((LeftIn.strip (by decide) s.toList).trans hstripped).not_isMarkup

end Checks

/-- With these parameters the test refuses every text that holds a character of markup. -/
def Test.RefusesMarkup (test : Test) (env : Surroundings) (params : List String) : Prop :=
  ∀ s : String, (∃ c ∈ ['<', '>', '"', '\'', '&'], c ∈ s.toList) →
    test env (.text s) params = false

namespace Test.RefusesMarkup

open Markup

variable {env : Surroundings} {params : List String}

private theorem of_not_isMarkup {test : Test}
    (h : ∀ s : String, test env (.text s) params = true → ∀ c ∈ s.toList, isMarkup c = false) :
    test.RefusesMarkup env params := by
  rintro s ⟨c, hm, hc⟩
  rw [← Bool.not_eq_true]
  intro ht
  have hp := h s ht c hc
  rw [isMarkup_iff.2 hm] at hp
  cases hp

theorem onText {test : List Char → Bool}
    (h : ∀ {s}, test s = true → ∀ c ∈ s, isMarkup c = false) :
    (Test.ofValue (Checks.onText test)).RefusesMarkup env params :=
  of_not_isMarkup fun _ ht => h ht

theorem numeric : (Test.ofValue Checks.numeric).RefusesMarkup env params := by
  refine of_not_isMarkup fun s h => ?_
  obtain ⟨x, hx⟩ := Option.isSome_iff_exists.1 h
  exact Checks.not_isMarkup_of_readNumber? hx

theorem boolean : (Test.ofValue Checks.boolean).RefusesMarkup env params := by
  refine of_not_isMarkup fun s h => ?_
  rw [Test.ofValue, Checks.boolean] at h
  exact Checks.not_isMarkup_of_word (by decide) h

theorem accepted : (Test.ofValue Checks.accepted).RefusesMarkup env params := by
  refine of_not_isMarkup fun s h => ?_
  rw [Test.ofValue, Checks.accepted] at h
  exact Checks.not_isMarkup_of_word (by decide) h

/-- Escaping leaves a text without markup alone and puts an ampersand into any other, so such a test
says the same of the cleaned text and of the stripped one. -/
theorem test_sanitizeText {test : Test} (h : test.RefusesMarkup env params) (s : String) :
    test env (.text (sanitizeText s)) params =
      test env (.text (String.ofList (stripPadding s.toList))) params := by
  by_cases hm : ∃ c ∈ stripPadding s.toList, isMarkup c = true
  · obtain ⟨c, hc, hm⟩ := hm
    have hraw : ∃ c ∈ ['<', '>', '"', '\'', '&'],
        c ∈ (String.ofList (stripPadding s.toList)).toList := by
      rw [String.toList_ofList]
      exact ⟨c, isMarkup_iff.1 hm, hc⟩
    have hclean : ∃ c ∈ ['<', '>', '"', '\'', '&'], c ∈ (sanitizeText s).toList := by
      rw [toList_sanitizeText]
      exact ⟨'&', by decide, ampersand_mem_escapeChars hm hc⟩
    rw [h _ hraw, h _ hclean]
  · have hp : ∀ c ∈ stripPadding s.toList, isMarkup c = false := by simpa using hm
    rw [sanitizeText, escapeChars_of_not_isMarkup hp]

end Test.RefusesMarkup

/-- The built-in rules that accept no text with a character of markup. -/
def plainNames : List String :=
  ["uuid", "ip", "ipv4", "ipv6", "alpha", "alpha_num", "alpha_dash", "numeric", "boolean",
    "accepted"]

theorem builtin_refusesMarkup :
    ∀ name ∈ plainNames, ∃ rule, Registry.builtin.get? name = some rule ∧
      ∀ env params, rule.test.RefusesMarkup env params := by
  intro name hn
  simp only [plainNames, List.mem_cons, List.not_mem_nil, or_false] at hn
  rcases hn with rfl | rfl | rfl | rfl | rfl | rfl | rfl | rfl | rfl | rfl
  · exact ⟨_, rfl, fun _ _ => .onText Checks.not_isMarkup_of_uuid⟩
  · exact ⟨_, rfl, fun _ _ => .onText Network.not_isMarkup_of_isV4_or_isV6⟩
  · exact ⟨_, rfl, fun _ _ => .onText Network.not_isMarkup_of_isV4⟩
  · exact ⟨_, rfl, fun _ _ => .onText Network.not_isMarkup_of_isV6⟩
  · exact ⟨_, rfl, fun _ _ => .onText (Checks.not_isMarkup_of_all (by decide))⟩
  · exact ⟨_, rfl, fun _ _ => .onText (Checks.not_isMarkup_of_all (by decide))⟩
  · exact ⟨_, rfl, fun _ _ => .onText (Checks.not_isMarkup_of_all (by decide))⟩
  · exact ⟨_, rfl, fun _ _ => .numeric⟩
  · exact ⟨_, rfl, fun _ _ => .boolean⟩
  · exact ⟨_, rfl, fun _ _ => .accepted⟩

end FormCheck
