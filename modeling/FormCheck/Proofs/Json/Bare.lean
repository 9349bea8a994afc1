import FormCheck.Json.Token

/-!
JSON texts without a quotation mark. Such a text has no strings, so its tokens are made of a few
characters, none of which is a character of markup.
-/
namespace FormCheck.Json

/-- The characters of white space and of the tokens other than strings. -/
def isBare (c : Char) : Bool :=
  isSpace c || c.isAlphanum || "[]\x7b\x7d,:+-.".toList.contains c

private theorem isBare_of_isDigit {c : Char} (h : c.isDigit = true) : isBare c = true := by
  simp [isBare, Char.isAlphanum, h]

def Passes (cs rest : List Char) : Prop :=
  ∃ read, cs = read ++ rest ∧ ∀ c ∈ read, isBare c = true

namespace Passes

variable {cs ds rest : List Char} {c : Char}

theorem refl (cs : List Char) : Passes cs cs :=
  ⟨[], rfl, fun _ h => nomatch h⟩

theorem trans (h : Passes cs ds) (hr : Passes ds rest) : Passes cs rest := by
  obtain ⟨read, rfl, hread⟩ := h
  obtain ⟨more, rfl, hmore⟩ := hr
  refine ⟨read ++ more, by rw [List.append_assoc], fun d hd => ?_⟩
  rcases List.mem_append.1 hd with hm | hm
  · exact hread d hm
  · exact hmore d hm

theorem cons (hc : isBare c = true) (h : Passes cs rest) : Passes (c :: cs) rest := by
  obtain ⟨read, rfl, hread⟩ := h
  exact ⟨c :: read, rfl, List.forall_mem_cons.2 ⟨hc, hread⟩⟩

private theorem not_mem (h : Passes cs rest) (hc : c ∉ cs) : c ∉ rest := by
  obtain ⟨read, rfl, _⟩ := h
  exact fun hm => hc (List.mem_append_right _ hm)

private theorem forall_isBare (h : Passes cs rest) (hr : ∀ c ∈ rest, isBare c = true) :
    ∀ c ∈ cs, isBare c = true := by
  obtain ⟨read, rfl, hread⟩ := h
  exact List.forall_mem_append.2 ⟨hread, hr⟩

end Passes

variable {cs rest : List Char}

private theorem scanDigits_passes {digits : List Char} (h : scanDigits cs = some (digits, rest)) :
    Passes cs rest := by
  simp only [scanDigits] at h
  split at h
  · cases h
  · cases h
    refine ⟨cs.takeWhile Char.isDigit, List.takeWhile_append_dropWhile.symm, fun c hc => ?_⟩
    exact isBare_of_isDigit (List.all_eq_true.1 List.all_takeWhile c hc)

private theorem scanWhole_passes {whole : List Char} (h : scanWhole cs = some (whole, rest)) :
    Passes cs rest := by
  unfold scanWhole at h
  split at h
  · cases h
    exact .cons (by decide) (.refl _)
  · exact scanDigits_passes h

private theorem scanFraction_passes {fraction : Option (List Char)}
    (h : scanFraction cs = some (fraction, rest)) : Passes cs rest := by
  unfold scanFraction at h
  split at h
  · obtain ⟨⟨digits, after⟩, hd, he⟩ := Option.map_eq_some_iff.1 h
    cases he
    exact .cons (by decide) (scanDigits_passes hd)
  · cases h
    exact .refl _

private theorem scanExponent_passes {exponent : Option (Bool × List Char)}
    (h : scanExponent cs = some (exponent, rest)) : Passes cs rest := by
  unfold scanExponent at h
  split at h
  · next c cs =>
    split at h
    · next hc =>
      obtain ⟨⟨digits, after⟩, hd, he⟩ := Option.map_eq_some_iff.1 h
      cases he
      refine .cons (by rcases hc with rfl | rfl <;> decide) ?_
      split at hd
      · exact .cons (by decide) (scanDigits_passes hd)
      · exact .cons (by decide) (scanDigits_passes hd)
      · exact scanDigits_passes hd
    · cases h
      exact .refl _
  · cases h
    exact .refl _

private theorem scanNumeral_passes {n : Numeral} (h : scanNumeral cs = some (n, rest)) :
    Passes cs rest := by
  simp only [scanNumeral, Option.bind_eq_bind, Option.bind_eq_some_iff, Prod.exists] at h
  obtain ⟨whole, afterWhole, hw, fraction, afterFraction, hf, exponent, afterExponent, he, hn⟩ := h
  cases hn
  have hparts := (scanFraction_passes hf).trans (scanExponent_passes he)
  split at hw
  · exact .cons (by decide) ((scanWhole_passes hw).trans hparts)
  · exact (scanWhole_passes hw).trans hparts

private theorem scanToken_passes {t : Option Token} (h : scanToken cs = some (t, rest))
    (hq : '"' ∉ cs) : Passes cs rest := by
  unfold scanToken at h
  split at h
  case h_1 => cases h
  case h_11 => simp at hq
  case h_12 c cs _ =>
    split at h
    · next hs =>
      cases h
      exact .cons (by simp [isBare, hs]) (.refl _)
    · obtain ⟨⟨n, after⟩, hn, he⟩ := Option.map_eq_some_iff.1 h
      cases he
      exact scanNumeral_passes hn
  -- The brackets, the signs and the three words, character by character.
  all_goals
    cases h
    repeat refine .cons (by decide) ?_
    exact .refl _

theorem isBare_of_scanTokens {read ts : List Token} {fuel : Nat}
    (h : scanTokens read cs fuel = some ts) (hq : '"' ∉ cs) : ∀ c ∈ cs, isBare c = true := by
  induction fuel generalizing read cs with
  | zero =>
    unfold scanTokens at h
    split at h
    · next he => simp [List.isEmpty_iff.1 he]
    · cases h
  | succ fuel ih =>
    unfold scanTokens at h
    split at h
    · next he => simp [List.isEmpty_iff.1 he]
    · split at h
      · cases h
      · next rest hs =>
        have hp := scanToken_passes hs hq
        exact hp.forall_isBare (ih h (hp.not_mem hq))
      · next t rest hs =>
        have hp := scanToken_passes hs hq
        exact hp.forall_isBare (ih h (hp.not_mem hq))

end FormCheck.Json
