import FormCheck.Json.Value
import FormCheck.Proofs.Decimal.Numeral

/-!
Strings and whole numbers as JSON writes them, scanned again. A string gives its characters, the
control characters that have no letter of their own as code units; a number gives its digits, and
these its value if that has no more than 64 bits.
-/
namespace FormCheck.Json

section Strings

variable {c e : Char} {cs : List Char}

private theorem scanString_plain (hquote : c ≠ '"') (hslash : c ≠ '\\') (hlow : ¬c.toNat < 0x20) :
    scanString (c :: cs) = (scanString cs).map fun r => (.char c :: r.1, r.2) := by
  rw [scanString.eq_def, Option.map_eq_bind]
  split
  case h_5 h =>
    cases h
    rw [if_neg hlow]
    rfl
  all_goals simp_all

private theorem scanString_short (h : escaped? e = some c) :
    scanString ('\\' :: e :: cs) = (scanString cs).map fun r => (.char c :: r.1, r.2) := by
  have hu : e ≠ 'u' := by
    rintro rfl
    cases h
  rw [scanString.eq_def, Option.map_eq_bind]
  split
  case h_4 he =>
    cases he
    rw [h]
    rfl
  case h_5 hslash h => cases h; exact (hslash _ _ rfl rfl).elim
  all_goals simp_all

private theorem hexValue?_hexDigit {n : Nat} (h : n < 16) :
    Text.hexValue? (hexDigit n) = some n := by
  revert n
  decide

private theorem scanString_code {n : Nat} (h : n < 0x20) :
    scanString (['\\', 'u', '0', '0', hexDigit (n / 16), hexDigit (n % 16)] ++ cs) =
      (scanString cs).map fun r => (.code n :: r.1, r.2) := by
  have hhigh := hexValue?_hexDigit (n := n / 16) (by omega)
  have hlow := hexValue?_hexDigit (n := n % 16) (by omega)
  have hzero : Text.hexValue? '0' = some 0 := rfl
  have hcode : 16 * (n / 16) + n % 16 = n := Nat.div_add_mod _ _
  rw [Option.map_eq_bind]
  change _ = (scanString cs).bind fun r => some (.code n :: r.1, r.2)
  simp [scanString, Text.readHex?, hhigh, hlow, hzero, hcode]

/-- The unit that is read where a character was written: a control character without a letter of its
own is written as its code. -/
def unitOf (c : Char) : Unit :=
  if c.toNat < 0x20 ∧ c ∉ ['\x08', '\x0C', '\n', '\r', '\t'] then .code c.toNat else .char c

private theorem scanString_escape (c : Char) (cs : List Char) :
    scanString (escape c ++ cs) = (scanString cs).map fun r => (unitOf c :: r.1, r.2) := by
  unfold escape
  split
  case h_8 hquote hslash hb hf hn hr ht =>
    split
    · next hlow =>
      rw [unitOf, if_pos ⟨hlow, by simp_all⟩]
      exact scanString_code hlow
    · next hlow =>
      rw [unitOf, if_neg fun h => hlow h.1]
      exact scanString_plain hquote hslash hlow
  all_goals exact scanString_short rfl

private theorem scanString_escaped (s rest : List Char) :
    scanString (s.flatMap escape ++ '"' :: rest) = some (s.map unitOf, rest) := by
  induction s with
  | nil => rfl
  | cons c s ih =>
    rw [List.flatMap_cons, List.append_assoc, scanString_escape, ih]
    rfl

private theorem textOf?_code {n : Nat} (h : n < 0xD800) (us : List Unit) :
    textOf? (.code n :: us) = (textOf? us).map (Char.ofNat n :: ·) := by
  match us with
  | .code m :: us => rw [textOf?, if_neg (by omega), if_neg (by omega)]
  | [] | .char _ :: _ =>
    have hn : ¬(0xD800 ≤ n ∧ n < 0xE000) := by omega
    simp only [textOf?, if_neg hn]

private theorem textOf?_unitOf (c : Char) (us : List Unit) :
    textOf? (unitOf c :: us) = (textOf? us).map (c :: ·) := by
  unfold unitOf
  split
  · next h => rw [textOf?_code (by omega), Char.ofNat_toNat]
  · rw [textOf?]

private theorem textOf?_map_unitOf (s : List Char) : textOf? (s.map unitOf) = some s := by
  induction s with
  | nil => rfl
  | cons c s ih =>
    rw [List.map_cons, textOf?_unitOf, ih]
    rfl

theorem scanToken_quote (s : String) (rest : List Char) :
    scanToken ((quote s).toList ++ rest) = some (some (.string (s.toList.map unitOf)), rest) := by
  rw [quote, String.toList_ofList, List.cons_append, List.cons_append, List.append_assoc,
    List.singleton_append, scanToken, scanString_escaped]
  rfl

theorem stringOf?_map_unitOf (s : String) : stringOf? (s.toList.map unitOf) = some s := by
  rw [stringOf?, textOf?_map_unitOf, Option.map_some, String.ofList_toList]

end Strings

section Numbers

/-- Behind a value inside of others, or at the end: a number does not go on here. -/
def Stops (rest : List Char) : Prop :=
  ∀ c ∈ rest.head?, c = ',' ∨ c = ']' ∨ c = '\x7d'

variable {c : Char} {rest digits : List Char} {n : Int}

theorem Stops.isDigit (h : Stops rest) : ∀ c ∈ rest.head?, c.isDigit = false := by
  intro c hc
  rcases h c hc with rfl | rfl | rfl <;> rfl

private theorem scanDigits_append (hne : digits ≠ []) (hd : ∀ c ∈ digits, c.isDigit = true)
    (hr : Stops rest) : scanDigits (digits ++ rest) = some (digits, rest) := by
  obtain ⟨htake, hdrop⟩ := Decimal.takeWhile_append_of_head? hd hr.isDigit
  rw [scanDigits, htake, hdrop]
  exact if_neg (by simpa using hne)

private theorem head?_toDigits {n : Nat} (h : 0 < n) : (Nat.toDigits 10 n).head? ≠ some '0' := by
  induction n using Nat.strongRecOn with
  | ind n ih =>
    rcases Nat.lt_or_ge n 10 with hn | hn
    · have hdigit : ∀ n < 10, 0 < n → [n.digitChar].head? ≠ some '0' := by decide
      rw [Nat.toDigits_of_lt_base hn]
      exact hdigit n hn h
    · rw [Nat.toDigits_of_base_le (by decide) hn,
        List.head?_append_of_ne_nil _ Nat.toDigits_ne_nil]
      exact ih (n / 10) (by omega) (by omega)

private theorem toDigits_append_ne_cons {n : Nat} (h : (Nat.toDigits 10 n).head? ≠ some c)
    (rest cs : List Char) : Nat.toDigits 10 n ++ rest ≠ c :: cs := by
  intro hcons
  have hhead := congrArg List.head? hcons
  rw [List.head?_append_of_ne_nil _ Nat.toDigits_ne_nil] at hhead
  exact h hhead

private theorem scanWhole_toDigits (n : Nat) (hr : Stops rest) :
    scanWhole (Nat.toDigits 10 n ++ rest) = some (Nat.toDigits 10 n, rest) := by
  rcases Nat.eq_zero_or_pos n with rfl | hn
  · rfl
  · unfold scanWhole
    split
    · next cs h => exact (toDigits_append_ne_cons (head?_toDigits hn) rest cs h).elim
    · exact scanDigits_append Nat.toDigits_ne_nil (Decimal.isDigit_of_mem_toDigits n) hr

private theorem scanFraction_of_stops (h : Stops rest) : scanFraction rest = some (none, rest) := by
  unfold scanFraction
  split
  · rcases h '.' rfl with h | h | h <;> cases h
  · rfl

private theorem scanExponent_of_stops (h : Stops rest) : scanExponent rest = some (none, rest) := by
  match rest with
  | [] => rfl
  | c :: cs =>
    unfold scanExponent
    refine if_neg ?_
    rcases h c rfl with rfl | rfl | rfl <;> decide

def numeralOf (n : Int) : Numeral :=
  ⟨decide (n < 0), Nat.toDigits 10 n.natAbs, none, none⟩

private theorem toList_toString (n : Int) : (toString n).toList =
    (if n < 0 then ['-'] else []) ++ Nat.toDigits 10 n.natAbs := by
  rw [Int.toString_eq_repr, Int.repr_eq_if]
  rcases Int.lt_or_le n 0 with hn | hn
  · rw [if_neg (by omega), if_pos hn, String.toList_append, Nat.toList_repr]
    have habs : (-n).toNat = n.natAbs := by omega
    rw [habs]
    rfl
  · rw [if_pos hn, if_neg (by omega), Nat.toList_repr]
    have habs : n.toNat = n.natAbs := by omega
    rw [habs]
    rfl

theorem exists_head_toString (n : Int) :
    ∃ c cs, (toString n).toList = c :: cs ∧ (c = '-' ∨ c.isDigit = true) := by
  rw [toList_toString]
  split
  · exact ⟨'-', _, rfl, .inl rfl⟩
  · obtain ⟨c, cs, h⟩ := List.exists_cons_of_ne_nil (Nat.toDigits_ne_nil (b := 10) (n := n.natAbs))
    exact ⟨c, cs, h, .inr (Decimal.isDigit_of_mem_toDigits _ c (h ▸ List.mem_cons_self))⟩

private theorem scanNumeral_toString (n : Int) (hr : Stops rest) :
    scanNumeral ((toString n).toList ++ rest) = some (numeralOf n, rest) := by
  have hwhole := scanWhole_toDigits n.natAbs hr
  have hfraction := scanFraction_of_stops hr
  have hexponent := scanExponent_of_stops hr
  have hminus : (Nat.toDigits 10 n.natAbs).head? ≠ some '-' := fun h => by
    cases Decimal.isDigit_of_mem_toDigits _ '-' (List.mem_of_head? h)
  rw [toList_toString, List.append_assoc]
  unfold scanNumeral numeralOf
  rcases Int.lt_or_le n 0 with hn | hn
  · simp [hn, hwhole, hfraction, hexponent]
  · rw [if_neg (by omega), List.nil_append, decide_eq_false (by omega)]
    split
    next h =>
    split at h
    · next hcons => exact (toDigits_append_ne_cons hminus rest _ hcons).elim
    · cases h
      simp [hwhole, hfraction, hexponent]

private theorem scanToken_number (h : c = '-' ∨ c.isDigit = true) (cs : List Char) :
    scanToken (c :: cs) =
      (scanNumeral (c :: cs)).map fun r => (some (.number r.1), r.2) := by
  have hspace : isSpace c = false := by
    rw [← Bool.not_eq_true, isSpace]
    simp only [Bool.or_eq_true, beq_iff_eq]
    rintro (((rfl | rfl) | rfl) | rfl) <;> simp at h
  rw [scanToken.eq_def]
  split
  case h_12 hcons =>
    cases hcons
    rw [hspace]
    rfl
  all_goals simp_all

theorem scanToken_toString (n : Int) (hr : Stops rest) :
    scanToken ((toString n).toList ++ rest) = some (some (.number (numeralOf n)), rest) := by
  obtain ⟨c, cs, htext, hc⟩ := exists_head_toString n
  have hscan := scanNumeral_toString n hr
  rw [htext, List.cons_append] at hscan ⊢
  rw [scanToken_number hc, hscan]
  rfl

private theorem le_foldl_digits (digits : List Char) (n : Nat) :
    n ≤ digits.foldl (fun n c => 10 * n + Decimal.digitValue c) n := by
  induction digits generalizing n with
  | nil => exact Nat.le_refl n
  | cons c digits ih => exact Nat.le_trans (by omega) (ih (10 * n + Decimal.digitValue c))

private theorem absorb_eq (digits : List Char) (n : Nat)
    (h : digits.foldl (fun n c => 10 * n + Decimal.digitValue c) n ≤ Numeral.wordMax) :
    Numeral.absorb n digits =
      (digits.foldl (fun n c => 10 * n + Decimal.digitValue c) n, digits.length) := by
  induction digits generalizing n with
  | nil => rfl
  | cons c digits ih =>
    rw [List.foldl_cons] at h ⊢
    have hnext : n * 10 + Decimal.digitValue c = 10 * n + Decimal.digitValue c := by omega
    rw [Numeral.absorb]
    dsimp only
    rw [hnext, if_neg (Nat.not_lt.2 ((le_foldl_digits digits _).trans h)), ih _ h]
    rfl

theorem value?_numeralOf (hlow : -9223372036854775808 ≤ n) (hhigh : n ≤ 18446744073709551615) :
    (numeralOf n).value? = some (.int n) := by
  have hdigits : (Nat.toDigits 10 n.natAbs).foldl
      (fun n c => 10 * n + Decimal.digitValue c) 0 = n.natAbs :=
    Decimal.natOfDigits_toDigits n.natAbs
  have habsorb := absorb_eq (Nat.toDigits 10 n.natAbs) 0 (by rw [hdigits, Numeral.wordMax]; omega)
  rw [hdigits] at habsorb
  unfold Numeral.value? numeralOf
  rw [habsorb]
  dsimp only
  rw [if_neg (Nat.lt_irrefl _)]
  rcases Int.lt_or_le n 0 with hn | hn
  · have habs : -(n.natAbs : Int) = n := by omega
    rw [decide_eq_true hn, if_neg (by decide), if_neg (by omega), habs]
  · have habs : (n.natAbs : Int) = n := by omega
    rw [decide_eq_false (by omega), if_pos (by decide), habs]

end Numbers

end FormCheck.Json
