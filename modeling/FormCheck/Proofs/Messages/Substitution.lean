import Mathlib.Data.List.Forall2
import Mathlib.Data.List.TakeWhile
import FormCheck.Messages.Template
import FormCheck.Proofs.Text.Blank
import FormCheck.Proofs.Text.Split

/-!
What becomes of a template. It can be cut in one way only, and each token of the cutting becomes the
value of the first pair with its name, all at once: no text that is put in is looked at again. A
pass that copies up to the next colon and goes on behind the name gives the same.
-/
namespace FormCheck.Template

/-- The pieces make up the template, every colon begins a token, and names go on as long as they
can. -/
structure IsCutting (template : List Char) (cutting : List Piece) : Prop where
  source : cutting.flatMap Piece.source = template
  colons : ∀ c, .char c ∈ cutting → c ≠ ':'
  names : ∀ name, .token name ∈ cutting → ∀ c ∈ name, isNameChar c = true
  longest : ∀ before name after, cutting = before ++ .token name :: after →
    (after.flatMap Piece.source).head?.any isNameChar = false

/-- What a piece may become. A lone colon is never replaced, even if there is a pair for it. -/
inductive Piece.Becomes (pairs : List (String × String)) : Piece → List Char → Prop where
  | copied (c : Char) : Becomes pairs (.char c) [c]
  | replaced {name : List Char} {value : String} {before after : List (String × String)} :
      name ≠ [] → pairs = before ++ (String.ofList name, value) :: after →
      (∀ p ∈ before, p.1 ≠ String.ofList name) → Becomes pairs (.token name) value.toList
  | kept {name : List Char} : (name ≠ [] → ∀ p ∈ pairs, p.1 ≠ String.ofList name) →
      Becomes pairs (.token name) (':' :: name)

variable {pairs : List (String × String)} {template name rest : List Char} {c : Char}
  {cutting : List Piece} {piece : Piece}

section Cutting

private theorem pieces_cons_of_ne (h : c ≠ ':') (cs : List Char) :
    pieces (c :: cs) = .char c :: pieces cs := by
  rw [pieces, cut, if_neg h, pieces]

private theorem cut_some (hn : ∀ c ∈ name, isNameChar c = true)
    (hr : rest.head?.any isNameChar = false) (begun : List Char) :
    cut (some begun) (name ++ rest) = .token (begun.reverse ++ name) :: pieces rest := by
  induction name generalizing begun with
  | nil =>
    rw [List.nil_append, List.append_nil, pieces]
    cases rest with
    | nil => rfl
    | cons c cs =>
      have hc : isNameChar c = false := hr
      rw [cut, cut, if_neg (by rw [hc]; exact Bool.false_ne_true)]
      split <;> rfl
  | cons c name ih =>
    obtain ⟨hc, hname⟩ := List.forall_mem_cons.1 hn
    rw [List.cons_append, cut, if_pos hc, ih hname, List.reverse_cons, List.append_assoc]
    rfl

private theorem pieces_colon (hn : ∀ c ∈ name, isNameChar c = true)
    (hr : rest.head?.any isNameChar = false) :
    pieces (':' :: (name ++ rest)) = .token name :: pieces rest := by
  rw [pieces, cut, if_pos rfl, cut_some hn hr]
  rfl

private theorem pieces_colon_run (cs : List Char) :
    pieces (':' :: cs) = .token (cs.takeWhile isNameChar) :: pieces (cs.dropWhile isNameChar) := by
  have hn : ∀ c ∈ cs.takeWhile isNameChar, isNameChar c = true := fun c => List.mem_takeWhile_imp
  have hs := pieces_colon hn (Text.head?_dropWhile isNameChar cs)
  rwa [List.takeWhile_append_dropWhile] at hs

namespace IsCutting

theorem nil : IsCutting [] [] where
  source := rfl
  colons := nofun
  names := nofun
  longest := by simp

theorem char (hc : c ≠ ':') (h : IsCutting rest cutting) :
    IsCutting (c :: rest) (.char c :: cutting) where
  source := by
    rw [List.flatMap_cons, h.source]
    rfl
  colons := by simpa [hc] using h.colons
  names := by simpa using h.names
  longest := by
    intro before name after hs
    cases before with
    | nil => cases hs
    | cons piece before =>
      exact h.longest before name after (List.cons.inj hs).2

theorem token (hn : ∀ c ∈ name, isNameChar c = true) (hr : rest.head?.any isNameChar = false)
    (h : IsCutting rest cutting) : IsCutting (':' :: (name ++ rest)) (.token name :: cutting) where
  source := by
    rw [List.flatMap_cons, h.source]
    rfl
  colons := by simpa using h.colons
  names := by
    simp only [List.mem_cons, Piece.token.injEq]
    rintro other (rfl | hm)
    · exact hn
    · exact h.names other hm
  longest := by
    intro before name after hs
    cases before with
    | nil =>
      cases hs
      rw [h.source]
      exact hr
    | cons piece before =>
      exact h.longest before name after (List.cons.inj hs).2

private theorem tail (h : IsCutting template (piece :: cutting)) :
    IsCutting (cutting.flatMap Piece.source) cutting where
  source := rfl
  colons c hc := h.colons c (List.mem_cons_of_mem _ hc)
  names name hn := h.names name (List.mem_cons_of_mem _ hn)
  longest before name after hs := h.longest (piece :: before) name after (by rw [hs]; rfl)

private theorem eq_pieces (h : IsCutting template cutting) : cutting = pieces template := by
  induction cutting generalizing template with
  | nil =>
    rw [← h.source]
    rfl
  | cons piece cutting ih =>
    have htail := ih h.tail
    rw [← h.source, List.flatMap_cons]
    cases piece with
    | char c =>
      have hs := pieces_cons_of_ne (h.colons c List.mem_cons_self) (cutting.flatMap Piece.source)
      rw [← htail] at hs
      exact hs.symm
    | token name =>
      have hs := pieces_colon (h.names name List.mem_cons_self) (h.longest [] name cutting rfl)
      rw [← htail] at hs
      exact hs.symm

end IsCutting

theorem isCutting_pieces (template : List Char) : IsCutting template (pieces template) := by
  induction hl : template.length using Nat.strongRecOn generalizing template with
  | ind n ih =>
    cases template with
    | nil => exact .nil
    | cons c cs =>
      by_cases hc : c = ':'
      · subst hc
        have hle : (cs.dropWhile isNameChar).length ≤ cs.length :=
          (List.dropWhile_sublist isNameChar).length_le
        have hlt : (cs.dropWhile isNameChar).length < n := by
          rw [← hl, List.length_cons]
          omega
        have hn : ∀ c ∈ cs.takeWhile isNameChar, isNameChar c = true :=
          fun c => List.mem_takeWhile_imp
        have ht := IsCutting.token hn (Text.head?_dropWhile isNameChar cs) (ih _ hlt _ rfl)
        rw [List.takeWhile_append_dropWhile] at ht
        rw [pieces_colon_run]
        exact ht
      · rw [pieces_cons_of_ne hc]
        exact .char hc (ih _ (by rw [← hl]; exact Nat.lt_succ_self _) cs rfl)

end Cutting

section Replacing

private theorem replacement?_eq_none_iff :
    replacement? pairs name = none ↔ (name ≠ [] → ∀ p ∈ pairs, p.1 ≠ String.ofList name) := by
  rw [replacement?]
  by_cases hn : name = []
  · simp [hn]
  · rw [if_neg (by simpa using hn), Option.map_eq_none_iff, List.find?_eq_none]
    simp [hn]

private theorem replacement?_eq_some_iff {value : String} :
    replacement? pairs name = some value ↔ name ≠ [] ∧ ∃ before after,
      pairs = before ++ (String.ofList name, value) :: after ∧
        ∀ p ∈ before, p.1 ≠ String.ofList name := by
  rw [replacement?]
  by_cases hn : name = []
  · simp [hn]
  · rw [if_neg (by simpa using hn), Option.map_eq_some_iff]
    constructor
    · rintro ⟨⟨key, _⟩, hf, rfl⟩
      obtain ⟨hk, before, after, hs, hb⟩ := List.find?_eq_some_iff_append.1 hf
      have hkey : key = String.ofList name := beq_iff_eq.1 hk
      subst hkey
      exact ⟨hn, before, after, hs, fun p hp => by simpa using hb p hp⟩
    · rintro ⟨-, before, after, hs, hb⟩
      refine ⟨(String.ofList name, value), ?_, rfl⟩
      exact List.find?_eq_some_iff_append.2
        ⟨beq_self_eq_true _, before, after, hs, fun p hp => by simpa using hb p hp⟩

theorem becomes_iff {text : List Char} : piece.Becomes pairs text ↔ piece.fill pairs = text := by
  constructor
  · intro h
    cases h with
    | copied => rfl
    | replaced hn hs hb =>
      rw [Piece.fill, replacement?_eq_some_iff.2 ⟨hn, _, _, hs, hb⟩]
      rfl
    | kept h =>
      rw [Piece.fill, replacement?_eq_none_iff.2 h]
      rfl
  · rintro rfl
    cases piece with
    | char c => exact .copied c
    | token name =>
      cases hr : replacement? pairs name with
      | none =>
        rw [Piece.fill, hr]
        exact .kept (replacement?_eq_none_iff.1 hr)
      | some value =>
        obtain ⟨hn, before, after, hs, hb⟩ := replacement?_eq_some_iff.1 hr
        rw [Piece.fill, hr]
        exact .replaced hn hs hb

private theorem fill_filter {known : String → Bool}
    (h : ∀ name, piece = .token name → known (String.ofList name) = true) :
    piece.fill (pairs.filter fun p => known p.1) = piece.fill pairs := by
  cases piece with
  | char c => rfl
  | token name =>
    have hname := h name rfl
    have hfind : (pairs.filter fun p => known p.1).find? (fun p => p.1 == String.ofList name) =
        pairs.find? fun p => p.1 == String.ofList name := by
      rw [List.find?_filter]
      congr 1
      funext p
      by_cases hp : p.1 = String.ofList name
      · simp [hp, hname]
      · simp [hp]
    rw [Piece.fill, replacement?, hfind, Piece.fill, replacement?]

end Replacing

section Sweep

private theorem length_dropWhile_lt {before after : List Char}
    (h : Text.splitFirst? ':' rest = some (before, after)) :
    (after.dropWhile isNameChar).length < rest.length := by
  obtain ⟨rfl, -⟩ := Text.splitFirst?_eq_some_iff.1 h
  have hle : (after.dropWhile isNameChar).length ≤ after.length :=
    (List.dropWhile_sublist isNameChar).length_le
  rw [List.length_append, List.length_cons]
  omega

/-- A pass over a template, with the text written so far: what stands before a colon is copied, the
name behind it is taken as long as it goes, and the pass goes on behind the name. -/
def sweep (pairs : List (String × String)) (out rest : List Char) : List Char :=
  match _ : Text.splitFirst? ':' rest with
  | none => out ++ rest
  | some (before, after) =>
    sweep pairs (out ++ before ++ (Piece.token (after.takeWhile isNameChar)).fill pairs)
      (after.dropWhile isNameChar)
termination_by rest.length
decreasing_by exact length_dropWhile_lt ‹_›

private theorem pieces_append_of_not_mem (h : ':' ∉ name) (rest : List Char) :
    pieces (name ++ rest) = name.map .char ++ pieces rest := by
  induction name with
  | nil => rfl
  | cons c cs ih =>
    obtain ⟨hc, hcs⟩ := List.ne_and_not_mem_of_not_mem_cons h
    rw [List.cons_append, pieces_cons_of_ne (Ne.symm hc), ih hcs]
    rfl

private theorem flatMap_fill_char (s : List Char) :
    (s.map Piece.char).flatMap (Piece.fill pairs) = s := by
  induction s with
  | nil => rfl
  | cons c cs ih => rw [List.map_cons, List.flatMap_cons, ih]; rfl

/-- Whatever has been written, it stays, and the pieces of what is left follow filled. -/
theorem sweep_eq (out rest : List Char) :
    sweep pairs out rest = out ++ (pieces rest).flatMap (Piece.fill pairs) := by
  fun_induction sweep pairs out rest with
  | case1 out rest h =>
    have hp := pieces_append_of_not_mem (Text.splitFirst?_eq_none_iff.1 h) []
    rw [List.append_nil] at hp
    rw [hp, List.flatMap_append, flatMap_fill_char]
    simp [pieces, cut]
  | case2 out rest before after h ih =>
    obtain ⟨rfl, hb⟩ := Text.splitFirst?_eq_some_iff.1 h
    rw [ih, pieces_append_of_not_mem hb, pieces_colon_run, List.flatMap_append, flatMap_fill_char,
      List.flatMap_cons]
    simp only [List.append_assoc]

end Sweep

private theorem forall₂_becomes (pairs : List (String × String)) (cutting : List Piece) :
    List.Forall₂ (Piece.Becomes pairs) cutting (cutting.map (Piece.fill pairs)) := by
  rw [List.forall₂_map_right_iff, List.forall₂_same]
  exact fun piece _ => becomes_iff.2 rfl

/-- A template has one cutting, which no replacement has a part in. The result is that of its
pieces in order, each copied or, for a token, replaced by the value of the first pair with its name;
a pass that never goes back gives the same. Pairs for which there is no token, such as one for a
shorter name, are not seen, and without a pair for a token the template stays as it is. -/
theorem interpolate_substitutes (template : String) :
    ∃ cutting, IsCutting template.toList cutting ∧
      (∀ other, IsCutting template.toList other → other = cutting) ∧
      ∀ pairs,
        (∃ texts, List.Forall₂ (Piece.Becomes pairs) cutting texts ∧
          interpolate template pairs = String.ofList texts.flatten) ∧
        interpolate template pairs = String.ofList (sweep pairs [] template.toList) ∧
        interpolate template pairs =
          interpolate template (pairs.filter fun p => .token p.1.toList ∈ cutting) ∧
        ((∀ name ≠ [], .token name ∈ cutting → ∀ p ∈ pairs, p.1 ≠ String.ofList name) →
          interpolate template pairs = template) := by
  refine ⟨pieces template.toList, isCutting_pieces _, fun _ h => h.eq_pieces, fun pairs => ?_⟩
  refine ⟨⟨_, forall₂_becomes pairs _, ?_⟩, ?_, ?_, fun h => ?_⟩
  · rw [interpolate, List.flatMap]
  · rw [sweep_eq, List.nil_append, interpolate]
  · rw [interpolate, interpolate]
    congr 1
    apply List.flatMap_congr
    intro piece hp
    have hknown : ∀ name, piece = .token name →
        decide (Piece.token (String.ofList name).toList ∈ pieces template.toList) = true := by
      rintro name rfl
      simpa using hp
    exact (@fill_filter pairs piece
      (fun key => decide (Piece.token key.toList ∈ pieces template.toList)) hknown).symm
  · have hkept : ∀ piece ∈ pieces template.toList, piece.fill pairs = piece.source := by
      intro piece hp
      rw [← becomes_iff]
      cases piece with
      | char c => exact .copied c
      | token name => exact .kept fun hn => h name hn hp
    rw [interpolate, List.flatMap_congr hkept, source_pieces, String.ofList_toList]

/-- Pairs for a shorter name and for the lone colon are not used, and the colon of a value that is
put in begins no token. -/
theorem interpolate_of_touching_tokens :
    let template := "é:minimum :min:max : :ü"
    let cutting : List Piece := [.char 'é', .token "minimum".toList, .char ' ', .token "min".toList,
      .token "max".toList, .char ' ', .token [], .char ' ', .token [], .char 'ü']
    IsCutting template.toList cutting ∧
      interpolate template [("min", ":max"), ("", "x"), ("max", "9"), ("min", "7")] =
        "é:minimum :max9 : :ü" ∧
      (∀ name ≠ [], .token name ∈ cutting → ∀ p ∈ [("mini", "3"), ("", "x")],
        p.1 ≠ String.ofList name) ∧
      interpolate template [("mini", "3"), ("", "x")] = template := by
  intro template cutting
  obtain ⟨found, -, hunique, hresult⟩ := interpolate_substitutes template
  have hcutting : IsCutting template.toList cutting := by
    have hpieces : pieces template.toList = cutting := by decide
    rw [← hpieces]
    exact isCutting_pieces _
  have hnone : ∀ name ≠ [], .token name ∈ cutting → ∀ p ∈ [("mini", "3"), ("", "x")],
      p.1 ≠ String.ofList name := by
    have hkeys : ∀ p ∈ [("mini", "3"), ("", "x")], p.1.toList ≠ [] →
        Piece.token p.1.toList ∉ cutting := by decide
    rintro name hn hm p hp hk
    have hname : p.1.toList = name := by rw [hk, String.toList_ofList]
    exact hkeys p hp (by rwa [hname]) (by rwa [hname])
  refine ⟨hcutting, by decide, hnone, (hresult _).2.2.2 ?_⟩
  rw [← hunique cutting hcutting]
  exact hnone

end FormCheck.Template
