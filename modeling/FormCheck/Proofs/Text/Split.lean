import FormCheck.Text.Split

/-!
What cutting and gluing keep. The characters of a cut text come from its pieces or from the
separator, no piece holds the separator, and pieces without it are found again when they are glued.
-/
namespace FormCheck.Text

variable {sep : Char} {s : List Char}

theorem splitFirst?_eq_some_iff {sep : Char} {s before after : List Char} :
    splitFirst? sep s = some (before, after) ↔ s = before ++ sep :: after ∧ sep ∉ before := by
  induction s generalizing before with
  | nil => simp [splitFirst?]
  | cons c cs ih =>
    unfold splitFirst?
    split
    · next h =>
      subst h
      cases before with
      | nil => simp [eq_comm]
      | cons b before => simp +contextual
    · next h =>
      cases before with
      | nil => simp [h]
      | cons b before =>
        simp only [Option.map_eq_some_iff, Prod.exists, Prod.mk.injEq, List.cons.injEq,
          List.cons_append, List.mem_cons, not_or]
        constructor
        · rintro ⟨p, q, hs, ⟨rfl, rfl⟩, rfl⟩
          obtain ⟨hcs, hp⟩ := ih.1 hs
          exact ⟨⟨rfl, hcs⟩, Ne.symm h, hp⟩
        · rintro ⟨⟨rfl, hcs⟩, _, hp⟩
          exact ⟨before, after, ih.2 ⟨hcs, hp⟩, ⟨rfl, rfl⟩, rfl⟩

theorem splitFirst?_eq_none_iff : splitFirst? sep s = none ↔ sep ∉ s := by
  induction s with
  | nil => simp [splitFirst?]
  | cons c cs ih =>
    unfold splitFirst?
    split
    · next h => simp [h]
    · next h => simp [ih, Ne.symm h]

theorem splitLast?_eq_none_iff : splitLast? sep s = none ↔ sep ∉ s := by
  induction s with
  | nil => simp [splitLast?]
  | cons c cs ih =>
    rw [List.mem_cons, not_or, ← ih, splitLast?]
    cases hs : splitLast? sep cs with
    | some p => simp
    | none => simp [eq_comm]

theorem splitLast?_eq_some_iff {sep : Char} {s before after : List Char} :
    splitLast? sep s = some (before, after) ↔ s = before ++ sep :: after ∧ sep ∉ after := by
  constructor
  · intro h
    induction s generalizing before with
    | nil => cases h
    | cons c cs ih =>
      unfold splitLast? at h
      split at h
      · next hs =>
        cases h
        obtain ⟨rfl, ha⟩ := ih hs
        exact ⟨rfl, ha⟩
      · next hs =>
        split at h
        · next hc =>
          cases h
          subst hc
          exact ⟨rfl, splitLast?_eq_none_iff.1 hs⟩
        · cases h
  · rintro ⟨rfl, h⟩
    induction before with
    | nil => simp [splitLast?, splitLast?_eq_none_iff.2 h]
    | cons b before ih => simp [splitLast?, ih]

theorem splitOn_of_not_mem (h : sep ∉ s) : splitOn sep s = [s] := by
  induction s with
  | nil => rfl
  | cons c cs ih =>
    obtain ⟨hc, hcs⟩ := List.ne_and_not_mem_of_not_mem_cons h
    rw [splitOn, if_neg (Ne.symm hc), ih hcs]

theorem splitOn_append_cons (sep : Char) (s rest : List Char) :
    splitOn sep (s ++ sep :: rest) = splitOn sep s ++ splitOn sep rest := by
  induction s with
  | nil => exact if_pos rfl
  | cons c cs ih =>
    rw [List.cons_append, splitOn, splitOn, ih]
    split
    · rfl
    · cases hs : splitOn sep cs with
      | nil => exact absurd hs (splitOn_ne_nil sep cs)
      | cons p ps => rfl

theorem joinWith_cons (sep p : List Char) (ps : List (List Char)) :
    joinWith sep (p :: ps) = p ++ ps.flatMap (sep ++ ·) := by
  induction ps generalizing p with
  | nil => rw [joinWith, List.flatMap_nil, List.append_nil]
  | cons q qs ih =>
    rw [joinWith, ih q, List.flatMap_cons, List.append_assoc, List.append_assoc]
    exact List.cons_ne_nil q qs

theorem joinWith_cons_cons (sep p q : List Char) (qs : List (List Char)) :
    joinWith sep (p :: q :: qs) = p ++ (sep ++ joinWith sep (q :: qs)) := by
  rw [joinWith]
  · exact List.append_assoc p sep _
  · simp

theorem splitOn_joinWith {pieces : List (List Char)} (hn : pieces ≠ [])
    (h : ∀ piece ∈ pieces, sep ∉ piece) : splitOn sep (joinWith [sep] pieces) = pieces := by
  induction pieces with
  | nil => exact absurd rfl hn
  | cons p ps ih =>
    obtain ⟨hp, hps⟩ := List.forall_mem_cons.1 h
    cases ps with
    | nil => exact splitOn_of_not_mem hp
    | cons q qs =>
      rw [joinWith_cons_cons, List.singleton_append, splitOn_append_cons, splitOn_of_not_mem hp,
        ih (by simp) hps]
      rfl

theorem not_mem_of_mem_splitOn {piece : List Char} (h : piece ∈ splitOn sep s) : sep ∉ piece := by
  induction s generalizing piece with
  | nil =>
    rw [List.mem_singleton.1 h]
    exact List.not_mem_nil
  | cons c cs ih =>
    unfold splitOn at h
    split at h
    · rcases List.mem_cons.1 h with rfl | hp
      · exact List.not_mem_nil
      · exact ih hp
    · next hc =>
      split at h
      · next hs => exact absurd hs (splitOn_ne_nil sep cs)
      · next p ps hs =>
        rw [hs] at ih
        rcases List.mem_cons.1 h with rfl | hp
        · exact List.not_mem_cons_of_ne_of_not_mem (Ne.symm hc) (ih List.mem_cons_self)
        · exact ih (List.mem_cons_of_mem _ hp)

private theorem mem_joinWith_of_mem {piece : List Char} {pieces : List (List Char)} {c : Char}
    (hp : piece ∈ pieces) (hc : c ∈ piece) (sep : List Char) : c ∈ joinWith sep pieces := by
  induction pieces with
  | nil => cases hp
  | cons p ps ih =>
    cases ps with
    | nil =>
      rw [List.mem_singleton.1 hp] at hc
      exact hc
    | cons q qs =>
      rw [joinWith_cons_cons, List.mem_append]
      rcases List.mem_cons.1 hp with rfl | hq
      · exact .inl hc
      · exact .inr (List.mem_append_right _ (ih hq))

theorem mem_of_mem_splitOn {piece : List Char} {c : Char} (hp : piece ∈ splitOn sep s)
    (hc : c ∈ piece) : c ∈ s := by
  rw [← joinWith_splitOn sep s]
  exact mem_joinWith_of_mem hp hc [sep]

theorem mem_joinWith {sep : List Char} {pieces : List (List Char)} {c : Char}
    (h : c ∈ joinWith sep pieces) : c ∈ sep ∨ ∃ piece ∈ pieces, c ∈ piece := by
  induction pieces with
  | nil => cases h
  | cons p ps ih =>
    cases ps with
    | nil => exact .inr ⟨p, List.mem_cons_self, h⟩
    | cons q qs =>
      rw [joinWith_cons_cons, List.mem_append, List.mem_append] at h
      rcases h with hp | hs | hr
      · exact .inr ⟨p, List.mem_cons_self, hp⟩
      · exact .inl hs
      · rcases ih hr with hs | ⟨piece, hm, hc⟩
        · exact .inl hs
        · exact .inr ⟨piece, List.mem_cons_of_mem _ hm, hc⟩

theorem mem_splitOn (sep : Char) {s : List Char} {c : Char} (h : c ∈ s) :
    c = sep ∨ ∃ piece ∈ splitOn sep s, c ∈ piece := by
  rw [← joinWith_splitOn sep s] at h
  rcases mem_joinWith h with hs | hp
  · exact .inl (List.mem_singleton.1 hs)
  · exact .inr hp

theorem splitFirst?_map {f : Char → Char} {sep : Char} (hf : ∀ c, f c = sep ↔ c = sep)
    (s : List Char) :
    splitFirst? sep (s.map f) = (splitFirst? sep s).map fun p => (p.1.map f, p.2.map f) := by
  induction s with
  | nil => rfl
  | cons c cs ih =>
    rw [List.map_cons, splitFirst?, splitFirst?]
    by_cases hc : c = sep
    · rw [if_pos hc, if_pos ((hf c).2 hc)]
      rfl
    · rw [if_neg hc, if_neg (mt (hf c).1 hc), ih]
      cases splitFirst? sep cs <;> rfl

end FormCheck.Text
