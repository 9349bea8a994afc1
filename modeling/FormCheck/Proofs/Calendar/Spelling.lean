import FormCheck.Calendar.Letters
import FormCheck.Proofs.Calendar.Specifiers

/-!
A format symbol by symbol. What a format is spelled out as is cut in one way only and read back as one
item for each of its characters, an escaped character being one with its backslash.
-/
namespace FormCheck.Calendar.Letters

def item (c : Char) : Item :=
  match c with
  | 'Y' => .number .year true
  | 'y' => .number .yearOfCentury true
  | 'm' => .number .month true
  | 'n' => .number .month false
  | 'd' => .number .day true
  | 'j' => .number .day false
  | 'H' => .number .hour true
  | 'G' => .number .hour false
  | 'h' => .number .hour12 true
  | 'g' => .number .hour12 false
  | 'i' => .number .minute true
  | 's' => .number .second true
  | 'A' => .meridiem true
  | 'a' => .meridiem false
  | 'D' => .weekdayName false
  | 'l' => .weekdayName true
  | 'M' => .monthName false
  | 'F' => .monthName true
  | 'U' => .number .timestamp false
  | 'u' => .fraction 6
  | 'v' => .fraction 3
  | 'O' => .offset false
  | 'P' => .offset true
  | c => .literal c

def items : List Char → Layout
  | [] => []
  | ['\\'] => []
  | '\\' :: c :: cs => .literal c :: items cs
  | c :: cs => item c :: items cs

def specifier? (c : Char) : Option Specifier :=
  match c with
  | 'Y' | 'y' | 'm' | 'd' | 'H' => some ⟨none, [], c⟩
  | 'n' => some ⟨some '-', [], 'm'⟩
  | 'j' => some ⟨some '-', [], 'd'⟩
  | 'G' => some ⟨some '-', [], 'H'⟩
  | 'h' => some ⟨none, [], 'I'⟩
  | 'g' => some ⟨some '-', [], 'I'⟩
  | 'i' => some ⟨none, [], 'M'⟩
  | 's' => some ⟨none, [], 'S'⟩
  | 'A' => some ⟨none, [], 'p'⟩
  | 'a' => some ⟨none, [], 'P'⟩
  | 'D' => some ⟨none, [], 'a'⟩
  | 'l' => some ⟨none, [], 'A'⟩
  | 'M' => some ⟨none, [], 'b'⟩
  | 'F' => some ⟨none, [], 'B'⟩
  | 'U' => some ⟨none, [], 's'⟩
  | 'u' => some ⟨none, ['6'], 'f'⟩
  | 'v' => some ⟨none, ['3'], 'f'⟩
  | 'O' => some ⟨none, [], 'z'⟩
  | 'P' => some ⟨none, [':'], 'z'⟩
  | _ => none

def itemLetters : List Char :=
  ['Y', 'y', 'm', 'n', 'd', 'j', 'H', 'G', 'h', 'g', 'i', 's', 'A', 'a', 'D', 'l', 'M', 'F', 'U', 'u',
    'v', 'O', 'P']

/-- A character of a format, alone or behind a backslash. -/
inductive Symbol where
  | plain (c : Char)
  | escaped (c : Char)
  deriving DecidableEq

namespace Symbol

def text : Symbol → List Char
  | plain c => [c]
  | escaped c => ['\\', c]

def item : Symbol → Item
  | plain c => Letters.item c
  | escaped c => .literal c

def literalPiece (c : Char) : Piece :=
  if c = '%' then .specifier ⟨none, [], '%'⟩ else .literal c

def piece : Symbol → Piece
  | plain c => (specifier? c).elim (literalPiece c) .specifier
  | escaped c => literalPiece c

end Symbol

/-- The symbols of a format; a backslash at its end is none. -/
def symbols : List Char → List Symbol
  | [] => []
  | ['\\'] => []
  | '\\' :: c :: cs => .escaped c :: symbols cs
  | c :: cs => .plain c :: symbols cs

/-- What is known of a character by itself: it is a letter of formats, spelled out as a specifier for
its item, or it stands for itself. -/
inductive Reading (c : Char) : Prop where
  | letter {text : String} {s : Specifier} : itemText? c = some text → specifier? c = some s →
      s.IsWellFormed → s.text = text.toList → s.item? = some (item c) → Reading c
  | literal : itemText? c = none → specifier? c = none → item c = .literal c → Reading c

private theorem reading (c : Char) : Reading c := by
  cases h : itemText? c with
  | some text =>
    unfold itemText? at h
    split at h
    all_goals cases h
    all_goals exact .letter rfl rfl (.of_all rfl) rfl rfl
  | none =>
    have hs : specifier? c = none := by
      unfold specifier?
      split
      all_goals first | rfl | simp [itemText?] at h
    have hi : item c = .literal c := by
      unfold item
      split
      all_goals first | rfl | simp [itemText?] at h
    exact .literal h hs hi

namespace Symbol

private theorem literalPiece_spec (c : Char) : (literalPiece c).IsWellFormed ∧
    (literalPiece c).text = literalText c ∧ (literalPiece c).item? = some (.literal c) := by
  unfold literalPiece literalText
  split
  · next h =>
    subst h
    exact ⟨⟨nofun, nofun, rfl⟩, rfl, rfl⟩
  · next h => exact ⟨h, rfl, rfl⟩

private theorem piece_of_specifier? {c : Char} {s : Specifier} (h : specifier? c = some s) :
    (plain c).piece = .specifier s := by
  rw [piece, h, Option.elim_some]

private theorem piece_of_no_specifier {c : Char} (h : specifier? c = none) :
    (plain c).piece = literalPiece c := by
  rw [piece, h, Option.elim_none]

private theorem isWellFormed_piece (s : Symbol) : s.piece.IsWellFormed := by
  cases s with
  | escaped c => exact (literalPiece_spec c).1
  | plain c =>
    cases reading c with
    | letter _ hs hwf => rwa [piece_of_specifier? hs]
    | literal _ hs =>
      rw [piece_of_no_specifier hs]
      exact (literalPiece_spec c).1

private theorem item?_piece (s : Symbol) : s.piece.item? = some s.item := by
  cases s with
  | escaped c => exact (literalPiece_spec c).2.2
  | plain c =>
    cases reading c with
    | letter _ hs _ _ hi => rwa [piece_of_specifier? hs]
    | literal _ hs hi =>
      rw [piece_of_no_specifier hs, item, hi]
      exact (literalPiece_spec c).2.2

end Symbol

private theorem spell_cons {c : Char} (hc : c ≠ '\\') (cs : List Char) :
    spell (c :: cs) = (Symbol.plain c).piece.text ++ spell cs := by
  rw [spell]
  · cases reading c with
    | letter ht hs _ htext =>
      rw [ht, Symbol.piece_of_specifier? hs]
      exact congrArg (· ++ spell cs) htext.symm
    | literal ht hs =>
      rw [ht, Symbol.piece_of_no_specifier hs, (Symbol.literalPiece_spec c).2.1]
  · exact fun h _ => hc h
  · exact fun _ _ h _ => hc h

private theorem ne_backslash {c : Char} {cs : List Char} (hend : c = '\\' → cs = [] → False)
    (hescape : ∀ d ds, c = '\\' → cs = d :: ds → False) : c ≠ '\\' := by
  intro hc
  cases cs with
  | nil => exact hend hc rfl
  | cons d ds => exact hescape d ds hc rfl

private theorem symbols_spec (cs : List Char) :
    ((symbols cs).flatMap Symbol.text = cs ∨ (symbols cs).flatMap Symbol.text ++ ['\\'] = cs) ∧
      .plain '\\' ∉ symbols cs := by
  fun_induction symbols cs with
  | case1 => exact ⟨.inl rfl, List.not_mem_nil⟩
  | case2 => exact ⟨.inr rfl, List.not_mem_nil⟩
  | case3 c cs ih =>
    obtain ⟨htext, hplain⟩ := ih
    refine ⟨?_, by simpa using hplain⟩
    rcases htext with h | h
    · exact .inl (congrArg (['\\', c] ++ ·) h)
    · exact .inr (congrArg (['\\', c] ++ ·) h)
  | case4 c cs hend hescape ih =>
    obtain ⟨htext, hplain⟩ := ih
    refine ⟨?_, by simp [hplain, (ne_backslash hend hescape).symm]⟩
    rcases htext with h | h
    · exact .inl (congrArg ([c] ++ ·) h)
    · exact .inr (congrArg ([c] ++ ·) h)

private theorem items_eq_map (cs : List Char) : items cs = (symbols cs).map Symbol.item := by
  fun_induction symbols cs with
  | case1 => rfl
  | case2 => rfl
  | case3 c cs ih =>
    rw [items, ih]
    rfl
  | case4 c cs hend hescape ih =>
    rw [items, ih]
    · rfl
    · exact hend
    · exact hescape

private theorem cut_spell (cs : List Char) : Cut (spell cs) ((symbols cs).map Symbol.piece) := by
  fun_induction symbols cs with
  | case1 => exact .nil
  | case2 => exact .nil
  | case3 c cs ih =>
    rw [spell, ← (Symbol.literalPiece_spec c).2.1]
    exact .cons (Symbol.escaped c).isWellFormed_piece ih
  | case4 c cs hend hescape ih =>
    rw [spell_cons (ne_backslash hend hescape)]
    exact .cons (Symbol.plain c).isWellFormed_piece ih

theorem read?_spell (cs : List Char) : Layout.read? (spell cs) = some (items cs) := by
  refine Layout.read?_eq_some_iff.2 ⟨_, cut_spell cs, ?_⟩
  rw [items_eq_map, List.mapM_map, show Piece.item? ∘ Symbol.piece = some ∘ Symbol.item from
    funext Symbol.item?_piece]
  exact List.mapM_pure

private theorem item_of_not_mem {c : Char} (h : c ∉ itemLetters) : item c = .literal c := by
  unfold item
  split
  all_goals first | rfl | exact absurd (by decide) h

private theorem write_literal (c : Char) (m : Moment) (offset : Int) :
    (Item.literal c).write m offset = [c] := by
  unfold Item.literal
  split <;> rfl

/-- What a format is spelled out as can be cut in one way only, into one piece for each symbol of the
format. A letter of formats is the specifier for its item, any other symbol its very character, and
writing a moment by the text is writing it symbol by symbol. -/
theorem layoutText_cut_at_symbols (format : String) :
    (((symbols format.toList).flatMap Symbol.text = format.toList ∨
        (symbols format.toList).flatMap Symbol.text ++ ['\\'] = format.toList) ∧
      .plain '\\' ∉ symbols format.toList) ∧
    (∀ ps, Cut (layoutText format).toList ps ↔ ps = (symbols format.toList).map Symbol.piece) ∧
    (∀ s ∈ symbols format.toList, s.piece.item? = some s.item) ∧
    (∀ c, (Symbol.escaped c).item = .literal c ∧
      (c ∉ itemLetters → (Symbol.plain c).item = .literal c) ∧
      ∀ m offset, (Item.literal c).write m offset = [c]) ∧
    Layout.read? (layoutText format).toList = some ((symbols format.toList).map Symbol.item) ∧
    ∀ m offset, (Layout.read? (layoutText format).toList).map (·.write m offset) =
      some (String.ofList ((symbols format.toList).flatMap fun s => s.item.write m offset)) := by
  have htext : (layoutText format).toList = spell format.toList := String.toList_ofList
  have hread : Layout.read? (layoutText format).toList =
      some ((symbols format.toList).map Symbol.item) := by
    rw [htext, read?_spell, items_eq_map]
  have hcut : Cut (layoutText format).toList ((symbols format.toList).map Symbol.piece) := by
    rw [htext]
    exact cut_spell format.toList
  refine ⟨symbols_spec format.toList, fun ps => ⟨fun h => h.unique hcut, ?_⟩,
    fun s _ => s.item?_piece, fun c => ⟨rfl, item_of_not_mem, write_literal c⟩, hread, ?_⟩
  · rintro rfl
    exact hcut
  · intro m offset
    rw [hread, Option.map_some, Layout.write, List.flatMap_map]

example : Layout.read? (layoutText "\\Y%d").toList =
    some [.char 'Y', .char '%', .number .day true] := by
  decide

theorem items_of_not_mem {cs : List Char} (h : '\\' ∉ cs) : items cs = cs.map item := by
  fun_induction items cs with
  | case1 => rfl
  | case2 => simp at h
  | case3 c cs ih => simp at h
  | case4 c cs _ _ ih =>
    rw [List.map_cons, ih (List.not_mem_of_not_mem_cons h)]

variable {f : Fields} {s format : String}

def offsetOf (f : Fields) : Int := (f.offset.filter Fields.isOffset).getD 0

theorem offsetOf_lt (f : Fields) : -86400 < -offsetOf f ∧ -offsetOf f < 86400 := by
  unfold offsetOf
  cases h : f.offset.filter Fields.isOffset with
  | none => decide
  | some offset =>
    have ho := (Option.filter_eq_some_iff.1 h).2
    unfold Fields.isOffset at ho
    rw [decide_eq_true_iff] at ho
    rw [Option.getD_some]
    omega

private theorem fitsFormat_eq (today : Date) (s format : String) :
    fitsFormat today s format = (((items format.toList).fields? s).bind fun f =>
      (localMoment? today f).bind fun m => (m.shift? (-offsetOf f)).bind fun _ =>
        some ((items format.toList).write m (offsetOf f) == s)).getD false := by
  unfold fitsFormat
  rw [read?_spell]
  rfl

theorem fitsFormat_of_fields? (hf : (items format.toList).fields? s = some f)
    (today : Date) :
    fitsFormat today s format = (localMoment? today f).any fun m =>
      (m.shift? (-offsetOf f)).isSome && (items format.toList).write m (offsetOf f) == s := by
  rw [fitsFormat_eq, hf, Option.bind_some]
  cases localMoment? today f with
  | none => rfl
  | some m =>
    rw [Option.bind_some, Option.any_some]
    cases m.shift? (-offsetOf f) with
    | none => rfl
    | some shifted => rw [Option.bind_some, Option.getD_some, Option.isSome_some, Bool.true_and]

theorem fitsFormat_of_no_fields (hf : (items format.toList).fields? s = none)
    (today : Date) : fitsFormat today s format = false := by
  rw [fitsFormat_eq, hf]
  rfl

end FormCheck.Calendar.Letters
