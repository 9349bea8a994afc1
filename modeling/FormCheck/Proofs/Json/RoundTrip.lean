import FormCheck.Proofs.Json.Scalars
import FormCheck.Proofs.Text.Split
import FormCheck.Proofs.Value.Decoders

/-!
JSON values through their text and back. Each value is written as a text that is read as one value
wherever a value may stand, so a value without doubles, whose numbers have at most 64 bits and whose
nesting is not too deep, is read as it was written.
-/
namespace FormCheck.Json

open Document (Frame Stage State step complete)

/-- The reader comes from one state to another and passes over the text up to `rest`. -/
inductive Reads : State → List Char → State → List Char → Prop where
  | done (s : State) (cs : List Char) : Reads s cs s cs
  | token {s s' s'' : State} {piece cs rest : List Char} {t : Token} : piece ≠ [] →
      scanToken (piece ++ cs) = some (some t, cs) → step s t = some s' → Reads s' cs s'' rest →
      Reads s (piece ++ cs) s'' rest

namespace Reads

variable {s s' s'' : State} {cs rest rest' : List Char} {c : Char} {t : Token}

theorem trans (h : Reads s cs s' rest) (h' : Reads s' rest s'' rest') : Reads s cs s'' rest' := by
  induction h with
  | done => exact h'
  | token hne hscan hstep _ ih => exact .token hne hscan hstep (ih h')

theorem char (hscan : scanToken (c :: cs) = some (some t, cs)) (hstep : step s t = some s')
    (h : Reads s' cs s'' rest) : Reads s (c :: cs) s'' rest :=
  @token s s' s'' [c] cs rest t (List.cons_ne_nil c []) hscan hstep h

private theorem exists_tokens (h : Reads s cs s' []) : ∃ ts, ts.foldlM step s = some s' ∧
    ∀ read fuel, cs.length ≤ fuel → scanTokens read cs fuel = some (read.reverse ++ ts) := by
  generalize hrest : ([] : List Char) = rest at h
  induction h with
  | done s cs =>
    subst hrest
    refine ⟨[], rfl, fun read fuel _ => ?_⟩
    rw [List.append_nil]
    cases fuel <;> rfl
  | @token s s' s'' piece cs rest t hne hscan hstep _ ih =>
    obtain ⟨ts, hfold, htokens⟩ := ih hrest
    refine ⟨t :: ts, by rw [List.foldlM_cons, hstep]; exact hfold, fun read fuel hfuel => ?_⟩
    -- A token takes a character at least, so the fuel lasts for those behind it.
    have hlength := List.length_pos_iff.2 hne
    rw [List.length_append] at hfuel
    obtain ⟨fuel, rfl⟩ : ∃ k, fuel = k + 1 := ⟨fuel - 1, by omega⟩
    rw [scanTokens, if_neg (by simp [hne]), hscan]
    dsimp only
    rw [htokens (t :: read) fuel (by omega), List.reverse_cons, List.append_assoc]
    rfl

private theorem read?_eq {text : String} {d : Document}
    (h : Reads Document.start text.toList ⟨[], .done d⟩ []) : Document.read? text = some d := by
  obtain ⟨ts, hfold, htokens⟩ := h.exists_tokens
  rw [Document.read?, tokens?, htokens [] _ (Nat.le_of_eq String.length_toList)]
  rw [Option.bind_some, List.reverse_nil, List.nil_append, Document.ofTokens?, hfold]

end Reads

/-- Wherever a value may stand, the text is read as this one, if a number would end behind it. -/
def Spells (text : List Char) (d : Document) : Prop :=
  ∀ frames stage s rest, stage = .value ∨ stage = .itemOrClose → complete d frames = some s →
    Stops rest → Reads ⟨frames, stage⟩ (text ++ rest) s rest

private theorem Spells.read?_eq {text : String} {d : Document} (h : Spells text.toList d) :
    Document.read? text = some d := by
  have hreads := h [] .value ⟨[], .done d⟩ [] (.inl rfl) rfl (fun _ h => nomatch h)
  rw [List.append_nil] at hreads
  exact hreads.read?_eq

private theorem Spells.of_token {piece : List Char} {t : Token} {d : Document} (hne : piece ≠ [])
    (hscan : ∀ rest, Stops rest → scanToken (piece ++ rest) = some (some t, rest))
    (hbegin : ∀ frames stage, stage = .value ∨ stage = .itemOrClose →
      step ⟨frames, stage⟩ t = complete d frames) : Spells piece d := by
  intro frames stage s rest hstage hcomplete hrest
  exact .token hne (hscan rest hrest) ((hbegin frames stage hstage).trans hcomplete) (.done s rest)

private theorem spells_null : Spells "null".toList .null :=
  .of_token (by decide) (fun _ _ => rfl) (by rintro _ _ (rfl | rfl) <;> rfl)

private theorem spells_bool (b : Bool) :
    Spells (if b then "true" else "false").toList (.bool b) := by
  cases b
  · exact .of_token (by decide) (fun _ _ => rfl) (by rintro _ _ (rfl | rfl) <;> rfl)
  · exact .of_token (by decide) (fun _ _ => rfl) (by rintro _ _ (rfl | rfl) <;> rfl)

private theorem quote_ne_nil (s : String) : (quote s).toList ≠ [] := by
  rw [quote, String.toList_ofList]
  exact List.cons_ne_nil _ _

private theorem spells_quote (s : String) :
    Spells (quote s).toList (.string (s.toList.map unitOf)) :=
  .of_token (quote_ne_nil s) (fun rest _ => scanToken_quote s rest)
    (by rintro _ _ (rfl | rfl) <;> rfl)

private theorem spells_int (n : Int) : Spells (toString n).toList (.number (numeralOf n)) := by
  obtain ⟨c, cs, htext, -⟩ := exists_head_toString n
  have hne : (toString n).toList ≠ [] := fun h => List.cons_ne_nil c cs (htext.symm.trans h)
  exact .of_token hne (fun _ hrest => scanToken_toString n hrest)
    (by rintro _ _ (rfl | rfl) <;> rfl)

/-- Brackets with parts between them: how the text and the reader begin, go on and end. -/
structure Enclosure (α : Type) where
  left : Char
  right : Char
  opening : Token
  closing : Token
  frame : List α → Frame
  first : Stage
  next : Stage
  whole : List α → Document
  scan_left : ∀ cs, scanToken (left :: cs) = some (some opening, cs)
  scan_right : ∀ cs, scanToken (right :: cs) = some (some closing, cs)
  stops_right : ∀ cs, Stops (right :: cs)
  step_opening : ∀ frames stage, stage = .value ∨ stage = .itemOrClose →
    step ⟨frames, stage⟩ opening = some ⟨frame [] :: frames, first⟩
  step_empty : ∀ frames, step ⟨frame [] :: frames, first⟩ closing = complete (whole []) frames
  step_comma : ∀ read frames,
    step ⟨frame read :: frames, .separator⟩ .comma = some ⟨frame read :: frames, next⟩
  step_closing : ∀ read frames,
    step ⟨frame read :: frames, .separator⟩ closing = complete (whole read.reverse) frames

def arrays : Enclosure Document where
  left := '['
  right := ']'
  opening := .openArray
  closing := .closeArray
  frame := .array
  first := .itemOrClose
  next := .value
  whole := .array
  scan_left _ := rfl
  scan_right _ := rfl
  stops_right _ := by rintro c ⟨rfl⟩; exact .inr (.inl rfl)
  step_opening := by rintro _ _ (rfl | rfl) <;> rfl
  step_empty _ := rfl
  step_comma _ _ := rfl
  step_closing _ _ := rfl

def objects : Enclosure (List Unit × Document) where
  left := '\x7b'
  right := '\x7d'
  opening := .openObject
  closing := .closeObject
  frame := .object
  first := .keyOrClose
  next := .key
  whole := .object
  scan_left _ := rfl
  scan_right _ := rfl
  stops_right _ := by rintro c ⟨rfl⟩; exact .inr (.inr rfl)
  step_opening := by rintro _ _ (rfl | rfl) <;> rfl
  step_empty _ := rfl
  step_comma _ _ := rfl
  step_closing _ _ := rfl

namespace Enclosure

variable {α : Type} {E : Enclosure α}

def Part (E : Enclosure α) (text : List Char) (a : α) : Prop :=
  ∀ read frames stage rest, stage = E.first ∨ stage = E.next → Stops rest →
    Reads ⟨E.frame read :: frames, stage⟩ (text ++ rest) ⟨E.frame (a :: read) :: frames, .separator⟩
      rest

private theorem forall_part_cons {text : List Char} {a : α} {parts : List (List Char × α)}
    (h : E.Part text a) (hparts : ∀ p ∈ parts, E.Part p.1 p.2) :
    ∀ p ∈ (text, a) :: parts, E.Part p.1 p.2 :=
  List.forall_mem_cons.2 ⟨h, hparts⟩

private theorem stops_later (E : Enclosure α) (texts : List (List Char)) (rest : List Char) :
    Stops (texts.flatMap ([','] ++ ·) ++ E.right :: rest) := by
  cases texts with
  | nil => exact E.stops_right rest
  | cons text texts =>
    rintro c ⟨rfl⟩
    exact .inl rfl

private theorem reads_later {parts : List (List Char × α)} (h : ∀ p ∈ parts, E.Part p.1 p.2)
    {read : List α} {frames : List Frame} {s : State} {rest : List Char}
    (hs : complete (E.whole (read.reverse ++ parts.map Prod.snd)) frames = some s) :
    Reads ⟨E.frame read :: frames, .separator⟩
      ((parts.map Prod.fst).flatMap ([','] ++ ·) ++ E.right :: rest) s rest := by
  induction parts generalizing read with
  | nil =>
    rw [List.map_nil, List.append_nil] at hs
    exact .char (E.scan_right rest) ((E.step_closing read frames).trans hs) (.done s rest)
  | cons p parts ih =>
    obtain ⟨hp, hparts⟩ := List.forall_mem_cons.1 h
    have hlater : Reads ⟨E.frame (p.2 :: read) :: frames, .separator⟩
        ((parts.map Prod.fst).flatMap ([','] ++ ·) ++ E.right :: rest) s rest :=
      ih hparts (by
        rwa [List.reverse_cons, List.append_assoc, List.singleton_append, ← List.map_cons])
    rw [List.map_cons, List.flatMap_cons, List.append_assoc, List.append_assoc]
    exact .char rfl (E.step_comma read frames)
      ((hp read frames E.next _ (.inr rfl) (E.stops_later _ rest)).trans hlater)

private theorem spells {parts : List (List Char × α)} (h : ∀ p ∈ parts, E.Part p.1 p.2) :
    Spells (E.left :: (Text.joinWith [','] (parts.map Prod.fst) ++ [E.right]))
      (E.whole (parts.map Prod.snd)) := by
  intro frames stage s rest hstage hs hrest
  rw [List.cons_append, List.append_assoc, List.singleton_append]
  refine .char (E.scan_left _) (E.step_opening frames stage hstage) ?_
  cases parts with
  | nil => exact .char (E.scan_right rest) ((E.step_empty frames).trans hs) (.done s rest)
  | cons p parts =>
    obtain ⟨hp, hparts⟩ := List.forall_mem_cons.1 h
    have hlater : Reads ⟨E.frame [p.2] :: frames, .separator⟩
        ((parts.map Prod.fst).flatMap ([','] ++ ·) ++ E.right :: rest) s rest :=
      reads_later hparts hs
    rw [List.map_cons, Text.joinWith_cons, List.append_assoc]
    exact (hp [] frames E.first _ (.inl rfl) (E.stops_later _ rest)).trans hlater

end Enclosure

mutual

/-- The text of the value tells it in full: no doubles, whole numbers of 64 bits, and at most `depth`
levels. -/
def isExact (depth : Nat) : Json → Bool
  | number (.int n) => decide (-9223372036854775808 ≤ n ∧ n ≤ 18446744073709551615)
  | number (.float _) => false
  | array items => decide (0 < depth) && allExact (depth - 1) items
  | object members => decide (0 < depth) && membersExact (depth - 1) members
  | _ => true

def allExact (depth : Nat) : List Json → Bool
  | [] => true
  | j :: js => j.isExact depth && allExact depth js

def membersExact (depth : Nat) : List (String × Json) → Bool
  | [] => true
  | (_, j) :: ms => j.isExact depth && membersExact depth ms

end

private theorem allExact_iff {depth : Nat} {items : List Json} :
    allExact depth items = true ↔ ∀ j ∈ items, j.isExact depth = true := by
  induction items with
  | nil => simp [allExact]
  | cons j js ih => rw [allExact, Bool.and_eq_true, ih, List.forall_mem_cons]

private theorem membersExact_iff {depth : Nat} {members : List (String × Json)} :
    membersExact depth members = true ↔ ∀ m ∈ members, m.2.isExact depth = true := by
  induction members with
  | nil => simp [membersExact]
  | cons m ms ih => rw [membersExact, Bool.and_eq_true, ih, List.forall_mem_cons]

theorem isExact_array {depth : Nat} {items : List Json} (hdepth : 0 < depth)
    (h : ∀ j ∈ items, j.isExact (depth - 1) = true) : (array items).isExact depth = true :=
  Bool.and_eq_true_iff.2 ⟨decide_eq_true hdepth, allExact_iff.2 h⟩

theorem isExact_object {depth : Nat} {members : List (String × Json)} (hdepth : 0 < depth)
    (h : ∀ m ∈ members, m.2.isExact (depth - 1) = true) : (object members).isExact depth = true :=
  Bool.and_eq_true_iff.2 ⟨decide_eq_true hdepth, membersExact_iff.2 h⟩

private theorem toList_bracket (left right : String) (parts : List String) :
    (bracket left right parts).toList =
      left.toList ++ (Text.joinWith [','] (parts.map String.toList) ++ right.toList) := by
  rw [bracket, String.toList_append, String.toList_append, Text.join, String.toList_ofList,
    List.append_assoc]
  rfl

private theorem arrays_part {text : List Char} {d : Document} (h : Spells text d) :
    arrays.Part text d := by
  intro read frames stage rest hstage hrest
  exact h _ stage _ rest hstage.symm rfl hrest

private theorem objects_part (key : String) {text : String} {d : Document}
    (h : Spells text.toList d) :
    objects.Part (quote key ++ ":" ++ text).toList (key.toList.map unitOf, d) := by
  intro read frames stage rest hstage hrest
  rw [String.toList_append, String.toList_append, List.append_assoc, List.append_assoc]
  have hkey : step ⟨.object read :: frames, stage⟩ (.string (key.toList.map unitOf)) =
      some ⟨.member read (key.toList.map unitOf) :: frames, .colon⟩ := by
    rcases hstage with rfl | rfl <;> rfl
  exact .token (quote_ne_nil key) (scanToken_quote key _) hkey
    (.char rfl rfl (h _ .value _ rest (.inl rfl) rfl hrest))

mutual

private theorem exists_document : ∀ (j : Json) (depth : Nat), j.isExact depth = true →
    ∃ d, Spells j.write.toList d ∧ d.toJsonWithin? depth = some j
  | .null, _, _ => ⟨.null, spells_null, rfl⟩
  | .bool b, _, _ => ⟨.bool b, spells_bool b, rfl⟩
  | .string s, _, _ => ⟨_, spells_quote s, by rw [Document.toJsonWithin?, stringOf?_map_unitOf]; rfl⟩
  | .number (.int n), _, h => by
    obtain ⟨hlow, hhigh⟩ := of_decide_eq_true h
    exact ⟨_, spells_int n, by rw [Document.toJsonWithin?, value?_numeralOf hlow hhigh]; rfl⟩
  | .array items, depth, h => by
    obtain ⟨hdepth, hitems⟩ := Bool.and_eq_true_iff.1 h
    obtain ⟨parts, htexts, hparts, hvalues⟩ := exists_items items (depth - 1) hitems
    have hspells := arrays.spells fun p hp => arrays_part (hparts p hp)
    rw [htexts] at hspells
    refine ⟨.array (parts.map Prod.snd), ?_, ?_⟩
    · rw [write, toList_bracket]
      exact hspells
    · rw [Document.toJsonWithin?, if_neg (Nat.ne_of_gt (of_decide_eq_true hdepth)), hvalues]
      rfl
  | .object members, depth, h => by
    obtain ⟨hdepth, hmembers⟩ := Bool.and_eq_true_iff.1 h
    obtain ⟨parts, htexts, hparts, hvalues⟩ := exists_members members (depth - 1) hmembers
    have hspells := objects.spells hparts
    rw [htexts] at hspells
    refine ⟨.object (parts.map Prod.snd), ?_, ?_⟩
    · rw [write, braces, toList_bracket, List.map_map]
      exact hspells
    · rw [Document.toJsonWithin?, if_neg (Nat.ne_of_gt (of_decide_eq_true hdepth)), hvalues]
      rfl

private theorem exists_items : ∀ (items : List Json) (depth : Nat), allExact depth items = true →
    ∃ parts : List (List Char × Document),
      parts.map Prod.fst = (writeItems items).map String.toList ∧
      (∀ p ∈ parts, Spells p.1 p.2) ∧
      Document.itemsWithin? depth (parts.map Prod.snd) = some items
  | [], _, _ => ⟨[], rfl, by simp, rfl⟩
  | j :: js, depth, h => by
    obtain ⟨hj, hjs⟩ := Bool.and_eq_true_iff.1 h
    obtain ⟨d, hd, hvalue⟩ := exists_document j depth hj
    obtain ⟨parts, htexts, hparts, hvalues⟩ := exists_items js depth hjs
    refine ⟨(j.write.toList, d) :: parts, ?_, List.forall_mem_cons.2 ⟨hd, hparts⟩, ?_⟩
    · rw [List.map_cons, htexts]
      rfl
    · rw [List.map_cons, Document.itemsWithin?, hvalue, hvalues]
      rfl

private theorem exists_members : ∀ (members : List (String × Json)) (depth : Nat),
    membersExact depth members = true →
    ∃ parts : List (List Char × List Unit × Document),
      parts.map Prod.fst = (writeMembers members).map
        (fun (key, text) => (quote key ++ ":" ++ text).toList) ∧
      (∀ p ∈ parts, objects.Part p.1 p.2) ∧
      Document.membersWithin? depth (parts.map Prod.snd) = some members
  | [], _, _ => ⟨[], rfl, by simp, rfl⟩
  | (key, j) :: ms, depth, h => by
    obtain ⟨hj, hms⟩ := Bool.and_eq_true_iff.1 h
    obtain ⟨d, hd, hvalue⟩ := exists_document j depth hj
    obtain ⟨parts, htexts, hparts, hvalues⟩ := exists_members ms depth hms
    have hall := Enclosure.forall_part_cons (objects_part key hd) hparts
    refine ⟨_, ?_, hall, ?_⟩
    · rw [List.map_cons, htexts, writeMembers, List.map_cons]
    · rw [List.map_cons, Document.membersWithin?, stringOf?_map_unitOf, hvalue, hvalues]
      rfl

end

/-- A value that its text tells in full is read as it was written, with all its members in order. -/
theorem readRepeated?_write {j : Json} (h : j.isExact maxDepth = true) :
    readRepeated? j.write = some j := by
  obtain ⟨d, hspells, hvalue⟩ := exists_document j maxDepth h
  rw [readRepeated?, hspells.read?_eq]
  exact hvalue

theorem read?_write {j : Json} (h : j.isExact maxDepth = true) (hk : j.keysDistinct = true) :
    read? j.write = some j := by
  obtain ⟨d, hspells, hvalue⟩ := exists_document j maxDepth h
  rw [read?, hspells.read?_eq, Option.bind_some, Document.toJson?, hvalue, Option.map_some,
    merged_of_keysDistinct j hk]

private theorem knownMembers?_eq {known : List String} : ∀ {ds : List (List Unit × Document)}
    {members : List (String × Json)},
    Document.membersWithin? (maxDepth - 1) ds = some members → (∀ m ∈ members, m.1 ∈ known) →
    Document.knownMembers? known ds = some members
  | [], _, h, _ => h
  | (key, d) :: ds, _, h, hk => by
    simp only [Document.membersWithin?, Option.bind_eq_bind, Option.bind_eq_some_iff] at h
    obtain ⟨name, hname, j, hj, members, hmembers, hm⟩ := h
    cases hm
    obtain ⟨hknown, hrest⟩ := List.forall_mem_cons.1 hk
    simp only [Document.knownMembers?, hname, hj, knownMembers?_eq hmembers hrest,
      Option.bind_eq_bind, Option.bind_some]
    exact if_pos hknown

theorem readFields?_write {members : List (String × Json)} {known : List String}
    (h : (object members).isExact maxDepth = true) (hk : ∀ m ∈ members, m.1 ∈ known) :
    (Document.read? (object members).write).bind (·.toFields? known) = some (object members) := by
  obtain ⟨d, hspells, hvalue⟩ := exists_document (object members) maxDepth h
  rw [hspells.read?_eq, Option.bind_some]
  cases d with
  | object ds =>
    rw [Document.toJsonWithin?, if_neg (by decide)] at hvalue
    obtain ⟨_, hmembers, heq⟩ := Option.map_eq_some_iff.1 hvalue
    cases heq
    rw [Document.toFields?, knownMembers?_eq hmembers hk]
    rfl
  | _ => simp [Document.toJsonWithin?, Option.map_eq_some_iff] at hvalue

end FormCheck.Json
