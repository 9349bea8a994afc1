import FormCheck.Checks.Moment
import FormCheck.Proofs.Calendar.Marks
import FormCheck.Proofs.Calendar.Rendered

/-!
The layouts of moments that are read without a format. Two layouts that read the same text denote the
same moment, except for two pairs: a date of three numbers may have its year in front or at its end.
The layout that is tried first decides between the two of a pair, and nothing else depends on the
order of the layouts.
-/
namespace FormCheck.Calendar

variable {s rest : List Char} {f f' : Fields} {l l' : Layout} {d d' : Date} {g g' : NumberField}

/-! ### What a layout of numbers says of the date -/

def Fields.AgreesWith (f : Fields) (d : Date) : Prop :=
  (∀ y ∈ f.year, y = d.year) ∧ (∀ n ∈ f.month, n = d.month) ∧ ∀ n ∈ f.day, n = d.day

private theorem holdsDate_of_date (h : f.date = .ok d) : f.holdsDate d = true := by
  unfold Fields.date at h
  simp only [bind, Except.bind, pure, Except.pure] at h
  split at h
  · cases h
  split at h
  case h_3 => cases h
  all_goals
    split at h
    · cases h
    · split at h
      · next hd => cases h; exact hd
      · cases h

private theorem agreesWith_of_date (h : f.date = .ok d) : f.AgreesWith d := by
  have hd := holdsDate_of_date h
  simp only [Fields.holdsDate, Bool.and_eq_true, beq_iff_eq] at hd
  obtain ⟨⟨⟨⟨⟨hy, -⟩, hm⟩, hn⟩, -⟩, -⟩ := hd
  refine ⟨fun y h => ?_, fun n h => ?_, fun n h => ?_⟩
  · rwa [Option.mem_def.1 h] at hy
  · rwa [Option.mem_def.1 h] at hm
  · rwa [Option.mem_def.1 h] at hn

private theorem of_agreeing {α : Type} [DecidableEq α] {old new : Option α} {x y : α}
    (h : agreeing old x = some new) (hy : ∀ z ∈ new, z = y) : x = y ∧ ∀ z ∈ old, z = y := by
  unfold agreeing at h
  split at h
  · cases h
    exact ⟨hy x rfl, fun z hz => by cases hz⟩
  · split at h
    · next hx =>
      cases h
      have hold := hy _ rfl
      exact ⟨hx ▸ hold, hy⟩
    · cases h

private theorem agreesWith_of_set {n : Int} (hg : g = .year ∨ g = .month ∨ g = .day)
    (h : g.set f n = some f') (ha : f'.AgreesWith d) :
    f.AgreesWith d ∧ g.value ⟨d, .midnight⟩ = n := by
  obtain ⟨hy, hm, hd⟩ := ha
  rcases hg with rfl | rfl | rfl
  · unfold NumberField.set Fields.setYear at h
    dsimp only at h
    split at h
    · obtain ⟨new, hnew, rfl⟩ := Option.map_eq_some_iff.1 h
      obtain ⟨hn, hold⟩ := of_agreeing hnew hy
      exact ⟨⟨hold, hm, hd⟩, hn.symm⟩
    · cases h
  · unfold NumberField.set Fields.setMonth at h
    dsimp only at h
    split at h
    · next hrange =>
      obtain ⟨new, hnew, rfl⟩ := Option.map_eq_some_iff.1 h
      obtain ⟨hn, hold⟩ := of_agreeing hnew hm
      refine ⟨⟨hy, hold, hd⟩, ?_⟩
      unfold NumberField.value
      dsimp only
      omega
    · cases h
  · unfold NumberField.set Fields.setDay at h
    dsimp only at h
    split at h
    · next hrange =>
      obtain ⟨new, hnew, rfl⟩ := Option.map_eq_some_iff.1 h
      obtain ⟨hn, hold⟩ := of_agreeing hnew hd
      refine ⟨⟨hy, hm, hold⟩, ?_⟩
      unfold NumberField.value
      dsimp only
      omega
    · cases h

/-! ### Numbers in another order -/

private theorem scan_agree {a b : Int} {rest' : List Char} (hg : g ∈ plainFields)
    (hg' : g' ∈ plainFields) (hr : Stops rest) (hr' : Stops rest') (h : g.scan s = some (a, rest))
    (h' : g'.scan s = some (b, rest')) : rest = rest' ∧ a = b := by
  by_cases hy : g = .year
  · by_cases hy' : g' = .year
    · subst hy hy'
      rw [h] at h'
      cases h'
      exact ⟨rfl, rfl⟩
    · subst hy
      obtain ⟨hrest, hab, -⟩ := scan_year_eq_short hg' hy' hr' h h'
      exact ⟨hrest, hab⟩
  · by_cases hy' : g' = .year
    · subst hy'
      obtain ⟨hrest, hab, -⟩ := scan_year_eq_short hg hy hr h' h
      exact ⟨hrest.symm, hab.symm⟩
    · rw [scan_of_short hg hy] at h
      rw [scan_of_short hg' hy', h] at h'
      cases h'
      exact ⟨rfl, rfl⟩

def threeNumbers (c : Char) (g₁ g₂ g₃ : NumberField) : Layout :=
  [.number g₁ true, .char c, .number g₂ true, .char c, .number g₃ true]

theorem scan_number_eq_some {zeros : Bool} (h : Layout.scan (.number g zeros :: l) f s = some f') :
    ∃ n rest f₁, g.scan (Text.trimStart s) = some (n, rest) ∧ g.set f n = some f₁ ∧
      l.scan f₁ rest = some f' := by
  obtain ⟨f₁, rest, hi, hl⟩ := Layout.scan_cons_eq_some h
  obtain ⟨n, hscan, hset⟩ := Item.scan_number_eq_some hi
  exact ⟨n, rest, f₁, hscan, hset, hl⟩

theorem scan_monthName_eq_some {full : Bool}
    (h : Layout.scan (.monthName full :: l) f s = some f') :
    ∃ i rest f₁, (if full then scanName else scanShortName) monthNames s = some (i, rest) ∧
      f.setMonth (i + 1) = some f₁ ∧ l.scan f₁ rest = some f' := by
  obtain ⟨f₁, rest, hi, hl⟩ := Layout.scan_cons_eq_some h
  obtain ⟨i, hscan, hset⟩ := Item.scan_monthName_eq_some hi
  exact ⟨i, rest, f₁, hscan, hset, hl⟩

theorem scan_char_eq_some {c : Char} (h : Layout.scan (.char c :: l) f s = some f') :
    ∃ rest, s = c :: rest ∧ l.scan f rest = some f' := by
  obtain ⟨_, rest, hi, hl⟩ := Layout.scan_cons_eq_some h
  obtain ⟨hs, rfl⟩ := Item.scan_char_eq_some hi
  exact ⟨rest, hs, hl⟩

def IsDateOrder (g₁ g₂ g₃ : NumberField) : Prop :=
  ∀ g ∈ [g₁, g₂, g₃], g = .year ∨ g = .month ∨ g = .day

instance (g₁ g₂ g₃ : NumberField) : Decidable (IsDateOrder g₁ g₂ g₃) :=
  inferInstanceAs (Decidable (∀ g ∈ [g₁, g₂, g₃], g = .year ∨ g = .month ∨ g = .day))

private theorem scan_threeNumbers {c : Char} {g₁ g₂ g₃ : NumberField} (hg : IsDateOrder g₁ g₂ g₃)
    (h : Layout.scan (threeNumbers c g₁ g₂ g₃) f s = some f') (hd : f'.AgreesWith d) :
    ∃ r₁ r₂, g₁.scan (Text.trimStart s) = some (g₁.value ⟨d, .midnight⟩, c :: r₁) ∧
      g₂.scan (Text.trimStart r₁) = some (g₂.value ⟨d, .midnight⟩, c :: r₂) ∧
      g₃.scan (Text.trimStart r₂) = some (g₃.value ⟨d, .midnight⟩, []) := by
  obtain ⟨n₁, s₁, f₁, h₁, hset₁, hrest⟩ := scan_number_eq_some h
  obtain ⟨r₁, rfl, hrest₁⟩ := scan_char_eq_some hrest
  obtain ⟨n₂, s₂, f₂, h₂, hset₂, hrest₂⟩ := scan_number_eq_some hrest₁
  obtain ⟨r₂, rfl, hrest₃⟩ := scan_char_eq_some hrest₂
  obtain ⟨n₃, s₃, f₃, h₃, hset₃, hend⟩ := scan_number_eq_some hrest₃
  obtain ⟨rfl, rfl⟩ := Layout.scan_nil_eq_some hend
  obtain ⟨hd, rfl⟩ := agreesWith_of_set (hg g₃ (by simp)) hset₃ hd
  obtain ⟨hd, rfl⟩ := agreesWith_of_set (hg g₂ (by simp)) hset₂ hd
  obtain ⟨hd, rfl⟩ := agreesWith_of_set (hg g₁ (by simp)) hset₁ hd
  exact ⟨r₁, r₂, h₁, h₂, h₃⟩

theorem IsDateOrder.mem_plainFields {g₁ g₂ g₃ : NumberField} (h : IsDateOrder g₁ g₂ g₃) :
    g₁ ∈ plainFields ∧ g₂ ∈ plainFields ∧ g₃ ∈ plainFields := by
  have hplain (g : NumberField) (hg : g ∈ [g₁, g₂, g₃]) : g ∈ plainFields := by
    rcases h g hg with rfl | rfl | rfl <;> decide
  exact ⟨hplain g₁ (by simp), hplain g₂ (by simp), hplain g₃ (by simp)⟩

private theorem threeNumbers_agree {c : Char} {g₁ g₂ g₃ g₁' g₂' g₃' : NumberField}
    {f₀ f₀' : Fields} (hc : c.isDigit = false) (hg : IsDateOrder g₁ g₂ g₃)
    (hg' : IsDateOrder g₁' g₂' g₃') (h : Layout.scan (threeNumbers c g₁ g₂ g₃) f₀ s = some f)
    (h' : Layout.scan (threeNumbers c g₁' g₂' g₃') f₀' s = some f') (hd : f.AgreesWith d)
    (hd' : f'.AgreesWith d') :
    g₁.value ⟨d, .midnight⟩ = g₁'.value ⟨d', .midnight⟩ ∧
      g₂.value ⟨d, .midnight⟩ = g₂'.value ⟨d', .midnight⟩ ∧
      g₃.value ⟨d, .midnight⟩ = g₃'.value ⟨d', .midnight⟩ := by
  obtain ⟨r₁, r₂, h₁, h₂, h₃⟩ := scan_threeNumbers hg h hd
  obtain ⟨r₁', r₂', h₁', h₂', h₃'⟩ := scan_threeNumbers hg' h' hd'
  have hstop (r : List Char) : Stops (c :: r) := stops_cons hc r
  obtain ⟨hp₁, hp₂, hp₃⟩ := hg.mem_plainFields
  obtain ⟨hp₁', hp₂', hp₃'⟩ := hg'.mem_plainFields
  obtain ⟨hr₁, hv₁⟩ := scan_agree hp₁ hp₁' (hstop r₁) (hstop r₁') h₁ h₁'
  obtain rfl := (List.cons.inj hr₁).2
  obtain ⟨hr₂, hv₂⟩ := scan_agree hp₂ hp₂' (hstop r₂) (hstop r₂') h₂ h₂'
  obtain rfl := (List.cons.inj hr₂).2
  obtain ⟨-, hv₃⟩ := scan_agree hp₃ hp₃' stops_nil stops_nil h₃ h₃'
  exact ⟨hv₁, hv₂, hv₃⟩

/-! ### Layouts that part in one place -/

/-- Two layouts find the same fields if both read a text. -/
def Layout.Agree (l l' : Layout) : Prop :=
  ∀ f s f₁ f₂, l.scan f s = some f₁ → l'.scan f s = some f₂ → f₁ = f₂

private theorem Layout.Agree.append (h : l.Agree l') (front : Layout) :
    (front ++ l).Agree (front ++ l') := by
  induction front with
  | nil => exact h
  | cons i front ih =>
    intro f s f₁ f₂ h₁ h₂
    simp only [List.cons_append, Layout.scan, Option.bind_eq_bind, Option.bind_eq_some_iff]
      at h₁ h₂
    obtain ⟨p, hp, h₁⟩ := h₁
    obtain ⟨p', hp', h₂⟩ := h₂
    rw [hp] at hp'
    cases hp'
    exact ih _ _ _ _ h₁ h₂

private theorem agree_fraction : Layout.Agree [] [.pointFraction] := by
  intro f s f₁ f₂ h₁ h₂
  obtain ⟨rfl, rfl⟩ := Layout.scan_nil_eq_some h₁
  have hrest : Layout.scan [] f [] = some f₂ := h₂
  exact (Layout.scan_nil_eq_some hrest).2

private theorem scan_of_isAlpha {c : Char} (hc : c.isAlpha = true) (s : List Char) :
    Text.trimStart (c :: s) = c :: s ∧ g.scan (c :: s) = none := by
  have hsilent : ¬Mark.IsSilent c := by
    intro h
    have hletter := Mark.holds_of_isSilent h .letter
    unfold Mark.holds at hletter
    rw [hc] at hletter
    cases hletter
  simp only [Mark.IsSilent, not_or, Bool.not_eq_true] at hsilent
  obtain ⟨hdigit, hblank, hplus, hminus⟩ := hsilent
  have hnone (most : Nat) : scanNumber 1 most (c :: s) = none := by
    have hd : takeDigits most (c :: s) = [] := (stops_cons hdigit s).takeWhile_take most
    unfold scanNumber
    rw [hd]
    rfl
  refine ⟨List.dropWhile_cons_of_neg (by rw [hblank]; decide), ?_⟩
  unfold NumberField.scan
  dsimp only
  split
  · next heq => cases heq; contradiction
  · next heq => cases heq; contradiction
  · rw [hnone]
    rfl

private theorem agree_monthName (c : Char) (zeros : Bool) :
    Layout.Agree (.monthName true :: .blank c :: .number g zeros :: l)
      (.monthName false :: .blank c :: .number g zeros :: l) := by
  intro f s f₁ f₂ h₁ h₂
  obtain ⟨i, rest, fm, hname, hset, h₁⟩ := scan_monthName_eq_some h₁
  obtain ⟨j, short, fm', hshort, hset', h₂⟩ := scan_monthName_eq_some h₂
  obtain ⟨short', hs, hrest⟩ := scanName_eq_some hname
  have he : (i, short') = (j, short) := Option.some.inj (hs.symm.trans hshort)
  cases he
  rw [hset] at hset'
  cases hset'
  rcases hrest with rfl | ⟨name, hmem, hw⟩
  · exact Option.some.inj (h₁.symm.trans h₂)
  · obtain ⟨w, rfl, hlower⟩ := scanWord_eq_some hw
    cases w with
    | nil => exact Option.some.inj (h₁.symm.trans h₂)
    | cons d w =>
      -- The short name would leave a letter where the number is to be read.
      have hd : d.isAlpha = true := by
        apply Text.isAlpha_of_toLower
        apply List.all_eq_true.1 (monthWords _ hmem).2.1
        rw [← hlower]
        exact List.mem_cons_self
      obtain ⟨htrim, hnone⟩ := scan_of_isAlpha (g := g) hd (w ++ rest)
      have hnumber : Layout.scan (.number g zeros :: l) fm (Text.trimStart (d :: w ++ rest)) =
        some f₂ := h₂
      obtain ⟨n, r, f₃, hscan, -⟩ := scan_number_eq_some hnumber
      rw [List.cons_append, htrim, htrim, hnone] at hscan
      cases hscan

/-! ### The layouts of the list -/

def layouts : List String := momentLayouts ++ dateLayouts

def momentOfFields? (midnight : Bool) (f : Fields) : Option Moment :=
  if midnight then
    match f.date with
    | .ok date => some ⟨date, .midnight⟩
    | .error _ => none
  else f.moment? 0

def layoutMoment? (layout s : String) : Option Moment :=
  if layout ∈ dateLayouts then midnightIn? layout s else momentIn? layout s

def readInOrder? (order : List String) (s : String) : Option Moment :=
  order.findSome? fun layout => layoutMoment? layout s

private theorem readInLayouts?_eq (s : String) : readInLayouts? s = readInOrder? layouts s := by
  have hmoments : momentLayouts.findSome? (layoutMoment? · s) =
      momentLayouts.findSome? fun layout => momentIn? layout s := rfl
  have hdates : dateLayouts.findSome? (layoutMoment? · s) =
      dateLayouts.findSome? fun layout => midnightIn? layout s := rfl
  rw [readInOrder?, layouts, List.findSome?_append, hmoments, hdates, readInLayouts?]

private theorem layoutMoment?_eq_some {layout : String} {t : String} {m : Moment}
    (h : layoutMoment? layout t = some m) :
    ∃ l f, Layout.read? layout.toList = some l ∧ l.fields? t = some f ∧
      momentOfFields? (decide (layout ∈ dateLayouts)) f = some m := by
  unfold layoutMoment? at h
  split at h
  · next hdate =>
    simp only [midnightIn?, Option.bind_eq_bind, Option.bind_eq_some_iff] at h
    obtain ⟨l, hl, f, hf, hm⟩ := h
    refine ⟨l, f, hl, hf, ?_⟩
    rw [momentOfFields?, if_pos (decide_eq_true hdate)]
    exact hm
  · next hdate =>
    simp only [momentIn?, Option.bind_eq_bind, Option.bind_eq_some_iff] at h
    obtain ⟨l, hl, f, hf, hm⟩ := h
    refine ⟨l, f, hl, hf, ?_⟩
    rw [momentOfFields?, if_neg (by simpa using hdate)]
    exact hm

/-- Layouts of which the second goes on where the first ends, or takes less of a name. -/
def variants : List (String × String) :=
  [("%Y-%m-%d %H:%M:%S", "%Y-%m-%d %H:%M:%S%.f"), ("%Y-%m-%dT%H:%M:%S", "%Y-%m-%dT%H:%M:%S%.f"),
    ("%B %d, %Y", "%b %d, %Y"), ("%d %B %Y", "%d %b %Y")]

/-- Layouts with the same three numbers in another order. Of each pair the first is tried first. -/
def rivals : List (String × String) :=
  [("%Y-%m-%d", "%d-%m-%Y"), ("%Y/%m/%d", "%m/%d/%Y")]

/-- Dates that rivals read from one text: the numbers of one are those of the other, crossed over. -/
inductive Crossed : String → String → Date → Date → Prop where
  | dashes {x y : Date} : x.year = y.day → x.month = y.month → x.day = y.year →
      Crossed "%Y-%m-%d" "%d-%m-%Y" x y
  | slashes {x y : Date} : x.year = y.month → x.month = y.day → x.day = y.year →
      Crossed "%Y/%m/%d" "%m/%d/%Y" x y

def meet (a b : String) : Bool :=
  match Layout.read? a.toList, Layout.read? b.toList with
  | some l, some l' => l.marksMeet l'
  | _, _ => true

private theorem pairs_of_meet : ∀ a ∈ layouts, ∀ b ∈ layouts, a = b ∨ meet a b = false ∨
    ((a, b) ∈ variants ∨ (b, a) ∈ variants) ∨ (a, b) ∈ rivals ∨ (b, a) ∈ rivals := by
  decide +kernel

private theorem isCommon_of_mem : ∀ a ∈ layouts,
    (Layout.read? a.toList).any (fun l => l.all Item.isCommon) = true := by
  decide +kernel

private theorem agree_of_front {a b : String} (front : Layout) (hl : l.Agree l')
    (ha : Layout.read? a.toList = some (front ++ l))
    (hb : Layout.read? b.toList = some (front ++ l')) (la lb : Layout)
    (hla : Layout.read? a.toList = some la) (hlb : Layout.read? b.toList = some lb) :
    la.Agree lb := by
  rw [ha] at hla
  rw [hb] at hlb
  cases hla
  cases hlb
  exact hl.append front

private theorem agree_of_variants : ∀ p ∈ variants,
    (p.1 ∈ dateLayouts ↔ p.2 ∈ dateLayouts) ∧
    ∀ l l', Layout.read? p.1.toList = some l → Layout.read? p.2.toList = some l' → l.Agree l' := by
  intro p hp
  simp only [variants, List.mem_cons, List.not_mem_nil, or_false] at hp
  rcases hp with rfl | rfl | rfl | rfl
  · exact ⟨by decide, agree_of_front (threeNumbers '-' .year .month .day ++
      .blank ' ' :: threeNumbers ':' .hour .minute .second) agree_fraction rfl rfl⟩
  · exact ⟨by decide, agree_of_front (threeNumbers '-' .year .month .day ++
      .char 'T' :: threeNumbers ':' .hour .minute .second) agree_fraction rfl rfl⟩
  · exact ⟨by decide, agree_of_front [] (agree_monthName ' ' true) rfl rfl⟩
  · exact ⟨by decide, agree_of_front [.number .day true, .blank ' '] (agree_monthName ' ' true)
      rfl rfl⟩

private theorem meet_of_layoutMoment? {a b t : String} {m m' : Moment} (ha : a ∈ layouts)
    (hb : b ∈ layouts)
    (h : layoutMoment? a t = some m) (h' : layoutMoment? b t = some m') : meet a b = true := by
  obtain ⟨l, f, hl, hf, -⟩ := layoutMoment?_eq_some h
  obtain ⟨l', f', hl', hf', -⟩ := layoutMoment?_eq_some h'
  have hcommon := isCommon_of_mem a ha
  have hcommon' := isCommon_of_mem b hb
  rw [hl, Option.any_some] at hcommon
  rw [hl', Option.any_some] at hcommon'
  unfold meet
  rw [hl, hl']
  exact marksMeet_of_fields? hcommon hcommon' hf hf'

private theorem eq_of_variants {a b t : String} {m m' : Moment} (hp : (a, b) ∈ variants)
    (h : layoutMoment? a t = some m) (h' : layoutMoment? b t = some m') : m = m' := by
  obtain ⟨hdates, hagree⟩ := agree_of_variants _ hp
  obtain ⟨l, f, hl, hf, hm⟩ := layoutMoment?_eq_some h
  obtain ⟨l', f', hl', hf', hm'⟩ := layoutMoment?_eq_some h'
  obtain rfl := hagree l l' hl hl' _ _ _ _ hf hf'
  rw [decide_eq_decide.2 hdates] at hm
  exact Option.some.inj (hm.symm.trans hm')

private theorem date_of_momentOfFields? {m : Moment} (h : momentOfFields? true f = some m) :
    f.date = .ok m.date ∧ m.time = .midnight := by
  rw [momentOfFields?, if_pos rfl] at h
  split at h
  · next hd =>
    cases h
    exact ⟨hd, rfl⟩
  · cases h

private theorem crossed_of_rivals {a b t : String} {m m' : Moment} (hp : (a, b) ∈ rivals)
    (h : layoutMoment? a t = some m) (h' : layoutMoment? b t = some m') :
    Crossed a b m.date m'.date ∧ m.time = m'.time := by
  have hdates : ∀ p ∈ rivals, p.1 ∈ dateLayouts ∧ p.2 ∈ dateLayouts := by decide
  obtain ⟨ha, hb⟩ := hdates _ hp
  obtain ⟨l, f, hl, hf, hm⟩ := layoutMoment?_eq_some h
  obtain ⟨l', f', hl', hf', hm'⟩ := layoutMoment?_eq_some h'
  rw [decide_eq_true ha] at hm
  rw [decide_eq_true hb] at hm'
  obtain ⟨hd, htime⟩ := date_of_momentOfFields? hm
  obtain ⟨hd', htime'⟩ := date_of_momentOfFields? hm'
  have hagree := agreesWith_of_date hd
  have hagree' := agreesWith_of_date hd'
  refine ⟨?_, htime.trans htime'.symm⟩
  simp only [rivals, List.mem_cons, List.not_mem_nil, or_false, Prod.mk.injEq] at hp
  rcases hp with ⟨rfl, rfl⟩ | ⟨rfl, rfl⟩
  · have hread : Layout.read? "%Y-%m-%d".toList = some (threeNumbers '-' .year .month .day) := rfl
    have hread' : Layout.read? "%d-%m-%Y".toList = some (threeNumbers '-' .day .month .year) := rfl
    cases hread.symm.trans hl
    cases hread'.symm.trans hl'
    obtain ⟨h₁, h₂, h₃⟩ :=
      threeNumbers_agree (by decide) (by decide) (by decide) hf hf' hagree hagree'
    exact .dashes h₁ (Int.ofNat_inj.1 h₂) h₃
  · have hread : Layout.read? "%Y/%m/%d".toList = some (threeNumbers '/' .year .month .day) := rfl
    have hread' : Layout.read? "%m/%d/%Y".toList = some (threeNumbers '/' .month .day .year) := rfl
    cases hread.symm.trans hl
    cases hread'.symm.trans hl'
    obtain ⟨h₁, h₂, h₃⟩ :=
      threeNumbers_agree (by decide) (by decide) (by decide) hf hf' hagree hagree'
    exact .slashes h₁ (Int.ofNat_inj.1 h₂) h₃

/-- Whatever two layouts read of one text, it is the same moment or two dates crossed over. -/
theorem layoutMoment?_agree {a b t : String} {m m' : Moment} (ha : a ∈ layouts) (hb : b ∈ layouts)
    (h : layoutMoment? a t = some m) (h' : layoutMoment? b t = some m') :
    m = m' ∨ (Crossed a b m.date m'.date ∨ Crossed b a m'.date m.date) ∧ m.time = m'.time := by
  have hmeet := meet_of_layoutMoment? ha hb h h'
  rcases pairs_of_meet a ha b hb with rfl | hnone | (hv | hv) | hr | hr
  · exact .inl (Option.some.inj (h.symm.trans h'))
  · rw [hmeet] at hnone
    cases hnone
  · exact .inl (eq_of_variants hv h h')
  · exact .inl (eq_of_variants hv h' h).symm
  · obtain ⟨hcrossed, htime⟩ := crossed_of_rivals hr h h'
    exact .inr ⟨.inl hcrossed, htime⟩
  · obtain ⟨hcrossed, htime⟩ := crossed_of_rivals hr h' h
    exact .inr ⟨.inr hcrossed, htime.symm⟩

/-! ### The order of the layouts -/

/-- Where `R` says which of two disagreeing readers is to be tried first, it decides what is found. -/
private theorem findSome?_eq_of_perm {α β : Type} {R : α → α → Prop} {p : α → Option β}
    {xs ys : List α} (hperm : xs.Perm ys) (hx : xs.Pairwise fun a b => ¬R b a)
    (hy : ys.Pairwise fun a b => ¬R b a)
    (hagree : ∀ a ∈ xs, ∀ b ∈ xs, ∀ m m', p a = some m → p b = some m' → m = m' ∨ R a b ∨ R b a) :
    xs.findSome? p = ys.findSome? p := by
  -- The first that reads comes after none that is to be tried first and reads.
  have hfirst {zs : List α} {m : β} (hz : zs.Pairwise fun a b => ¬R b a)
      (h : zs.findSome? p = some m) :
      ∃ a ∈ zs, p a = some m ∧ ∀ b ∈ zs, ∀ m', p b = some m' → m = m' ∨ ¬R b a := by
    obtain ⟨front, a, back, rfl, ha, hnone⟩ := List.findSome?_eq_some_iff.1 h
    refine ⟨a, by simp, ha, fun b hb m' hm' => ?_⟩
    rcases List.mem_append.1 hb with hb | hb
    · rw [hnone b hb] at hm'
      cases hm'
    · rcases List.mem_cons.1 hb with rfl | hb
      · exact .inl (Option.some.inj (ha.symm.trans hm'))
      · exact .inr ((List.pairwise_cons.1 (List.pairwise_append.1 hz).2.1).1 b hb)
  have hsome : (xs.findSome? p).isSome = (ys.findSome? p).isSome := by
    rw [Bool.eq_iff_iff, List.findSome?_isSome_iff, List.findSome?_isSome_iff]
    simp only [hperm.mem_iff]
  cases hm : xs.findSome? p with
  | none =>
    rw [hm] at hsome
    rw [Option.isSome_none, eq_comm, Option.isSome_eq_false_iff, Option.isNone_iff_eq_none] at hsome
    exact hsome.symm
  | some m =>
    rw [hm] at hsome
    obtain ⟨m', hm'⟩ := Option.isSome_iff_exists.1 hsome.symm
    rw [hm']
    obtain ⟨a, ha, hpa, hlast⟩ := hfirst hx hm
    obtain ⟨b, hb, hpb, hlast'⟩ := hfirst hy hm'
    congr 1
    rcases hlast b (hperm.mem_iff.2 hb) m' hpb with he | hba
    · exact he
    rcases hlast' a (hperm.mem_iff.1 ha) m hpa with he | hab
    · exact he.symm
    rcases hagree a ha b (hperm.mem_iff.2 hb) m m' hpa hpb with he | h | h
    · exact he
    · exact absurd h hab
    · exact absurd h hba

/-- The layouts, each once and in any order in which rivals are tried in theirs. -/
structure IsOrder (order : List String) : Prop where
  perm : order.Perm layouts
  rivals : order.Pairwise fun a b => (b, a) ∉ rivals

private theorem Crossed.mem_rivals {a b : String} (h : Crossed a b d d') : (a, b) ∈ rivals := by
  cases h <;> decide

private theorem isOrder_layouts : IsOrder layouts where
  perm := .refl _
  rivals := by decide

private theorem readInOrder?_eq {order : List String} (h : IsOrder order) (s : String) :
    readInOrder? order s = readInLayouts? s := by
  rw [readInLayouts?_eq]
  apply findSome?_eq_of_perm h.perm h.rivals isOrder_layouts.rivals
  intro a ha b hb m m' hm hm'
  rcases layoutMoment?_agree (h.perm.mem_iff.1 ha) (h.perm.mem_iff.1 hb) hm hm' with
    he | ⟨hcrossed | hcrossed, -⟩
  · exact .inl he
  · exact .inr (.inl hcrossed.mem_rivals)
  · exact .inr (.inr hcrossed.mem_rivals)

def readMomentWith? (read : String → Option Moment) (now : Moment) (s : String) : Option Moment :=
  let s := Text.trim s
  if s.isEmpty then none
  else match wordMoment? now s with
    | some m => m
    | none =>
      ((timestampFields? s.toList).bind Fields.universal?).or <|
        ((headerFields? s.toList).bind Fields.universal?).or <|
          read s

private theorem readMoment?_eq : readMoment? = readMomentWith? readInLayouts? := by
  funext now s
  cases hw : wordMoment? now (Text.trim s) <;> simp only [readMoment?, readMomentWith?, hw]

end FormCheck.Calendar

namespace FormCheck.Checks

open Calendar (Moment layouts layoutMoment? readInOrder? readMomentWith? readMoment?)

variable (reader : Moment → String → Option Moment)

def dateWith (env : Surroundings) (v : Value) (params : List String) : Bool :=
  match v with
  | .text s =>
    match params.head? with
    | some format =>
      if format.isEmpty then (reader env.now s).isSome
      else Calendar.Letters.fitsFormat env.now.date s format
    | none => (reader env.now s).isSome
  | _ => false

private theorem date_eq : date = dateWith readMoment? := rfl

def compareMomentsWith (test : Moment → Moment → Bool) (env : Surroundings) (v : Value)
    (params : List String) : Bool :=
  let reference := params.head?.bind (reader env.now)
  let actual := v.asText?.bind (reader env.now)
  match actual, reference with
  | some a, some b => test a b
  | _, _ => false

private theorem compareMoments_eq : compareMoments = compareMomentsWith readMoment? := rfl

/-- Two layouts that read the same text denote the same moment, or they are rivals and read the same
three numbers crossed over. In every order in which rivals are tried in theirs, the answers are those
of the order in which the layouts stand. -/
theorem layouts_agree_or_cross :
    (∀ a ∈ layouts, ∀ b ∈ layouts, ∀ s m m', layoutMoment? a s = some m →
      layoutMoment? b s = some m' →
      m = m' ∨
        (Calendar.Crossed a b m.date m'.date ∨ Calendar.Crossed b a m'.date m.date) ∧
          m.time = m'.time) ∧
    ∀ order, Calendar.IsOrder order →
      let reader := readMomentWith? (readInOrder? order)
      (∀ now s, reader now s = readMoment? now s) ∧
      ∀ env v params, dateWith reader env v params = date env v params ∧
        compareMomentsWith reader (fun a b => a.before b) env v params = before env v params ∧
        compareMomentsWith reader (fun a b => b.before a) env v params = after env v params := by
  refine ⟨fun a ha b hb s m m' => Calendar.layoutMoment?_agree ha hb, fun order h => ?_⟩
  have hread : readInOrder? order = Calendar.readInLayouts? :=
    funext fun s => Calendar.readInOrder?_eq h s
  intro reader
  have hreader : reader = readMoment? := by
    unfold reader
    rw [hread, Calendar.readMoment?_eq]
  rw [hreader, date_eq, before, after, compareMoments_eq]
  exact ⟨fun _ _ => rfl, fun _ _ _ => ⟨rfl, rfl, rfl⟩⟩

theorem layouts_agree_or_cross_dates_first :
    Calendar.IsOrder (Calendar.dateLayouts ++ Calendar.momentLayouts) ∧
    ∀ env v params,
      dateWith (readMomentWith? (readInOrder? (Calendar.dateLayouts ++ Calendar.momentLayouts)))
        env v params = date env v params := by
  have h : Calendar.IsOrder (Calendar.dateLayouts ++ Calendar.momentLayouts) :=
    ⟨List.perm_append_comm, by decide⟩
  exact ⟨h, fun env v params => ((layouts_agree_or_cross.2 _ h).2 env v params).1⟩

/-- Three numbers with dashes or slashes denote one date with the year in front and another with it
at the end. If the layouts are tried from the last to the first, the second date is found. -/
theorem layouts_cross :
    let numbers (m : Moment) : Int × Nat × Nat := (m.date.year, m.date.month, m.date.day)
    let now : Moment := ⟨⟨1970, 1, 1, by decide, by decide, by decide⟩, .midnight⟩
    let reversed := readMomentWith? (readInOrder? layouts.reverse)
    (layoutMoment? "%Y-%m-%d" "01-02-03").map numbers = some (1, 2, 3) ∧
    (layoutMoment? "%d-%m-%Y" "01-02-03").map numbers = some (3, 2, 1) ∧
    (readMoment? now "01-02-03").map numbers = some (1, 2, 3) ∧
    (reversed now "01-02-03").map numbers = some (3, 2, 1) ∧
    (readMoment? now "1/2/3").map numbers = some (1, 2, 3) ∧
    (reversed now "1/2/3").map numbers = some (3, 1, 2) := by
  decide +kernel

end FormCheck.Checks
