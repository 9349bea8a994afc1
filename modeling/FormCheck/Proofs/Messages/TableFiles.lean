import FormCheck.Messages.LocaleTable

/-!
Which files hold a table. A file that does not fails in one of three ways, each with a mistake of
its own.
-/
namespace FormCheck.LocaleTable

variable {files : Files.Tree} {locale path text : String} {e : Mistake}

def HoldsStrings (text : String) : Prop :=
  ∃ texts : List (String × String),
    Json.readRepeated? text = some (.object (texts.map fun (key, s) => (key, .string s)))

/-- Why there is no table at a path. -/
inductive Unloadable (files : Files.Tree) (locale path : String) : Mistake → Prop where
  | unreadable {reason : Files.ReadError} : files.readBytes path = .error reason →
      Unloadable files locale path (.unreadable path reason)
  | notText {bytes : ByteArray} : files.readBytes path = .ok bytes → Text.decode? bytes = none →
      Unloadable files locale path (.unreadable path .notText)
  | notStrings {bytes : ByteArray} {text : String} : files.readBytes path = .ok bytes →
      Text.decode? bytes = some text → ¬HoldsStrings text →
      Unloadable files locale path (.badTable locale)

theorem stringMembers?_eq_some_iff {members : List (String × Json)}
    {texts : List (String × String)} :
    stringMembers? members = some texts ↔ members = texts.map fun (key, s) => (key, .string s) := by
  induction members generalizing texts with
  | nil => cases texts <;> simp [stringMembers?]
  | cons member members ih =>
    obtain ⟨key, j⟩ := member
    cases j with
    | string s =>
      simp only [stringMembers?, Option.map_eq_some_iff, ih]
      constructor
      · rintro ⟨texts, rfl, rfl⟩
        rfl
      · intro h
        cases texts with
        | nil => cases h
        | cons entry texts =>
          obtain ⟨he, ht⟩ := List.cons.inj h
          cases he
          exact ⟨texts, ht, rfl⟩
    | _ =>
      constructor
      · intro h
        cases h
      · intro h
        cases texts with
        | nil => cases h
        | cons entry texts => cases h

private theorem isSome_ofJson?_iff {j : Json} :
    (ofJson? j).isSome ↔
      ∃ texts : List (String × String),
        j = .object (texts.map fun (key, s) => (key, .string s)) := by
  cases j with
  | object members =>
    rw [ofJson?, Option.isSome_map, Option.isSome_iff_exists]
    simp only [stringMembers?_eq_some_iff, Json.object.injEq]
  | _ =>
    constructor
    · intro h
      cases h
    · rintro ⟨texts, h⟩
      cases h

private theorem holdsStrings_iff :
    HoldsStrings text ↔ ((Json.readRepeated? text).bind ofJson?).isSome := by
  rw [Option.isSome_bind, Option.any_eq_true]
  simp only [isSome_ofJson?_iff]
  constructor
  · rintro ⟨texts, h⟩
    exact ⟨_, h, texts, rfl⟩
  · rintro ⟨j, hj, texts, rfl⟩
    exact ⟨texts, hj⟩

instance (text : String) : Decidable (HoldsStrings text) := decidable_of_iff _ holdsStrings_iff.symm

theorem parse_eq_error_iff :
    parse locale text = .error e ↔ ¬HoldsStrings text ∧ .badTable locale = e := by
  rw [parse, holdsStrings_iff]
  cases (Json.readRepeated? text).bind ofJson? with
  | none => simp
  | some table => simp

private theorem load_of_bytes {bytes : ByteArray} (h : files.readBytes path = .ok bytes) :
    load files locale path =
      (Text.decode? bytes).elim (.error (.unreadable path .notText)) (parse locale) := by
  rw [load, Files.Tree.readText, h]
  cases hd : Text.decode? bytes with
  | none => simp [bind, Except.bind, hd]
  | some text => simp [bind, Except.bind, hd]

private theorem load_of_unreadable {reason : Files.ReadError}
    (h : files.readBytes path = .error reason) :
    load files locale path = .error (.unreadable path reason) := by
  rw [load, Files.Tree.readText, h]
  rfl

theorem load_eq_error_iff : load files locale path = .error e ↔ Unloadable files locale path e := by
  constructor
  · intro h
    cases hb : files.readBytes path with
    | error reason =>
      rw [load_of_unreadable hb] at h
      cases h
      exact .unreadable hb
    | ok bytes =>
      rw [load_of_bytes hb] at h
      cases hd : Text.decode? bytes with
      | none =>
        rw [hd] at h
        cases h
        exact .notText hb hd
      | some text =>
        rw [hd] at h
        obtain ⟨hs, rfl⟩ := parse_eq_error_iff.1 h
        exact .notStrings hb hd hs
  · intro h
    cases h with
    | unreadable hb => exact load_of_unreadable hb
    | notText hb hd => rw [load_of_bytes hb, hd, Option.elim_none]
    | notStrings hb hd hs =>
      rw [load_of_bytes hb, hd, Option.elim_some]
      exact parse_eq_error_iff.2 ⟨hs, rfl⟩

end FormCheck.LocaleTable
