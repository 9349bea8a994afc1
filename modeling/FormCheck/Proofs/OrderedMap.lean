import Mathlib.Data.List.Nodup
import Mathlib.Data.List.Perm.Subperm
import FormCheck.OrderedMap

/-!
The order of an ordered map. Putting a key moves no other key and erasing one keeps the order of
the rest, so a map is fixed by its keys in order and by what it holds at each of them.
-/
namespace FormCheck

namespace Assoc

variable {α : Type}

theorem isSome_get?_iff {key : String} {entries : List (String × α)} :
    (get? key entries).isSome = true ↔ key ∈ keys entries := by
  induction entries with
  | nil => simp [get?, keys]
  | cons e rest ih =>
    obtain ⟨k, x⟩ := e
    by_cases h : k = key
    · subst h
      simp [get?, keys]
    · simp only [get?, h, if_false, ih, keys, List.map_cons, List.mem_cons]
      constructor
      · exact Or.inr
      · rintro (hk | hr)
        · exact absurd hk.symm h
        · exact hr

theorem get?_of_mem {key : String} {x : α} {entries : List (String × α)}
    (hn : (keys entries).Nodup) (h : (key, x) ∈ entries) : get? key entries = some x := by
  induction entries with
  | nil => cases h
  | cons e rest ih =>
    obtain ⟨k, y⟩ := e
    obtain ⟨hk, hr⟩ := List.nodup_cons.1 hn
    rcases List.mem_cons.1 h with heq | hm
    · cases heq
      simp [get?]
    · have hne : k ≠ key := by
        rintro rfl
        exact hk (List.mem_map.2 ⟨(k, x), hm, rfl⟩)
      simp only [get?, hne, if_false]
      exact ih hr hm

theorem mem_of_get? {key : String} {x : α} {entries : List (String × α)}
    (h : get? key entries = some x) : (key, x) ∈ entries := by
  induction entries with
  | nil => cases h
  | cons e rest ih =>
    obtain ⟨k, y⟩ := e
    unfold get? at h
    split at h
    · next hk =>
      cases h
      rw [hk]
      exact List.mem_cons_self
    · exact List.mem_cons_of_mem _ (ih h)

theorem mem_put {key : String} {x : α} {entries : List (String × α)} {e : String × α}
    (h : e ∈ put key x entries) : e = (key, x) ∨ e ∈ entries := by
  induction entries with
  | nil => exact .inl (List.mem_singleton.1 h)
  | cons f rest ih =>
    obtain ⟨k, y⟩ := f
    unfold put at h
    split at h
    · rcases List.mem_cons.1 h with he | hr
      · exact .inl he
      · exact .inr (List.mem_cons_of_mem _ hr)
    · rcases List.mem_cons.1 h with rfl | hr
      · exact .inr List.mem_cons_self
      · exact (ih hr).imp_right (List.mem_cons_of_mem _)

theorem put_of_not_mem {key : String} {x : α} {entries : List (String × α)}
    (h : key ∉ keys entries) : put key x entries = entries ++ [(key, x)] := by
  induction entries with
  | nil => rfl
  | cons e rest ih =>
    obtain ⟨k, y⟩ := e
    obtain ⟨hk, hr⟩ := List.ne_and_not_mem_of_not_mem_cons h
    rw [put, if_neg (Ne.symm hk), ih hr]
    rfl

theorem keys_put (key : String) (x : α) (entries : List (String × α)) :
    keys (put key x entries) =
      if key ∈ keys entries then keys entries else keys entries ++ [key] := by
  induction entries with
  | nil => simp [put, keys]
  | cons e rest ih =>
    obtain ⟨k, y⟩ := e
    unfold put
    by_cases h : k = key
    · subst h
      simp [keys]
    · have hm : key ∈ keys ((k, y) :: rest) ↔ key ∈ keys rest := by
        simp [keys, Ne.symm h]
      simp only [h, if_false, hm]
      change k :: keys (put key x rest) = _
      rw [ih]
      split <;> rfl

theorem keys_erase (key : String) (entries : List (String × α)) :
    keys (erase key entries) = (keys entries).erase key := by
  induction entries with
  | nil => rfl
  | cons e rest ih =>
    obtain ⟨k, y⟩ := e
    unfold erase
    by_cases h : k = key
    · subst h
      simp [keys]
    · simp only [h, if_false]
      change k :: keys (erase key rest) = (k :: keys rest).erase key
      rw [ih, List.erase_cons_tail (by simpa using h)]

theorem get?_erase_of_ne {key k : String} (h : k ≠ key) (entries : List (String × α)) :
    get? k (erase key entries) = get? k entries := by
  induction entries with
  | nil => rfl
  | cons e rest ih =>
    obtain ⟨l, y⟩ := e
    unfold erase
    split
    · next hl => subst hl; simp [get?, h.symm]
    · simp [get?, ih]

end Assoc

namespace OrderedMap

variable {α : Type}

@[ext] theorem ext {m n : OrderedMap α} (h : m.entries = n.entries) : m = n := by
  cases m
  cases n
  cases h
  rfl

theorem nodup_keys (m : OrderedMap α) : m.keys.Nodup := m.nodup

theorem contains_iff {m : OrderedMap α} {key : String} : m.contains key = true ↔ key ∈ m.keys :=
  Assoc.isSome_get?_iff

theorem get?_eq_none_iff {m : OrderedMap α} {key : String} : m.get? key = none ↔ key ∉ m.keys := by
  rw [← contains_iff, contains, Bool.not_eq_true, Option.isSome_eq_false_iff,
    Option.isNone_iff_eq_none]

theorem isEmpty_iff {m : OrderedMap α} : m.isEmpty = true ↔ m.keys = [] := by
  simp [isEmpty, keys, Assoc.keys, List.isEmpty_iff]

theorem keys_insert (m : OrderedMap α) (key : String) (x : α) :
    (m.insert key x).keys = if key ∈ m.keys then m.keys else m.keys ++ [key] :=
  Assoc.keys_put key x m.entries

theorem get?_insert (m : OrderedMap α) (key k : String) (x : α) :
    (m.insert key x).get? k = if k = key then some x else m.get? k := by
  split
  · next h => rw [h, get?_insert_self]
  · next h => exact get?_insert_of_ne m h x

theorem get?_ofList_singleton (key : String) (x : α) : (ofList [(key, x)]).get? key = some x :=
  get?_insert_self _ _ _

theorem keys_erase (m : OrderedMap α) (key : String) :
    (m.erase key).keys = m.keys.filter (· != key) := by
  rw [← m.nodup_keys.erase_eq_filter]
  exact Assoc.keys_erase key m.entries

theorem get?_erase_of_ne (m : OrderedMap α) {key k : String} (h : k ≠ key) :
    (m.erase key).get? k = m.get? k :=
  Assoc.get?_erase_of_ne h m.entries

private theorem insertAll_cons (m : OrderedMap α) (e : String × α) (entries : List (String × α)) :
    m.insertAll (e :: entries) = (m.insert e.1 e.2).insertAll entries := rfl

theorem entries_insertAll {m : OrderedMap α} {entries : List (String × α)}
    (h : (Assoc.keys (m.entries ++ entries)).Nodup) :
    (m.insertAll entries).entries = m.entries ++ entries := by
  induction entries generalizing m with
  | nil => exact (List.append_nil _).symm
  | cons e entries ih =>
    have hnew : e.1 ∉ Assoc.keys m.entries := by
      rw [Assoc.keys, List.map_append, List.map_cons] at h
      exact fun hm => (List.nodup_append.1 h).2.2 _ hm _ List.mem_cons_self rfl
    have he : (m.insert e.1 e.2).entries = m.entries ++ [e] := Assoc.put_of_not_mem hnew
    have hi := ih (m := m.insert e.1 e.2) (by rw [he, List.append_assoc]; exact h)
    rw [he, List.append_assoc] at hi
    exact hi

theorem mem_keys_insertAll {m : OrderedMap α} {key : String} {entries : List (String × α)} :
    key ∈ (m.insertAll entries).keys ↔ key ∈ m.keys ∨ key ∈ Assoc.keys entries := by
  induction entries generalizing m with
  | nil => simp [insertAll, Assoc.keys]
  | cons e entries ih =>
    have hk : key ∈ Assoc.keys (e :: entries) ↔ key = e.1 ∨ key ∈ Assoc.keys entries :=
      List.mem_cons
    rw [insertAll_cons, ih, mem_keys_insert, hk, or_assoc, or_left_comm]

theorem mem_keys_ofList {key : String} {entries : List (String × α)} :
    key ∈ (ofList entries).keys ↔ key ∈ Assoc.keys entries :=
  mem_keys_insertAll.trans (or_iff_right List.not_mem_nil)

@[simp] theorem ofList_entries (m : OrderedMap α) : ofList m.entries = m :=
  ext (entries_insertAll (m := empty) m.nodup)

theorem nodup_entries (m : OrderedMap α) : m.entries.Nodup := m.nodup.of_map _

theorem agrees_iff_perm [DecidableEq α] {m n : OrderedMap α} :
    m.agrees n = true ↔ m.entries.Perm n.entries := by
  simp only [agrees, Bool.and_eq_true, beq_iff_eq, List.all_eq_true]
  constructor
  · rintro ⟨hsize, hall⟩
    have hsub : m.entries ⊆ n.entries := fun e he => Assoc.mem_of_get? (hall e he)
    exact (m.nodup_entries.subperm hsub).perm_of_length_le (Nat.le_of_eq hsize.symm)
  · intro h
    exact ⟨h.length_eq, fun e he => Assoc.get?_of_mem n.nodup (h.mem_iff.1 he)⟩

theorem entries_eq_map {m : OrderedMap α} {f : String → α}
    (h : ∀ k ∈ m.keys, m.get? k = some (f k)) : m.entries = m.keys.map fun k => (k, f k) := by
  have hf : ∀ e ∈ m.entries, (e.1, f e.1) = e := by
    intro e he
    have hg : m.get? e.1 = some e.2 := Assoc.get?_of_mem m.nodup he
    have hv := h e.1 (List.mem_map_of_mem he)
    rw [hg, Option.some.injEq] at hv
    rw [← hv]
  calc m.entries = m.entries.map fun e => (e.1, f e.1) := by
        rw [List.map_congr_left hf, List.map_id']
    _ = m.keys.map fun k => (k, f k) := by simp [keys, Assoc.keys]

private theorem entries_eq_filterMap (m : OrderedMap α) :
    m.entries = m.keys.filterMap fun k => (m.get? k).map fun x => (k, x) := by
  have he : ∀ e ∈ m.entries, (m.get? e.1).map (fun x => (e.1, x)) = some e := by
    intro e he
    have hg : m.get? e.1 = some e.2 := Assoc.get?_of_mem m.nodup he
    rw [hg]
    rfl
  rw [keys, Assoc.keys, List.filterMap_map]
  exact ((List.filterMap_congr he).trans List.filterMap_some).symm

theorem ext_get? {m n : OrderedMap α} (hk : m.keys = n.keys) (hg : ∀ k, m.get? k = n.get? k) :
    m = n := by
  apply ext
  rw [entries_eq_filterMap m, entries_eq_filterMap n, hk, funext hg]

theorem get?_insertAll {m : OrderedMap α} {entries : List (String × α)}
    (h : (Assoc.keys entries).Nodup) (key : String) :
    (m.insertAll entries).get? key = (Assoc.get? key entries).or (m.get? key) := by
  induction entries generalizing m with
  | nil => rfl
  | cons e entries ih =>
    obtain ⟨k, x⟩ := e
    obtain ⟨hk, hr⟩ := List.nodup_cons.1 h
    rw [insertAll_cons, ih hr, get?_insert, Assoc.get?]
    by_cases he : key = k
    · subst he
      have hnone : Assoc.get? key entries = none := by
        rw [← Option.not_isSome_iff_eq_none, Assoc.isSome_get?_iff]
        exact hk
      rw [hnone, if_pos rfl, if_pos rfl]
      rfl
    · rw [if_neg he, if_neg (Ne.symm he)]

theorem keys_insertAll {m : OrderedMap α} {entries : List (String × α)}
    (h : (Assoc.keys entries).Nodup) :
    (m.insertAll entries).keys =
      m.keys ++ (Assoc.keys entries).filter fun k => k ∉ m.keys := by
  induction entries generalizing m with
  | nil => exact (List.append_nil _).symm
  | cons e entries ih =>
    obtain ⟨k, x⟩ := e
    obtain ⟨hk, hr⟩ := List.nodup_cons.1 h
    have hc : Assoc.keys ((k, x) :: entries) = k :: Assoc.keys entries := rfl
    rw [insertAll_cons, ih hr, hc, keys_insert]
    by_cases hm : k ∈ m.keys
    · rw [if_pos hm, List.filter_cons_of_neg (by simpa using hm)]
    · have hf : (Assoc.keys entries).filter (fun j => j ∉ m.keys ++ [k]) =
          (Assoc.keys entries).filter fun j => j ∉ m.keys := by
        apply List.filter_congr
        intro j hj
        have hne : j ≠ k := fun he => hk (he ▸ hj)
        simp [hne]
      rw [if_neg hm, hf, List.filter_cons_of_pos (by simpa using hm), List.append_assoc]
      rfl

/-- The entries of a second map put over those of a first. -/
def overlay (m n : OrderedMap α) : OrderedMap α := m.insertAll n.entries

theorem get?_overlay (m n : OrderedMap α) (key : String) :
    (m.overlay n).get? key = (n.get? key).or (m.get? key) :=
  get?_insertAll n.nodup key

theorem keys_overlay (m n : OrderedMap α) :
    (m.overlay n).keys = m.keys ++ n.keys.filter fun k => k ∉ m.keys :=
  keys_insertAll n.nodup

theorem overlay_assoc (l m n : OrderedMap α) :
    (l.overlay m).overlay n = l.overlay (m.overlay n) := by
  apply ext_get?
  · simp only [keys_overlay, List.filter_append, List.filter_filter, List.append_assoc]
    congr 2
    apply List.filter_congr
    intro k _
    rw [Bool.eq_iff_iff]
    simp only [List.mem_append, List.mem_filter, decide_eq_true_iff, Bool.and_eq_true]
    tauto
  · intro key
    simp only [get?_overlay, Option.or_assoc]

theorem overlay_empty (m : OrderedMap α) : m.overlay empty = m := rfl

theorem empty_overlay (m : OrderedMap α) : empty.overlay m = m := ofList_entries m

theorem insert_overlay (m n : OrderedMap α) (key : String) (x : α) :
    (m.overlay n).insert key x = m.overlay (n.insert key x) :=
  overlay_assoc m n (empty.insert key x)

theorem entries_overlay (m n : OrderedMap α) :
    (m.overlay n).entries = m.entries.map (fun e => (e.1, (n.get? e.1).getD e.2)) ++
      n.entries.filter fun e => !m.contains e.1 := by
  rw [entries_eq_filterMap, keys_overlay, List.filterMap_append]
  congr 1
  · rw [keys, Assoc.keys, List.filterMap_map, ← List.filterMap_eq_map]
    apply List.filterMap_congr
    intro e he
    have hg : m.get? e.1 = some e.2 := Assoc.get?_of_mem m.nodup he
    simp only [Function.comp_apply, get?_overlay, hg]
    cases n.get? e.1 <;> rfl
  · have hnew : n.keys.filter (fun k => k ∉ m.keys) =
        (n.entries.filter fun e => !m.contains e.1).map Prod.fst := by
      have hk : n.keys = n.entries.map Prod.fst := rfl
      rw [hk, List.filter_map]
      congr 1
      apply List.filter_congr
      intro e _
      rw [Function.comp_apply, decide_not, Bool.not_inj_iff, Bool.eq_iff_iff, decide_eq_true_iff,
        contains_iff]
    rw [hnew, List.filterMap_map]
    refine (List.filterMap_congr fun e he => ?_).trans List.filterMap_some
    have hg : n.get? e.1 = some e.2 := Assoc.get?_of_mem n.nodup (List.mem_of_mem_filter he)
    rw [Function.comp_apply, get?_overlay, hg]
    rfl

end OrderedMap

end FormCheck
