/-!
Maps with text keys that keep the order in which their keys first came. Putting a key again
replaces its value where it stands; erasing one closes the gap.
-/
namespace FormCheck

namespace Assoc

variable {α β : Type}

def get? (key : String) : List (String × α) → Option α
  | [] => none
  | (k, x) :: rest => if k = key then some x else get? key rest

/-- Replaces the value of a key in place, or adds the key at the end. -/
def put (key : String) (x : α) : List (String × α) → List (String × α)
  | [] => [(key, x)]
  | (k, y) :: rest => if k = key then (key, x) :: rest else (k, y) :: put key x rest

def erase (key : String) : List (String × α) → List (String × α)
  | [] => []
  | (k, y) :: rest => if k = key then rest else (k, y) :: erase key rest

def keys (entries : List (String × α)) : List String :=
  entries.map Prod.fst

theorem mem_keys_put {key k : String} {x : α} {entries : List (String × α)} :
    k ∈ keys (put key x entries) ↔ k = key ∨ k ∈ keys entries := by
  induction entries with
  | nil => simp [put, keys]
  | cons e rest ih =>
    obtain ⟨l, y⟩ := e
    unfold put
    split
    · next h => subst h; simp [keys]
    · simp only [keys, List.map_cons, List.mem_cons] at ih ⊢
      rw [ih]
      exact or_left_comm

theorem nodup_put {key : String} {x : α} {entries : List (String × α)}
    (h : (keys entries).Nodup) : (keys (put key x entries)).Nodup := by
  induction entries with
  | nil => simp [put, keys]
  | cons e rest ih =>
    obtain ⟨l, y⟩ := e
    have hl : l ∉ keys rest := (List.nodup_cons.1 h).1
    have hr : (keys rest).Nodup := (List.nodup_cons.1 h).2
    unfold put
    split
    · next hk => subst hk; exact h
    · next hk =>
      exact List.nodup_cons.2 ⟨fun hm => (mem_keys_put.1 hm).elim hk hl, ih hr⟩

theorem keys_erase_sublist (key : String) (entries : List (String × α)) :
    (keys (erase key entries)).Sublist (keys entries) := by
  induction entries with
  | nil => exact List.Sublist.refl _
  | cons e rest ih =>
    obtain ⟨l, y⟩ := e
    unfold erase
    split
    · exact List.sublist_cons_self _ _
    · exact ih.cons_cons _

@[simp] theorem get?_put_self (key : String) (x : α) (entries : List (String × α)) :
    get? key (put key x entries) = some x := by
  induction entries with
  | nil => simp [put, get?]
  | cons e rest ih => unfold put; split <;> simp_all [get?]

theorem get?_put_of_ne {key k : String} (h : k ≠ key) (x : α) (entries : List (String × α)) :
    get? k (put key x entries) = get? k entries := by
  induction entries with
  | nil => simp [put, get?, h.symm]
  | cons e rest ih =>
    obtain ⟨l, y⟩ := e
    unfold put
    split
    · next hk => subst hk; simp [get?, h.symm]
    · simp [get?, ih]

end Assoc

/-- A finite map from text, in order of first insertion. -/
structure OrderedMap (α : Type) where
  entries : List (String × α)
  nodup : (Assoc.keys entries).Nodup
  deriving DecidableEq

namespace OrderedMap

variable {α β : Type}

def empty : OrderedMap α := ⟨[], List.nodup_nil⟩

instance : Inhabited (OrderedMap α) := ⟨empty⟩

def keys (m : OrderedMap α) : List String := Assoc.keys m.entries

def values (m : OrderedMap α) : List α := m.entries.map Prod.snd

def size (m : OrderedMap α) : Nat := m.entries.length

def isEmpty (m : OrderedMap α) : Bool := m.entries.isEmpty

def get? (m : OrderedMap α) (key : String) : Option α := Assoc.get? key m.entries

def contains (m : OrderedMap α) (key : String) : Bool := (m.get? key).isSome

/-- A key that is there keeps its place and takes the new value; a new one comes last. -/
def insert (m : OrderedMap α) (key : String) (x : α) : OrderedMap α :=
  ⟨Assoc.put key x m.entries, Assoc.nodup_put m.nodup⟩

def erase (m : OrderedMap α) (key : String) : OrderedMap α :=
  ⟨Assoc.erase key m.entries, (Assoc.keys_erase_sublist key m.entries).nodup m.nodup⟩

def insertAll (m : OrderedMap α) (entries : List (String × α)) : OrderedMap α :=
  entries.foldl (fun acc e => acc.insert e.1 e.2) m

def ofList (entries : List (String × α)) : OrderedMap α :=
  empty.insertAll entries

def map (f : String → α → β) (m : OrderedMap α) : OrderedMap β :=
  ⟨m.entries.map fun e => (e.1, f e.1 e.2), by
    have h : Assoc.keys (m.entries.map fun e => (e.1, f e.1 e.2)) = Assoc.keys m.entries := by
      simp [Assoc.keys]
    rw [h]; exact m.nodup⟩

/-- Equal as maps: the same keys with the same values, in whatever order. -/
def agrees [DecidableEq α] (m n : OrderedMap α) : Bool :=
  m.size == n.size && m.entries.all fun e => n.get? e.1 == some e.2

def sortedKeys (m : OrderedMap α) : List String :=
  m.keys.mergeSort fun a b => decide (a ≤ b)

@[simp] theorem get?_empty (key : String) : (empty : OrderedMap α).get? key = none := rfl

@[simp] theorem get?_insert_self (m : OrderedMap α) (key : String) (x : α) :
    (m.insert key x).get? key = some x :=
  Assoc.get?_put_self key x m.entries

theorem get?_insert_of_ne (m : OrderedMap α) {key k : String} (h : k ≠ key) (x : α) :
    (m.insert key x).get? k = m.get? k :=
  Assoc.get?_put_of_ne h x m.entries

theorem mem_keys_insert {m : OrderedMap α} {key k : String} {x : α} :
    k ∈ (m.insert key x).keys ↔ k = key ∨ k ∈ m.keys :=
  Assoc.mem_keys_put

end OrderedMap

end FormCheck
