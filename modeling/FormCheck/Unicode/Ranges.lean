/-!
Sets of characters as ascending ranges of code points, written as text: hexadecimal numbers, with a
dash between the ends of a range and blanks between ranges.
-/
namespace FormCheck.Unicode

structure Ranges where
  bounds : Array (Nat × Nat)

instance : Inhabited Ranges := ⟨⟨#[]⟩⟩

structure Property where
  names : List String
  ranges : String

def hexValue (c : Char) : Nat :=
  if c.toNat < 58 then c.toNat - 48 else c.toNat - 55

/-- Ranges read so far, the start of the range being read, and the number being read. -/
structure Reading where
  done : Array (Nat × Nat) := #[]
  start : Option Nat := none
  current : Option Nat := none

def Reading.close (r : Reading) : Reading :=
  match r.current with
  | none => r
  | some n => { done := r.done.push (r.start.getD n, n) }

def Reading.step (r : Reading) (c : Char) : Reading :=
  if c = ' ' ∨ c = '\n' then r.close
  else if c = '-' then { r with start := r.current, current := none }
  else { r with current := some (r.current.getD 0 * 16 + hexValue c) }

def Ranges.ofText (s : String) : Ranges :=
  ⟨(s.foldl Reading.step {}).close.done⟩

def Ranges.search (r : Ranges) (n low high : Nat) : Nat → Bool
  | 0 => false
  | fuel + 1 =>
    if low < high then
      let middle := (low + high) / 2
      match r.bounds[middle]? with
      | none => false
      | some (first, last) =>
        if n < first then r.search n low middle fuel
        else if last < n then r.search n (middle + 1) high fuel
        else true
    else false

def Ranges.contains (r : Ranges) (c : Char) : Bool :=
  r.search c.toNat 0 r.bounds.size r.bounds.size

def lookup? (table : List Property) (name : String) : Option Ranges :=
  (table.find? fun p => p.names.contains name).map fun p => .ofText p.ranges

end FormCheck.Unicode
