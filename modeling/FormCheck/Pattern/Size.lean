import FormCheck.Pattern.Basic

/-!
How much memory a pattern takes as a machine over the bytes of UTF-8, read forwards and backwards.
Patterns above a limit are refused before they are run.
-/
namespace FormCheck.Pattern

/-- The first of the places where a range of code points must be cut so that the encodings of its
parts differ in whole bytes only: the last code point before the cut. -/
def cutPoint? (first last : Nat) : Option Nat :=
  let across := [0x7F, 0x7FF, 0xD7FF, 0xDFFF, 0xFFFF].find? fun n => first ≤ n && n < last
  let aligned := [0x40, 0x1000, 0x40000].findSome? fun m =>
    if first / m = last / m then none
    else if first % m ≠ 0 then some (first / m * m + m - 1)
    else if last % m ≠ m - 1 then some (last / m * m - 1)
    else none
  if last < 0x80 then none else across.or aligned

def utf8Bytes (n : Nat) : List Nat :=
  (String.utf8EncodeChar (Char.ofNat n)).map UInt8.toNat

def byteRuns : Nat → Nat → Nat → List (List (Nat × Nat))
  | 0, _, _ => []
  | fuel + 1, first, last =>
    if 0xD800 ≤ first ∧ last ≤ 0xDFFF then []
    else match cutPoint? first last with
      | some n => byteRuns fuel first n ++ byteRuns fuel (n + 1) last
      | none => [(utf8Bytes first).zip (utf8Bytes last)]

def CharSet.byteRuns (s : CharSet) : List (List (Nat × Nat)) :=
  s.ranges.flatMap fun (first, last) => Pattern.byteRuns 32 first last

def sharedLength [BEq α] : List α → List α → Nat
  | a :: as, b :: bs => if a == b then sharedLength as bs + 1 else 0
  | _, _ => 0

def treeSize (previous : List (Nat × Nat)) : List (List (Nat × Nat)) → Nat
  | [] => 0
  | run :: runs => run.length - sharedLength previous run + treeSize run runs

/-- Bytes of memory for the two directions. -/
structure Size where
  forward : Nat
  backward : Nat

instance : Add Size := ⟨fun a b => ⟨a.forward + b.forward, a.backward + b.backward⟩⟩

def Size.both (n : Nat) : Size := ⟨n, n⟩

def Size.scale (n : Nat) (s : Size) : Size := ⟨n * s.forward, n * s.backward⟩

def stateSize : Nat := 32

def branchSize : Nat := 4

def rangeSize : Nat := 8

def CharSet.size (s : CharSet) : Size :=
  match s.ranges with
  | [] => .both stateSize
  | [(first, last)] =>
    if first = last then .both (stateSize * (utf8Bytes first).length)
    else wide
  | _ => wide
where
  wide : Size :=
    let runs := s.byteRuns
    let table := 2 * stateSize + rangeSize * runs.length
    if s.ranges.all fun r => r.2 < 0x80 then .both table
    else ⟨table, 2 * stateSize + branchSize * runs.length + stateSize * treeSize [] runs⟩

def Leaf.size : Leaf → Size
  | .one s => s.size
  | .place _ => .both stateSize

namespace Expr

def isBlank : Expr Leaf → Bool
  | empty => true
  | leaf (.one _) => false
  | leaf (.place _) => true
  | seq p q => p.isBlank && q.isBlank
  | alt p q => p.isBlank && q.isBlank
  | times p _ _ => p.isBlank
  | group p => p.isBlank

def isNullable : Expr Leaf → Bool
  | empty => true
  | leaf (.one _) => false
  | leaf (.place _) => true
  | seq p q => p.isNullable && q.isNullable
  | alt p q => p.isNullable || q.isNullable
  | times p min _ => min == 0 || p.isNullable
  | group p => p.isNullable

def forkSize : Nat := stateSize + 2 * branchSize

/-- Repeating `p`, of a size, takes a copy of it for each count that is named. -/
def timesSize (p : Expr Leaf) (size : Size) (min : Nat) (max : Option Nat) : Size :=
  let (min, max) := if p.isBlank then (Nat.min min 1, some (Nat.min (max.getD 1) 1)) else (min, max)
  let front := if min = 0 then .both stateSize else size.scale min
  match max with
  | some max =>
    if max = min then front
    else front + .both stateSize + (size + .both forkSize).scale (max - min)
  | none =>
    if 0 < min then front + .both forkSize
    else if p.isNullable then size + .both (2 * forkSize + stateSize)
    else size + .both forkSize

def size : Expr Leaf → Size
  | empty => .both stateSize
  | leaf a => a.size
  | seq p q => p.size + q.size
  | alt p q =>
    let last := match q with
      | alt _ _ => 0
      | _ => branchSize + 2 * stateSize
    p.size + q.size + .both (branchSize + last)
  | times p min max => timesSize p p.size min max
  | group p => p.size + ⟨2 * stateSize, 0⟩

def maxSize : Nat := 10 * Nat.pow 2 20

/-- The parts around a pattern: the whole match as a group, its end, and the skipping of what
stands before it. -/
def frameSize : Size := .both (2 * stateSize + forkSize) + ⟨2 * stateSize, 0⟩

def fits (p : Expr Leaf) : Bool :=
  let size := p.size + frameSize
  size.forward ≤ maxSize && size.backward ≤ maxSize

end Expr

end FormCheck.Pattern
