import FormCheck.Unicode.Folding

/-!
Sets of characters as ascending ranges of code points with gaps between them, their algebra, and
their closure under letter case.
-/
namespace FormCheck.Pattern

/-- A set of characters; the ranges ascend and no two of them touch. -/
structure CharSet where
  ranges : List (Nat × Nat)
  deriving DecidableEq

namespace CharSet

def joinRanges (first : Nat × Nat) : List (Nat × Nat) → List (Nat × Nat)
  | [] => [first]
  | next :: rest =>
    if next.1 ≤ first.2 + 1 then joinRanges (first.1, max first.2 next.2) rest
    else first :: joinRanges next rest

def ofRanges (ranges : List (Nat × Nat)) : CharSet :=
  match ranges.mergeSort fun r s => r.1 ≤ s.1 with
  | [] => ⟨[]⟩
  | first :: rest => ⟨joinRanges first rest⟩

def ofTable (table : Unicode.Ranges) : CharSet := .ofRanges table.bounds.toList

def single (c : Char) : CharSet := ⟨[(c.toNat, c.toNat)]⟩

def span (first last : Char) : CharSet := ⟨[(first.toNat, last.toNat)]⟩

def empty : CharSet := ⟨[]⟩

def contains (s : CharSet) (c : Char) : Bool :=
  s.ranges.any fun (first, last) => first ≤ c.toNat && c.toNat ≤ last

def gaps (start : Nat) : List (Nat × Nat) → List (Nat × Nat)
  | [] => if start ≤ 0x10FFFF then [(start, 0x10FFFF)] else []
  | (first, last) :: rest =>
    if start < first then (start, first - 1) :: gaps (last + 1) rest else gaps (last + 1) rest

def compl (s : CharSet) : CharSet := ⟨gaps 0 s.ranges⟩

def union (s t : CharSet) : CharSet := ofRanges (s.ranges ++ t.ranges)

def inter (s t : CharSet) : CharSet := (s.compl.union t.compl).compl

def diff (s t : CharSet) : CharSet := s.inter t.compl

def symmDiff (s t : CharSet) : CharSet := (s.diff t).union (t.diff s)

def folded (s : CharSet) : CharSet :=
  let groups := Unicode.foldingGroups.filter fun group =>
    group.any fun n => s.ranges.any fun (first, last) => first ≤ n && n ≤ last
  if groups.isEmpty then s else s.union (ofRanges (groups.flatten.map fun n => (n, n)))

def ascii : CharSet := ⟨[(0, 0x7F)]⟩

def foldedAscii (s : CharSet) : CharSet := s.union (s.folded.inter ascii)

end CharSet

end FormCheck.Pattern
