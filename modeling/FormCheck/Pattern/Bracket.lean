import FormCheck.Pattern.Escape

/-!
Sets in brackets: characters, ranges, named classes and nested sets, united or combined by the
operators of sets.
-/
namespace FormCheck.Pattern

/-- The operators between the parts of a set. All bind alike, from the left. -/
inductive SetOp where
  | inter
  | diff
  | symmDiff
  deriving DecidableEq

def SetOp.apply : SetOp → CharSet → CharSet → CharSet
  | .inter => .inter
  | .diff => .diff
  | .symmDiff => .symmDiff

structure Part where
  set : CharSet
  depth : Nat

structure Parts where
  set : CharSet := .empty
  count : Nat := 0
  depth : Nat := 0

def Parts.add (parts : Parts) (p : Part) : Parts :=
  ⟨parts.set.union p.set, parts.count + 1, max parts.depth p.depth⟩

def Parts.whole (parts : Parts) : Part :=
  ⟨parts.set, if parts.count ≤ 1 then parts.depth else parts.depth + 1⟩

/-- A set that is being read: what stands before the last operator, and the parts behind it. -/
structure OpenSet where
  negated : Bool
  left : Option (SetOp × Part) := none
  parts : Parts := {}

def OpenSet.add (s : OpenSet) (p : Part) : OpenSet := { s with parts := s.parts.add p }

def OpenSet.combined (s : OpenSet) : Part :=
  let right := s.parts.whole
  match s.left with
  | none => right
  | some (op, left) => ⟨op.apply left.set right.set, max left.depth right.depth + 1⟩

def OpenSet.push (s : OpenSet) (op : SetOp) : OpenSet :=
  { negated := s.negated, left := some (op, s.combined) }

def OpenSet.close (flags : Flags) (s : OpenSet) : Option Part := do
  let part := s.combined
  return ⟨← flags.negateIf s.negated part.set, part.depth + 1⟩

def literalSet (flags : Flags) (first last : Char) : Option Part := do
  guard (flags.unicode || (first.toNat < 128 && last.toNat < 128))
  guard (first ≤ last)
  return ⟨flags.foldCase (.span first last), 0⟩

def readLeading (flags : Flags) (start : OpenSet) : Nat → List Char →
    Option (OpenSet × List Char)
  | 0, _ => none
  | fuel + 1, s => do
    match flags.skip s with
    | [] => none
    | '-' :: s => readLeading flags (start.add (← literalSet flags '-' '-')) fuel s
    | ']' :: s =>
      if start.parts.count = 0 then
        let rest := flags.skip s
        guard (!rest.isEmpty)
        return (start.add (← literalSet flags ']' ']'), rest)
      else return (start, ']' :: s)
    | s => return (start, s)

def readOpening (flags : Flags) (s : List Char) : Option (OpenSet × List Char) :=
  match flags.skip s with
  | '^' :: s => readLeading flags { negated := true } (s.length + 1) s
  | s => readLeading flags { negated := false } (s.length + 1) s

def readAsciiClass (s : List Char) : Option (Bool × CharSet × List Char) :=
  match s with
  | ':' :: s =>
    let (negated, s) := match s with
      | '^' :: s => (true, s)
      | s => (false, s)
    match Text.splitFirst? ':' s with
    | some (name, ']' :: rest) =>
      (asciiClass? (String.ofList name)).map fun set => (negated, set, rest)
    | _ => none
  | _ => none

/-- The next character behind a hyphen, past blanks and one number sign in verbose patterns. -/
def peekBehind (flags : Flags) (s : List Char) : Option Char :=
  if flags.verbose then
    match s.dropWhile Text.isBlank with
    | '#' :: rest => (rest.dropWhile Text.isBlank).head?
    | rest => rest.head?
  else s.head?

def readMember (flags : Flags) : List Char → Option (Atom × List Char)
  | [] => none
  | '\\' :: s => readEscape flags s
  | c :: s => some (.char c, s)

/-- Reads a character, a class or a range. A hyphen makes a range unless a closing bracket or
another hyphen is behind it. -/
def readRange (flags : Flags) (s : List Char) : Option (Part × List Char) := do
  let (first, s) ← readMember flags s
  let single : Option Part := match first with
    | .char c => literalSet flags c c
    | .class set => some ⟨set, 0⟩
    | .place _ => none
  match flags.skip s with
  | [] => none
  | '-' :: s =>
    let next := peekBehind flags s
    if next = some ']' ∨ next = some '-' then return (← single, '-' :: s)
    else
      let (last, s) ← readMember flags (flags.skip s)
      match first, last with
      | .char first, .char last => return (← literalSet flags first last, s)
      | _, _ => none
  | s => return (← single, s)

def readSet (flags : Flags) : Nat → OpenSet → List Char → Option (Part × List Char)
  | 0, _, _ => none
  | fuel + 1, st, s => do
    match flags.skip s with
    | [] => none
    | '[' :: s =>
      match readAsciiClass s with
      | some (negated, set, s) =>
        let set ← flags.negateIf negated (flags.foldCase set)
        readSet flags fuel (st.add ⟨set, 0⟩) s
      | none =>
        let (inner, s) ← readOpening flags s
        let (part, s) ← readSet flags fuel inner s
        readSet flags fuel (st.add part) s
    | ']' :: s => return (← st.close flags, s)
    | '&' :: '&' :: s => readSet flags fuel (st.push .inter) s
    | '-' :: '-' :: s => readSet flags fuel (st.push .diff) s
    | '~' :: '~' :: s => readSet flags fuel (st.push .symmDiff) s
    | s =>
      let (part, s) ← readRange flags s
      readSet flags fuel (st.add part) s

def readBracket (flags : Flags) (s : List Char) : Option (Part × List Char) := do
  let (st, rest) ← readOpening flags s
  readSet flags (s.length + 1) st rest

end FormCheck.Pattern
