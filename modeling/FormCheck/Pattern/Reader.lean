import FormCheck.Decimal.Literal
import FormCheck.Pattern.Bracket
import FormCheck.Unicode.Letter

/-!
The syntax of patterns: alternatives of sequences of repeated items, in groups that may be named
and may set flags. Groups that look around and references to groups are not part of it.
-/
namespace FormCheck.Pattern

/-- A piece of a pattern and how deeply pieces are nested in it. A setting of flags is a piece
that cannot be repeated. -/
structure Item where
  expr : Expr Leaf
  depth : Nat := 0
  repeatable : Bool := true

def Expr.sequence : List (Expr Leaf) → Expr Leaf
  | [] => .empty
  | [p] => p
  | .empty :: ps => Expr.sequence ps
  | p :: ps =>
    match Expr.sequence ps with
    | .empty => p
    | q => .seq p q

def Item.sequence : List Item → Item
  | [item] => item
  | items =>
    ⟨.sequence (items.map Item.expr), (items.map fun i => i.depth + 1).foldl max 0, true⟩

def Expr.choice : List (Expr Leaf) → Expr Leaf
  | [] => .empty
  | [p] => p
  | p :: ps =>
    match p, Expr.choice ps with
    | .leaf (.one s), .leaf (.one t) => .leaf (.one (s.union t))
    | p, q => .alt p q

def Item.choice : List Item → Item
  | [item] => item
  | items => ⟨.choice (items.map Item.expr), (items.map fun i => i.depth + 1).foldl max 0, true⟩

def Item.ofChar (flags : Flags) (c : Char) : Item :=
  let plain := !flags.unicode && 128 ≤ c.toNat
  ⟨.leaf (.one (if plain then .single c else flags.foldCase (.single c))), 0, true⟩

def Item.ofAtom (flags : Flags) : Atom → Item
  | .char c => .ofChar flags c
  | .class set => ⟨.leaf (.one set), 0, true⟩
  | .place p => ⟨.leaf (.place p), 0, true⟩

def dot? (flags : Flags) : Option CharSet :=
  if !flags.unicode then none
  else if flags.dotAll then some anyChar
  else some (CharSet.ofRanges (if flags.crlf then [(10, 10), (13, 13)] else [(10, 10)])).compl

def lineStart (flags : Flags) : Place :=
  if flags.multiLine then .lineStart flags.lineEnd else .textStart

def lineEnd (flags : Flags) : Place :=
  if flags.multiLine then .lineEnd flags.lineEnd else .textEnd

def readItem (flags : Flags) (c : Char) (s : List Char) : Option (Item × List Char) :=
  match c with
  | '\\' => (readEscape flags s).map fun (a, s) => (.ofAtom flags a, s)
  | '.' => (dot? flags).map fun set => (⟨.leaf (.one set), 0, true⟩, s)
  | '^' => some (⟨.leaf (.place (lineStart flags)), 0, true⟩, s)
  | '$' => some (⟨.leaf (.place (lineEnd flags)), 0, true⟩, s)
  | c => some (.ofChar flags c, s)

def maxCount : Nat := 0xFFFFFFFF

def readDigits (flags : Flags) (fuel : Nat) (s : List Char) : List Char × List Char :=
  match fuel, s with
  | 0, _ | _, [] => ([], s)
  | fuel + 1, c :: s =>
    if c.isDigit then
      let (digits, rest) := readDigits flags fuel (flags.skip s)
      (c :: digits, rest)
    else ([], c :: s)

def skipBlanks (flags : Flags) (s : List Char) : List Char :=
  flags.skip (s.dropWhile Text.isBlank)

def readCount (flags : Flags) (s : List Char) : Option Nat × List Char :=
  let (digits, s) := readDigits flags (s.length + 1) (s.dropWhile Text.isBlank)
  let value := Decimal.natOfDigits digits
  (if digits.isEmpty ∨ maxCount < value then none else some value, skipBlanks flags s)

def readBounds (flags : Flags) (s : List Char) : Option (Nat × Option Nat × List Char) := do
  let (low?, s) := readCount flags (flags.skip s)
  let low ← low?
  match s with
  | '}' :: s => return (low, some low, s)
  | ',' :: s =>
    match flags.skip s with
    | '}' :: s => return (low, none, s)
    | s =>
      let (high?, s) := readCount flags s
      let high ← high?
      guard (low ≤ high)
      let '}' :: s := s | none
      return (low, some high, s)
  | _ => none

def skipLazy : List Char → List Char
  | '?' :: s => s
  | s => s

def repeatLast (min : Nat) (max : Option Nat) : List Item → Option (List Item)
  | [] => none
  | last :: items =>
    if last.repeatable then some (⟨.times last.expr min max, last.depth + 1, true⟩ :: items)
    else none

/-- Reads the letters of a setting of flags up to the sign that ends it: which flags are named, and
whether the last sign was a minus, behind which flags are switched off. -/
def readFlags (flags : Flags) (seen : List Flag) (off pending : Bool) : List Char →
    Option (Flags × Bool × Char × List Char)
  | [] => none
  | c :: s =>
    if c = ':' ∨ c = ')' then
      if pending then none else some (flags, !seen.isEmpty, c, s)
    else if c = '-' then
      if off then none else readFlags flags seen true true s
    else match Flag.ofChar? c with
      | none => none
      | some flag =>
        if seen.contains flag then none
        else readFlags (flags.set (!off) flag) (flag :: seen) off false s

def isNameStart (c : Char) : Bool := c == '_' || Unicode.isAlphabetic c

def isNameChar (c : Char) : Bool :=
  "_.[]".toList.contains c || Unicode.isAlphabetic c || Unicode.isNumber c

def readName (names : List (List Char)) (s : List Char) : Option (List Char × List Char) := do
  let (name, rest) ← Text.splitFirst? '>' s
  let first :: more := name | none
  guard (isNameStart first && more.all isNameChar && !names.contains name)
  return (name, rest)

inductive Opening where
  | group (flags : Flags) (names : List (List Char)) (captures : Bool)
  | setting (flags : Flags)

def readParen (flags : Flags) (names : List (List Char)) (s : List Char) :
    Option (Opening × List Char) :=
  match flags.skip s with
  | '?' :: '=' :: _ | '?' :: '!' :: _ | '?' :: '<' :: '=' :: _ | '?' :: '<' :: '!' :: _ => none
  | '?' :: 'P' :: '<' :: s | '?' :: '<' :: s =>
    (readName names s).map fun (name, s) => (.group flags (name :: names) true, s)
  | '?' :: s =>
    match readFlags flags [] false false s with
    | some (flags, _, ':', s) => some (.group flags names false, s)
    | some (flags, true, ')', s) => some (.setting flags, s)
    | _ => none
  | s => some (.group flags names true, s)

/-- What has been read of a group: finished alternatives and the items of the current one, both
backwards. -/
structure Progress where
  flags : Flags
  names : List (List Char)
  branches : List Item := []
  items : List Item := []

def Progress.push (p : Progress) (item : Item) : Progress :=
  { p with items := item :: p.items }

def Progress.branch (p : Progress) : Progress :=
  { p with branches := .sequence p.items.reverse :: p.branches, items := [] }

def Progress.repeatLast? (p : Progress) (min : Nat) (max : Option Nat) : Option Progress :=
  (repeatLast min max p.items).map fun items => { p with items }

def Progress.finish (p : Progress) : Item :=
  .choice p.branch.branches.reverse

/-- Reads alternatives up to the end of the text, or of the group that they are in. Gives also the
names of groups so far. -/
def readAlternatives (inside : Bool) : Nat → Progress → List Char →
    Option (Item × List (List Char) × List Char)
  | 0, _, _ => none
  | fuel + 1, p, s => do
    match p.flags.skip s with
    | [] => if inside then none else return (p.finish, p.names, [])
    | ')' :: s => if inside then return (p.finish, p.names, s) else none
    | '|' :: s => readAlternatives inside fuel p.branch s
    | '(' :: s =>
      match ← readParen p.flags p.names s with
      | (.setting flags, s) =>
        readAlternatives inside fuel { p.push ⟨.empty, 0, false⟩ with flags } s
      | (.group flags names captures, s) =>
        let (inner, names, s) ← readAlternatives true fuel { flags, names } s
        let expr := if captures then .group inner.expr else inner.expr
        readAlternatives inside fuel { p.push ⟨expr, inner.depth + 1, true⟩ with names } s
    | '[' :: s =>
      let (part, s) ← readBracket p.flags s
      readAlternatives inside fuel (p.push ⟨.leaf (.one part.set), part.depth, true⟩) s
    | '?' :: s => readAlternatives inside fuel (← p.repeatLast? 0 (some 1)) (skipLazy s)
    | '*' :: s => readAlternatives inside fuel (← p.repeatLast? 0 none) (skipLazy s)
    | '+' :: s => readAlternatives inside fuel (← p.repeatLast? 1 none) (skipLazy s)
    | '{' :: s =>
      let (min, max, s) ← readBounds p.flags s
      readAlternatives inside fuel (← p.repeatLast? min max) (skipLazy (p.flags.skip s))
    | c :: s =>
      let (item, s) ← readItem p.flags c s
      readAlternatives inside fuel (p.push item) s

def maxDepth : Nat := 250

def Expr.read? (flags : Flags) (s : List Char) : Option (Expr Leaf) := do
  let (item, _, _) ← readAlternatives false (s.length + 1) { flags, names := [] } s
  guard (item.depth ≤ maxDepth)
  return item.expr

end FormCheck.Pattern
