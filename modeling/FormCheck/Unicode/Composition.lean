import FormCheck.Text.Split
import FormCheck.Unicode.CompositionTable
import FormCheck.Unicode.Ranges

/-!
The composed form of a text: its characters taken apart, the marks on each put in order, and what
has a composed character put together again.
-/
namespace FormCheck.Unicode

structure Composite where
  whole : Char
  first : Char
  second : Char

def composites : Array Composite :=
  ((Text.splitOn ';' compositionText.toList).filterMap fun entry =>
    match (Ranges.ofText (String.ofList entry)).bounds.toList with
    | [(w, _), (a, _), (b, _)] => some ⟨Char.ofNat w, Char.ofNat a, Char.ofNat b⟩
    | _ => none).toArray

def combiningClasses : List (Nat × Ranges) :=
  combiningClassTexts.map fun (k, text) => (k, .ofText text)

def combiningClass (c : Char) : Nat :=
  if c.toNat < 0x300 then 0
  else match combiningClasses.find? fun (_, r) => r.contains c with
    | some (k, _) => k
    | none => 0

/-- The leading consonant, the vowel and the trailing consonant of a Hangul syllable, counted from
the first of each. -/
def syllable? (c : Char) : Option (Nat × Nat × Nat) :=
  let n := c.toNat - 0xAC00
  if 0xAC00 ≤ c.toNat ∧ n < 11172 then some (n / 588, n % 588 / 28, n % 28) else none

def decompose : Nat → Char → List Char
  | 0, c => [c]
  | depth + 1, c =>
    if c.toNat < 0xC0 then [c]
    else match syllable? c with
      | some (l, v, t) =>
        let pair := [Char.ofNat (0x1100 + l), Char.ofNat (0x1161 + v)]
        if t = 0 then pair else pair ++ [Char.ofNat (0x11A7 + t)]
      | none =>
        match composites.find? fun e => e.whole == c with
        | some e => decompose depth e.first ++ [e.second]
        | none => [c]

def placeMark (x : Nat × Char) : List (Nat × Char) → List (Nat × Char)
  | [] => [x]
  | y :: ys => if y.1 ≠ 0 ∧ y.1 < x.1 then y :: placeMark x ys else x :: y :: ys

def orderMarks (s : List (Nat × Char)) : List (Nat × Char) :=
  s.foldr placeMark []

def compose? (a b : Char) : Option Char :=
  let l := a.toNat - 0x1100
  let v := b.toNat - 0x1161
  let t := b.toNat - 0x11A7
  if 0x1100 ≤ a.toNat ∧ l < 19 ∧ 0x1161 ≤ b.toNat ∧ v < 21 then
    some (Char.ofNat (0xAC00 + (l * 21 + v) * 28))
  else match syllable? a with
    | some (_, _, 0) =>
      if 0x11A7 < b.toNat ∧ t < 28 then some (Char.ofNat (a.toNat + t)) else none
    | _ => (composites.find? fun e => e.first == a && e.second == b).map Composite.whole

/-- Composes a character with those behind it. Between them stand marks, last first, that could
not be composed; a mark is kept from the character by one of no lower class. -/
def composeFrom (base : Char) (between : List (Nat × Char)) : List (Nat × Char) → List Char
  | [] => base :: (between.reverse.map Prod.snd)
  | (k, c) :: rest =>
    let reached := between.all fun m => m.1 < k
    match if reached then compose? base c else none with
    | some whole => composeFrom whole between rest
    | none =>
      if k = 0 then base :: (between.reverse.map Prod.snd) ++ composeFrom c [] rest
      else composeFrom base ((k, c) :: between) rest

def composeAll : List (Nat × Char) → List Char
  | [] => []
  | (k, c) :: rest => if k = 0 then composeFrom c [] rest else c :: composeAll rest

def composed (s : List Char) : List Char :=
  composeAll (orderMarks ((s.flatMap (decompose 8)).map fun c => (combiningClass c, c)))

end FormCheck.Unicode
