import FormCheck.Pattern.Classes

/-!
Where a pattern can end in a text, given where it can begin. The positions of a text, before each
character and behind the last, are the bits of a number; a pattern moves such a set of positions.
A text matches if a pattern that begins anywhere can end somewhere.
-/
namespace FormCheck.Pattern

structure Surround where
  before : Option Char
  behind : Option Char

def surrounds (before : Option Char) : List Char → List Surround
  | [] => [⟨before, none⟩]
  | c :: cs => ⟨before, some c⟩ :: surrounds (some c) cs

def wordRanges : Unicode.Ranges := ⟨wordSet.ranges.toArray⟩

def Alphabet.isWord : Alphabet → Option Char → Bool
  | _, none => false
  | .ascii, some c => asciiWord.contains c
  | .unicode, some c => wordRanges.contains c

def Place.holds (s : Surround) : Place → Bool
  | .textStart => s.before.isNone
  | .textEnd => s.behind.isNone
  | .lineStart .lf => s.before.isNone || s.before == some '\n'
  | .lineEnd .lf => s.behind.isNone || s.behind == some '\n'
  | .lineStart .crlf =>
    s.before.isNone || s.before == some '\n' ||
      (s.before == some '\r' && s.behind != some '\n')
  | .lineEnd .crlf =>
    s.behind.isNone || s.behind == some '\r' ||
      (s.behind == some '\n' && s.before != some '\r')
  | .wordBoundary letters => letters.isWord s.before != letters.isWord s.behind
  | .notWordBoundary letters => letters.isWord s.before == letters.isWord s.behind
  | .wordStart letters => !letters.isWord s.before && letters.isWord s.behind
  | .wordEnd letters => letters.isWord s.before && !letters.isWord s.behind
  | .wordStartHalf letters => !letters.isWord s.before
  | .wordEndHalf letters => !letters.isWord s.behind

def bits (test : α → Bool) : List α → Nat
  | [] => 0
  | a :: as => (if test a then 1 else 0) + 2 * bits test as

/-- What a leaf does to a set of positions: step over characters, or stay where a condition holds;
with the positions where it can. -/
inductive Move where
  | step (positions : Nat)
  | stay (positions : Nat)

def Leaf.move (text : List Char) : Leaf → Move
  | .one set => .step (bits set.contains text)
  | .place p => .stay (bits (fun s => p.holds s) (surrounds none text))

def Move.apply : Move → Nat → Nat
  | .step positions, s => (s &&& positions) <<< 1
  | .stay positions, s => s &&& positions

def settle (f : Nat → Nat) : Nat → Nat → Nat
  | 0, s => s
  | n + 1, s =>
    let t := f s
    if t = s then s else settle f n t

/-- The positions where a pattern can end that begins at one of `s`. At most `room` steps lead to
new positions. -/
def Expr.ends (room : Nat) : Expr Move → Nat → Nat
  | .empty, s => s
  | .leaf m, s => m.apply s
  | .seq p q, s => q.ends room (p.ends room s)
  | .alt p q, s => p.ends room s ||| q.ends room s
  | .times p min max, s =>
    let more := match max with
      | some max => max - min
      | none => room
    settle (fun t => t ||| p.ends room t) more (settle (p.ends room) min s)
  | .group p, s => p.ends room s

def Expr.occursIn (p : Expr Leaf) (text : List Char) : Bool :=
  let everywhere := Nat.pow 2 (text.length + 1) - 1
  (p.map (Leaf.move text)).ends (text.length + 1) everywhere != 0

end FormCheck.Pattern
