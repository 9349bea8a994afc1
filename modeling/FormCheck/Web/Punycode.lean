/-!
Labels of host names that are written with letters, digits and hyphens only: the plain characters
before the last hyphen, behind it the others as differences in a number system of its own.
-/
namespace FormCheck.Web.Punycode

def base : Nat := 36

def bits : Nat := 32

/-- The value of a digit: small letters, then decimal digits. -/
def digit? (c : Char) : Option Nat :=
  if 'a' ≤ c ∧ c ≤ 'z' then some (c.toNat - 97)
  else if c.isDigit then some (c.toNat - 48 + 26)
  else none

def shrink (k : Nat) : Nat → Nat → Nat
  | 0, _ => k
  | fuel + 1, delta => if 455 < delta then shrink (k + base) fuel (delta / 35) else
      k + 36 * delta / (delta + 38)

def adapt (delta count : Nat) (first : Bool) : Nat :=
  let delta := if first then delta / 700 else delta / 2
  shrink 0 bits (delta + delta / count)

def threshold (k bias : Nat) : Nat :=
  if k ≤ bias then 1 else if bias + 26 ≤ k then 26 else k - bias

/-- Adds a number to `i`: its digits weigh `weight` and more. -/
def readNumber (bias : Nat) (i weight k : Nat) : List Char → Option (Nat × List Char)
  | [] => none
  | c :: s => do
    let d ← digit? c
    let i := i + d * weight
    guard (i < Nat.pow 2 bits)
    let t := threshold k bias
    if d < t then return (i, s)
    else
      let weight := weight * (base - t)
      guard (weight < Nat.pow 2 bits)
      readNumber bias i weight (k + base) s

/-- Inserts the characters that a text describes into `out`: the next is not below `n` and comes at
position `i` or behind. -/
def insertAll (out : List Char) (n i bias : Nat) (first : Bool) : Nat → List Char →
    Option (List Char)
  | _, [] => some out
  | 0, _ => none
  | fuel + 1, s => do
    let (next, s) ← readNumber bias i 1 base s
    let count := out.length + 1
    let bias := adapt (next - i) count first
    let n := n + next / count
    let i := next % count
    guard (Nat.isValidChar n)
    insertAll (out.take i ++ Char.ofNat n :: out.drop i) n (i + 1) bias false fuel s

def splitPlain (s : List Char) : List Char × List Char :=
  let behind := (s.reverse.takeWhile (· != '-')).reverse
  let before := (s.reverse.dropWhile (· != '-')).reverse.dropLast
  if before.isEmpty then ([], s) else (before, behind)

def decode? (s : List Char) : Option (List Char) :=
  let (plain, rest) := splitPlain s
  insertAll plain 128 0 72 true rest.length rest

end FormCheck.Web.Punycode
