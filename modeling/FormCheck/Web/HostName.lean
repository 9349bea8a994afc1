import FormCheck.Text.Split
import FormCheck.Unicode.Composition
import FormCheck.Unicode.DirectionTable
import FormCheck.Unicode.JoiningTable
import FormCheck.Unicode.Letter
import FormCheck.Unicode.NameTable
import FormCheck.Web.Punycode

/-!
Names of hosts in all scripts: characters are replaced by those that they stand for, and each label
must then be composed, of characters that names may hold, and readable in one direction.
-/
namespace FormCheck.Web

open Unicode (Ranges Direction Joining)

/-- Characters from `first` to `last`, which stand for others. -/
structure Substitution where
  first : Nat
  last : Nat
  target : List Nat

def substitutions : Array Substitution :=
  ((Text.splitOn ';' Unicode.nameMappingText.toList).filterMap fun entry =>
    match (Ranges.ofText (String.ofList entry)).bounds.toList with
    | (first, last) :: target => some ⟨first, last, target.map Prod.fst⟩
    | [] => none).toArray

def ignored : Ranges := .ofText Unicode.nameIgnoredText

def refused : Ranges := .ofText Unicode.nameRefusedText

def searchSubstitution (n low high : Nat) : Nat → Option Substitution
  | 0 => none
  | fuel + 1 =>
    if low < high then
      let middle := (low + high) / 2
      match substitutions[middle]? with
      | none => none
      | some e =>
        if n < e.first then searchSubstitution n low middle fuel
        else if e.last < n then searchSubstitution n (middle + 1) high fuel
        else some e
    else none

def substitution? (c : Char) : Option Substitution :=
  searchSubstitution c.toNat 0 substitutions.size substitutions.size

def substitute (c : Char) : Option (List Char) :=
  match substitution? c with
  | some e =>
    some (if e.first = e.last then e.target.map Char.ofNat
      else e.target.map fun n => Char.ofNat (n + (c.toNat - e.first)))
  | none => if ignored.contains c then some [] else if refused.contains c then none else some [c]

def forbiddenMarks : List Char := "%#/:<>?@[\\]^|".toList

def isNameChar (c : Char) : Bool :=
  substitute c == some [c] &&
    !(c.toNat ≤ 0x20 || c.toNat == 0x7F || forbiddenMarks.contains c)

def markRanges : List Ranges := Unicode.categoryRanges ["mn", "mc", "me"]

def isMark (c : Char) : Bool :=
  0x300 ≤ c.toNat && markRanges.any (·.contains c)

def directions : List (Direction × Ranges) :=
  Unicode.directionTexts.map fun (d, text) => (d, .ofText text)

def direction (c : Char) : Direction :=
  match directions.find? fun (_, r) => r.contains c with
  | some (d, _) => d
  | none => .left

def joinings : List (Joining × Ranges) :=
  Unicode.joiningTexts.map fun (j, text) => (j, .ofText text)

def joining? (c : Char) : Option Joining :=
  (joinings.find? fun (_, r) => r.contains c).map Prod.fst

def nonJoiner : Char := '\u200C'

def joiner : Char := '\u200D'

def viramaClass : Nat := 9

def joinsOver (side : Joining) (s : List Char) : Bool :=
  match s.dropWhile fun c => joining? c == some .transparent with
  | c :: _ => joining? c == some side || joining? c == some .both
  | [] => false

/-- Each joiner stands behind a virama, or, if it separates, within a join. The characters before
the text are listed backwards. -/
def joinersFit (before : List Char) : List Char → Bool
  | [] => true
  | c :: cs =>
    let virama := before.head?.any fun b => Unicode.combiningClass b == viramaClass
    let here :=
      if c == joiner then virama
      else if c == nonJoiner then virama || (joinsOver .before before && joinsOver .behind cs)
      else true
    here && joinersFit (c :: before) cs

def turnsRight : Direction → Bool
  | .right | .arabicLetter | .arabicNumber => true
  | _ => false

def Direction.inLeftLabel : Direction → Bool
  | .left | .number | .numberSign | .numberSeparator | .numberEnd | .neutral | .boundary
  | .mark => true
  | _ => false

def Direction.inRightLabel : Direction → Bool
  | .right | .arabicLetter | .arabicNumber | .number | .numberSign | .numberSeparator
  | .numberEnd | .neutral | .boundary | .mark => true
  | _ => false

def keepsDirection (label : List Char) : Bool :=
  let ds := label.map direction
  let last := (ds.reverse.dropWhile (· == .mark)).head?
  match ds.head? with
  | none => true
  | some .left =>
    ds.all Direction.inLeftLabel && (last == some .left || last == some .number)
  | some .right | some .arabicLetter =>
    ds.all Direction.inRightLabel &&
      !(ds.contains .number && ds.contains .arabicNumber) &&
      (last == some .right || last == some .arabicLetter || last == some .number ||
        last == some .arabicNumber)
  | some _ => false

def maxLabel : Nat := 1000

def maxEncoded : Nat := 2000

def isAscii (s : List Char) : Bool := s.all fun c => c.toNat < 128

def resolve (label : List Char) : Option (List Char) :=
  match label with
  | 'x' :: 'n' :: '-' :: '-' :: rest => do
    guard (isAscii rest && rest.length ≤ maxEncoded)
    let decoded ← Punycode.decode? rest
    guard (!isAscii decoded && Unicode.composed decoded == decoded)
    return decoded
  | _ => some label

def isLabel (label : List Char) : Bool :=
  label.all isNameChar && !label.head?.any isMark && joinersFit [] label &&
    (isAscii label || label.length ≤ maxLabel)

def hostName? (name : List Char) : Option (List (List Char)) := do
  let mapped ← name.mapM substitute
  let labels ← (Text.splitOn '.' (Unicode.composed mapped.flatten)).mapM resolve
  guard (labels.all isLabel)
  let mixed := labels.any (·.any fun c => turnsRight (direction c))
  guard (!mixed || labels.all keepsDirection)
  return labels

end FormCheck.Web
