import FormCheck.Json.Document
import FormCheck.Json.Number
import FormCheck.OrderedMap
import FormCheck.Decimal.Layout
import FormCheck.Text.Split

/-!
JSON values and their text. `Document.toJson?` gives the value of a document whose strings and
numbers denote something and which is at most 127 levels deep; objects keep repeated keys until
`Json.merged` joins them.
-/
namespace FormCheck

inductive Json where
  | null
  | bool (b : Bool)
  | number (n : Json.Number)
  | string (s : String)
  | array (items : List Json)
  | object (members : List (String × Json))

namespace Json

instance : Inhabited Json := ⟨.null⟩

def surrogatePair (high low : Nat) : Char :=
  Char.ofNat (0x10000 + (high - 0xD800) * 0x400 + (low - 0xDC00))

def textOf? : List Unit → Option (List Char)
  | [] => some []
  | .char c :: us => (textOf? us).map (c :: ·)
  | .code n :: .code m :: us =>
    if 0xD800 ≤ n ∧ n < 0xDC00 then
      if 0xDC00 ≤ m ∧ m < 0xE000 then (textOf? us).map (surrogatePair n m :: ·) else none
    else if 0xDC00 ≤ n ∧ n < 0xE000 then none
    else (textOf? (.code m :: us)).map (Char.ofNat n :: ·)
  | .code n :: us =>
    if 0xD800 ≤ n ∧ n < 0xE000 then none else (textOf? us).map (Char.ofNat n :: ·)

def stringOf? (us : List Unit) : Option String := (textOf? us).map String.ofList

def maxDepth : Nat := 127

end Json

namespace Json.Document

mutual

def toJsonWithin? (depth : Nat) : Document → Option Json
  | null => some .null
  | bool b => some (.bool b)
  | number n => n.value?.map .number
  | string us => (stringOf? us).map .string
  | array items =>
    if depth = 0 then none else (itemsWithin? (depth - 1) items).map .array
  | object members =>
    if depth = 0 then none else (membersWithin? (depth - 1) members).map .object

def itemsWithin? (depth : Nat) : List Document → Option (List Json)
  | [] => some []
  | d :: ds => do return (← toJsonWithin? depth d) :: (← itemsWithin? depth ds)

def membersWithin? (depth : Nat) : List (List Unit × Document) → Option (List (String × Json))
  | [] => some []
  | (key, d) :: ds => do
    return (← stringOf? key, ← toJsonWithin? depth d) :: (← membersWithin? depth ds)

end

def toJson? (d : Document) : Option Json := d.toJsonWithin? maxDepth

def knownMembers? (known : List String) :
    List (List Unit × Document) → Option (List (String × Json))
  | [] => some []
  | (key, d) :: ds => do
    let key ← stringOf? key
    if key ∈ known then
      return (key, ← toJsonWithin? (maxDepth - 1) d) :: (← knownMembers? known ds)
    else knownMembers? known ds

def toFields? (known : List String) : Document → Option Json
  | object members => (knownMembers? known members).map .object
  | d => d.toJson?

end Json.Document

namespace Json

mutual

/-- The value with each repeated key of an object at its first place with its last value. -/
def merged : Json → Json
  | array items => .array (mergedItems items)
  | object members => .object ((mergedMembers members).foldl (fun es e => Assoc.put e.1 e.2 es) [])
  | j => j

def mergedItems : List Json → List Json
  | [] => []
  | j :: js => j.merged :: mergedItems js

def mergedMembers : List (String × Json) → List (String × Json)
  | [] => []
  | (k, j) :: js => (k, j.merged) :: mergedMembers js

end

def read? (s : String) : Option Json :=
  ((Document.read? s).bind Document.toJson?).map merged

def readRepeated? (s : String) : Option Json :=
  (Document.read? s).bind Document.toJson?

/-- Numbers are written in full from 10^-5 up to 10^16, whole doubles with a zero behind a point;
what is no number is written as null. -/
def numberLayout : Decimal.Layout where
  positional := fun e => decide (-5 ≤ e ∧ e ≤ 15)
  wholeEnd := ".0"
  plus := "+"
  tie := .even
  nan := "null"
  infinity := "null"
  negativeInfinity := "null"

def Number.text : Number → String
  | .int n => toString n
  | .float x => numberLayout.write x

def hexDigit (n : Nat) : Char := (Nat.toDigits 16 n).headD '0'

def escape (c : Char) : List Char :=
  match c with
  | '"' => ['\\', '"']
  | '\\' => ['\\', '\\']
  | '\x08' => ['\\', 'b']
  | '\x0C' => ['\\', 'f']
  | '\n' => ['\\', 'n']
  | '\r' => ['\\', 'r']
  | '\t' => ['\\', 't']
  | c =>
    if c.toNat < 0x20 then ['\\', 'u', '0', '0', hexDigit (c.toNat / 16), hexDigit (c.toNat % 16)]
    else [c]

def quote (s : String) : String :=
  String.ofList ('"' :: s.toList.flatMap escape ++ ['"'])

def bracket (left right : String) (parts : List String) : String :=
  left ++ Text.join "," parts ++ right

def braces (members : List (String × String)) : String :=
  bracket "\x7b" "\x7d" (members.map fun (key, text) => quote key ++ ":" ++ text)

mutual

def write : Json → String
  | null => "null"
  | bool b => if b then "true" else "false"
  | number n => n.text
  | string s => quote s
  | array items => bracket "[" "]" (writeItems items)
  | object members => braces (writeMembers members)

def writeItems : List Json → List String
  | [] => []
  | j :: js => j.write :: writeItems js

def writeMembers : List (String × Json) → List (String × String)
  | [] => []
  | (k, j) :: js => (k, j.write) :: writeMembers js

end

end Json

end FormCheck
