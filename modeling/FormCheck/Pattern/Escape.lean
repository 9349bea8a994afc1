import FormCheck.Pattern.Classes
import FormCheck.Text.Blank
import FormCheck.Text.Hex
import FormCheck.Text.Split

/-!
What a backslash introduces in a pattern, and the single characters outside brackets.
-/
namespace FormCheck.Pattern

def skipFrom (comment : Bool) : List Char → List Char
  | [] => []
  | c :: cs =>
    if comment then skipFrom (c != '\n') cs
    else if Text.isBlank c then skipFrom false cs
    else if c = '#' then skipFrom true cs
    else c :: cs

def Flags.skip (flags : Flags) (s : List Char) : List Char :=
  if flags.verbose then skipFrom false s else s

/-- What one escape, or one plain character, stands for. -/
inductive Atom where
  | char (c : Char)
  | class (set : CharSet)
  | place (p : Place)

def scalar? (n : Nat) : Option Char :=
  if h : n.isValidChar then some (Char.ofNatAux n h) else none

def readHexDigits (flags : Flags) (value : Nat) : Nat → List Char → Option (Nat × List Char)
  | 0, s => some (value, s)
  | n + 1, s => do
    let c :: s := s | none
    let digit ← Text.hexValue? c
    readHexDigits flags (16 * value + digit) n (flags.skip s)

def readBraced (flags : Flags) (fuel : Nat) (s : List Char) : Option (List Char × List Char) :=
  match fuel, flags.skip s with
  | 0, _ | _, [] => none
  | fuel + 1, c :: s =>
    if c = '}' then some ([], s)
    else (readBraced flags fuel s).map fun (inside, rest) => (c :: inside, rest)

/-- Reads the code point of a character, in braces or in a fixed number of digits. The character of
two digits is a byte to the ASCII alphabet, which must be of ASCII. -/
def readHex (flags : Flags) (digits : Nat) (s : List Char) : Option (Atom × List Char) := do
  match flags.skip s with
  | '{' :: s =>
    let (inside, s) ← readBraced flags s.length s
    guard (!inside.isEmpty)
    let c ← scalar? (← Text.readHex? inside)
    return (.char c, flags.skip s)
  | s =>
    let (n, s) ← readHexDigits flags 0 digits s
    let c ← scalar? n
    guard (flags.unicode || digits != 2 || n < 128)
    return (.char c, s)

def splitAtPair (a b : Char) : List Char → Option (List Char × List Char)
  | [] => none
  | c :: cs =>
    if c = a ∧ cs.head? = some b then some ([], cs.drop 1)
    else (splitAtPair a b cs).map fun (before, after) => (c :: before, after)

/-- The set that the text in the braces of a property names. Both signs between a property and its
value say that it has the value. -/
def propertySet? (inside : List Char) : Option CharSet :=
  match (splitAtPair '!' '=' inside).or
      ((Text.splitFirst? ':' inside).or (Text.splitFirst? '=' inside)) with
  | some (name, value) => valued? name value
  | none => named? inside

def readProperty (flags : Flags) (negated : Bool) (s : List Char) :
    Option (Atom × List Char) := do
  guard flags.unicode
  let (set?, s) ← match flags.skip s with
    | [] | '\\' :: _ => none
    | '{' :: s => do
      let (inside, s) ← readBraced flags s.length s
      some (propertySet? inside, s)
    | c :: s => some (named? [c], flags.skip s)
  let set ← flags.negateIf negated (flags.foldCase (← set?))
  return (.class set, s)

def readShort (flags : Flags) (short : Short) (negated : Bool) (s : List Char) :
    Option (Atom × List Char) := do
  let set ← flags.negateIf negated (short.set flags.alphabet)
  return (.class set, s)

def isBoundaryLetter (c : Char) : Bool := c.isAlpha || c == '-'

def readBoundaryName (flags : Flags) (fuel : Nat) (s : List Char) : List Char × List Char :=
  match fuel, s with
  | 0, _ | _, [] => ([], s)
  | fuel + 1, c :: s =>
    if isBoundaryLetter c then
      let (name, rest) := readBoundaryName flags fuel (flags.skip s)
      (c :: name, rest)
    else ([], c :: s)

def readBoundary (flags : Flags) (s : List Char) : Option (Atom × List Char) :=
  let letters := flags.alphabet
  match s with
  | '{' :: inner =>
    match flags.skip inner with
    | [] => none
    | c :: _ =>
      if isBoundaryLetter c then
        match readBoundaryName flags s.length (flags.skip inner) with
        | (name, '}' :: rest) =>
          match String.ofList name with
          | "start" => some (.place (.wordStart letters), rest)
          | "end" => some (.place (.wordEnd letters), rest)
          | "start-half" => some (.place (.wordStartHalf letters), rest)
          | "end-half" => some (.place (.wordEndHalf letters), rest)
          | _ => none
        | _ => none
      else some (.place (.wordBoundary letters), s)
  | _ => some (.place (.wordBoundary letters), s)

/-- Reads an escape behind its backslash. A mark of ASCII stands for itself; digits and unknown
letters stand for nothing. -/
def readEscape (flags : Flags) : List Char → Option (Atom × List Char)
  | [] => none
  | c :: s =>
    match c with
    | 'x' => readHex flags 2 s
    | 'u' => readHex flags 4 s
    | 'U' => readHex flags 8 s
    | 'p' => readProperty flags false s
    | 'P' => readProperty flags true s
    | 'd' => readShort flags .digit false s
    | 'D' => readShort flags .digit true s
    | 's' => readShort flags .blank false s
    | 'S' => readShort flags .blank true s
    | 'w' => readShort flags .word false s
    | 'W' => readShort flags .word true s
    | 'a' => some (.char '\x07', s)
    | 'f' => some (.char '\x0C', s)
    | 't' => some (.char '\t', s)
    | 'n' => some (.char '\n', s)
    | 'r' => some (.char '\r', s)
    | 'v' => some (.char '\x0B', s)
    | 'A' => some (.place .textStart, s)
    | 'z' => some (.place .textEnd, s)
    | 'b' => readBoundary flags s
    | 'B' => some (.place (.notWordBoundary flags.alphabet), s)
    | '<' => some (.place (.wordStart flags.alphabet), s)
    | '>' => some (.place (.wordEnd flags.alphabet), s)
    | _ => if c.toNat < 128 ∧ ¬ c.isAlphanum then some (.char c, s) else none

end FormCheck.Pattern
