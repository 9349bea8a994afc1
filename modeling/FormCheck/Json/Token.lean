import FormCheck.Text.Hex

/-!
The tokens of a JSON text. Strings are kept as their characters and escaped code units, numbers as
their digits, so a token may denote no text or no number.
-/
namespace FormCheck.Json

/-- A character of a string, or a code unit of UTF-16 written as an escape. -/
inductive Unit where
  | char (c : Char)
  | code (n : Nat)
  deriving DecidableEq

structure Numeral where
  negative : Bool
  whole : List Char
  fraction : Option (List Char)
  exponent : Option (Bool × List Char)
  deriving DecidableEq

inductive Token where
  | openArray
  | closeArray
  | openObject
  | closeObject
  | comma
  | colon
  | null
  | bool (b : Bool)
  | number (n : Numeral)
  | string (units : List Unit)
  deriving DecidableEq

def isSpace (c : Char) : Bool := c == ' ' || c == '\t' || c == '\n' || c == '\r'

def escaped? : Char → Option Char
  | '"' => some '"'
  | '\\' => some '\\'
  | '/' => some '/'
  | 'b' => some '\x08'
  | 'f' => some '\x0C'
  | 'n' => some '\n'
  | 'r' => some '\r'
  | 't' => some '\t'
  | _ => none

def scanString : List Char → Option (List Unit × List Char)
  | [] => none
  | '"' :: cs => some ([], cs)
  | '\\' :: 'u' :: a :: b :: c :: d :: cs => do
    let n ← Text.readHex? [a, b, c, d]
    let (units, rest) ← scanString cs
    some (.code n :: units, rest)
  | '\\' :: e :: cs => do
    let c ← escaped? e
    let (units, rest) ← scanString cs
    some (.char c :: units, rest)
  | c :: cs =>
    if c.toNat < 0x20 then none
    else do
      let (units, rest) ← scanString cs
      some (.char c :: units, rest)

def scanDigits (cs : List Char) : Option (List Char × List Char) :=
  let digits := cs.takeWhile Char.isDigit
  if digits.isEmpty then none else some (digits, cs.dropWhile Char.isDigit)

def scanWhole : List Char → Option (List Char × List Char)
  | '0' :: cs => some (['0'], cs)
  | cs => scanDigits cs

def scanFraction : List Char → Option (Option (List Char) × List Char)
  | '.' :: cs => (scanDigits cs).map fun (digits, rest) => (some digits, rest)
  | cs => some (none, cs)

def scanExponent : List Char → Option (Option (Bool × List Char) × List Char)
  | c :: cs =>
    if c = 'e' ∨ c = 'E' then
      let (negative, cs) := match cs with
        | '-' :: cs => (true, cs)
        | '+' :: cs => (false, cs)
        | cs => (false, cs)
      (scanDigits cs).map fun (digits, rest) => (some (negative, digits), rest)
    else some (none, c :: cs)
  | [] => some (none, [])

/-- Reads a number: no zero stands before other digits, and digits stand on both sides of a point. -/
def scanNumeral (cs : List Char) : Option (Numeral × List Char) := do
  let (negative, cs) := match cs with
    | '-' :: cs => (true, cs)
    | cs => (false, cs)
  let (whole, cs) ← scanWhole cs
  let (fraction, cs) ← scanFraction cs
  let (exponent, cs) ← scanExponent cs
  some (⟨negative, whole, fraction, exponent⟩, cs)

/-- Reads one token; `none` in the first place stands for white space. -/
def scanToken : List Char → Option (Option Token × List Char)
  | [] => none
  | '[' :: cs => some (some .openArray, cs)
  | ']' :: cs => some (some .closeArray, cs)
  | '{' :: cs => some (some .openObject, cs)
  | '}' :: cs => some (some .closeObject, cs)
  | ',' :: cs => some (some .comma, cs)
  | ':' :: cs => some (some .colon, cs)
  | 'n' :: 'u' :: 'l' :: 'l' :: cs => some (some .null, cs)
  | 't' :: 'r' :: 'u' :: 'e' :: cs => some (some (.bool true), cs)
  | 'f' :: 'a' :: 'l' :: 's' :: 'e' :: cs => some (some (.bool false), cs)
  | '"' :: cs => (scanString cs).map fun (units, rest) => (some (.string units), rest)
  | c :: cs =>
    if isSpace c then some (none, cs)
    else (scanNumeral (c :: cs)).map fun (n, rest) => (some (.number n), rest)

def scanTokens (read : List Token) (cs : List Char) : Nat → Option (List Token)
  | 0 => if cs.isEmpty then some read.reverse else none
  | fuel + 1 =>
    if cs.isEmpty then some read.reverse
    else match scanToken cs with
      | none => none
      | some (none, rest) => scanTokens read rest fuel
      | some (some t, rest) => scanTokens (t :: read) rest fuel

def tokens? (s : String) : Option (List Token) :=
  scanTokens [] s.toList s.length

end FormCheck.Json
