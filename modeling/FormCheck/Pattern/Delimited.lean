import FormCheck.Pattern.Positions
import FormCheck.Pattern.Reader
import FormCheck.Pattern.Size

/-!
Patterns between delimiters with letters of flags behind them, or bare.
-/
namespace FormCheck.Pattern

def closing? : Char → Option Char
  | '/' => some '/'
  | '#' => some '#'
  | '~' => some '~'
  | '!' => some '!'
  | '@' => some '@'
  | '%' => some '%'
  | ';' => some ';'
  | '{' => some '}'
  | _ => none

/-- The body and the flags of a delimited pattern: the last closing delimiter ends the body, and
nothing but letters of ASCII is behind it. -/
def cut? : List Char → Option (List Char × List Char)
  | [] => none
  | first :: rest => do
    let last ← closing? first
    let (body, flags) ← Text.splitLast? last rest
    guard (flags.all Char.isAlpha)
    return (body, flags)

/-- The flag of a letter behind a delimited pattern. The alphabet of a pattern is that of Unicode in
any case. -/
def outerFlag? : Char → Option Flag
  | 'i' => some .ignoreCase
  | 'm' => some .multiLine
  | 's' => some .dotAll
  | 'x' => some .verbose
  | 'u' => some .unicode
  | _ => none

def source? (s : List Char) : Option (List Char × Flags) :=
  match cut? s with
  | none => some (s, {})
  | some (body, letters) => do
    let flags ← letters.mapM outerFlag?
    return (body, flags.foldl (fun fs f => fs.set true f) {})

def compile? (s : List Char) : Option (Expr Leaf) := do
  let (body, flags) ← source? s
  let p ← Expr.read? flags body
  guard p.fits
  return p

def isMatch (pattern text : List Char) : Bool :=
  (compile? pattern).any (·.occursIn text)

end FormCheck.Pattern
