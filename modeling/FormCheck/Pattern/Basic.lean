import FormCheck.Pattern.CharSet

/-!
Patterns: what they are built of, and the flags that their parts are read under.
-/
namespace FormCheck.Pattern

/-- What counts as a word character: letters of ASCII, or of all scripts. -/
inductive Alphabet where
  | ascii
  | unicode
  deriving DecidableEq

/-- How the lines of a text end: with a line feed, or also with a carriage return. -/
inductive LineEnd where
  | lf
  | crlf
  deriving DecidableEq

/-- Conditions on the place between two characters. -/
inductive Place where
  | textStart
  | textEnd
  | lineStart (ending : LineEnd)
  | lineEnd (ending : LineEnd)
  | wordBoundary (letters : Alphabet)
  | notWordBoundary (letters : Alphabet)
  | wordStart (letters : Alphabet)
  | wordEnd (letters : Alphabet)
  | wordStartHalf (letters : Alphabet)
  | wordEndHalf (letters : Alphabet)
  deriving DecidableEq

/-- A pattern over leaves of a type. Whether a repetition prefers many or few is not kept, since
it does not change which texts match. -/
inductive Expr (α : Type) where
  | empty
  | leaf (a : α)
  | seq (p q : Expr α)
  | alt (p q : Expr α)
  | times (p : Expr α) (min : Nat) (max : Option Nat)
  | group (p : Expr α)

namespace Expr

def map (f : α → β) : Expr α → Expr β
  | empty => .empty
  | leaf a => .leaf (f a)
  | seq p q => .seq (p.map f) (q.map f)
  | alt p q => .alt (p.map f) (q.map f)
  | times p min max => .times (p.map f) min max
  | group p => .group (p.map f)

end Expr

/-- The leaves of a pattern: a character of a set, or a condition on a place. -/
inductive Leaf where
  | one (set : CharSet)
  | place (p : Place)

inductive Flag where
  | ignoreCase
  | multiLine
  | dotAll
  | swapGreed
  | crlf
  | verbose
  | unicode
  deriving DecidableEq

def Flag.ofChar? : Char → Option Flag
  | 'i' => some .ignoreCase
  | 'm' => some .multiLine
  | 's' => some .dotAll
  | 'U' => some .swapGreed
  | 'R' => some .crlf
  | 'x' => some .verbose
  | 'u' => some .unicode
  | _ => none

structure Flags where
  ignoreCase : Bool := false
  multiLine : Bool := false
  dotAll : Bool := false
  crlf : Bool := false
  verbose : Bool := false
  unicode : Bool := true
  deriving DecidableEq

namespace Flags

def set (flags : Flags) (on : Bool) : Flag → Flags
  | .ignoreCase => { flags with ignoreCase := on }
  | .multiLine => { flags with multiLine := on }
  | .dotAll => { flags with dotAll := on }
  | .swapGreed => flags
  | .crlf => { flags with crlf := on }
  | .verbose => { flags with verbose := on }
  | .unicode => { flags with unicode := on }

def alphabet (flags : Flags) : Alphabet := if flags.unicode then .unicode else .ascii

def lineEnd (flags : Flags) : LineEnd := if flags.crlf then .crlf else .lf

def foldCase (flags : Flags) (s : CharSet) : CharSet :=
  if flags.ignoreCase then (if flags.unicode then s.folded else s.foldedAscii) else s

/-- Leaves a set or takes its complement. A complement holds characters outside ASCII, which the
ASCII alphabet cannot express. -/
def negateIf (flags : Flags) (negated : Bool) (s : CharSet) : Option CharSet :=
  if negated then (if flags.unicode then some s.compl else none) else some s

end Flags

end FormCheck.Pattern
