import FormCheck.Rules.Registry
import FormCheck.Text.Blank

/-!
Tests of size. A text is measured by its characters, a number by its value, a list by its items
and an upload by its bytes; a bound that is missing or no number fails every value.
-/
namespace FormCheck.Checks

def bound? (params : List String) (i : Nat) : Option Double :=
  params[i]?.bind fun p => Decimal.read? (Text.strip Text.isBlank p.toList)

def measure? : Value → Option Double
  | .text s => some (.ofNat s.length)
  | .int n => some (.ofInt n.toInt)
  | .float x => some x
  | .list items => some (.ofNat items.length)
  | .upload u => some (.ofNat u.size.toNat)
  | .null | .bool _ => none

def compare (test : Double → Double → Bool) (v : Value) (params : List String) : Bool :=
  match measure? v, bound? params 0 with
  | some actual, some bound => test actual bound
  | _, _ => false

def numeric (v : Value) : Bool := v.isNumeric

def min : Value → List String → Bool := compare fun actual bound => bound.le actual

def max : Value → List String → Bool := compare Double.le

/-- The number a value reads as; a text that is no number counts its characters. -/
def ranged? : Value → Option Double
  | .text s => some ((Value.readNumber? s).getD (.ofNat s.length))
  | v => v.asNumber?

def between (v : Value) (params : List String) : Bool :=
  match bound? params 0, bound? params 1, ranged? v with
  | some low, some high, some actual => low.le actual && actual.le high
  | _, _, _ => false

/-- Fractions count for nothing on either side. -/
def size (v : Value) (params : List String) : Bool :=
  let actual := match v with
    | .float x => some x.trunc
    | v => measure? v
  match actual, bound? params 0 with
  | some actual, some bound => actual.eq bound.trunc
  | _, _ => false

end FormCheck.Checks
