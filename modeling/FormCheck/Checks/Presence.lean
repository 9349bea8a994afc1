import FormCheck.Rules.Registry
import FormCheck.Sanitize
import FormCheck.Text.Case

/-!
Tests of whether anything was given at all, and of answers of yes or no.
-/
namespace FormCheck.Checks

def holdsText (s : String) : Bool := !(stripPadding s.toList).isEmpty

/-- Something must be there: more than padding, an item, a file that was sent. -/
def required : Value → Bool
  | .null => false
  | .text s => holdsText s
  | .list items => !items.isEmpty
  | .upload u => u.error != Upload.noFile
  | .bool _ | .int _ | .float _ => true

/-- A field that was sent at all must hold something. -/
def filled : Value → Bool
  | .null => true
  | .text s => holdsText s
  | .list items => !items.isEmpty
  | .bool _ | .int _ | .float _ | .upload _ => true

def word (s : String) : String := Text.lower (Text.trim s)

def isNumber (v : Value) (n : Nat) : Bool :=
  match v.asNumber? with
  | some x => x.eq (.ofNat n)
  | none => false

def accepted : Value → Bool
  | .bool b => b
  | .text s => ["1", "true", "yes", "on"].contains (word s)
  | v => isNumber v 1

def boolean : Value → Bool
  | .bool _ => true
  | .text s => ["1", "0", "true", "false", "yes", "no", "on", "off"].contains (word s)
  | v => isNumber v 0 || isNumber v 1

end FormCheck.Checks
