import FormCheck.OrderedMap
import FormCheck.Upload
import FormCheck.Decimal.Layout
import FormCheck.Decimal.Literal

/-!
Values of submitted fields. `agrees` compares them strictly: numbers by value within one kind,
lists item by item. `asNumber?` reads numbers and texts that hold a decimal literal.
-/
namespace FormCheck

inductive Value where
  | null
  | bool (b : Bool)
  | int (n : Int64)
  | float (x : Double)
  | text (s : String)
  | list (items : List Value)
  | upload (u : Upload)

instance : Inhabited Value := ⟨.null⟩

abbrev Data := OrderedMap Value

namespace Value

/-- Numbers in texts are written in full and a whole one has no point. -/
def numberLayout : Decimal.Layout where
  positional := fun _ => true
  wholeEnd := ""
  plus := ""
  tie := .up
  nan := "NaN"
  infinity := "inf"
  negativeInfinity := "-inf"

def kind : Value → String
  | null => "null"
  | bool _ => "bool"
  | int _ => "int"
  | float _ => "float"
  | text _ => "string"
  | list _ => "list"
  | upload _ => "upload"

def isAbsent : Value → Bool
  | null => true
  | text s => s.isEmpty
  | _ => false

def asText? : Value → Option String
  | text s => some s
  | _ => none

/-- The number that a text denotes once the blanks at its ends are gone. -/
def readNumber? (s : String) : Option Double :=
  Decimal.readLiteral? (Text.strip Text.isBlank s.toList)

def asNumber? : Value → Option Double
  | int n => some (.ofInt n.toInt)
  | float x => some x
  | text s => readNumber? s
  | _ => none

def isNumeric (v : Value) : Bool := v.asNumber?.isSome

mutual

/-- The value as text: lists with commas between their items, an upload as its path. -/
def display : Value → String
  | null => ""
  | bool b => if b then "true" else "false"
  | int n => toString n.toInt
  | float x => numberLayout.write x
  | text s => s
  | list items => Text.join ", " (displayAll items)
  | upload u => u.path

def displayAll : List Value → List String
  | [] => []
  | v :: vs => v.display :: displayAll vs

end

mutual

/-- Strict equality, in which NaN differs from itself and the two zeros are equal. -/
def agrees : Value → Value → Bool
  | null, null => true
  | bool a, bool b => a == b
  | int a, int b => a == b
  | float a, float b => a.eq b
  | text a, text b => a == b
  | list a, list b => agreesAll a b
  | upload a, upload b => a.agrees b
  | _, _ => false

def agreesAll : List Value → List Value → Bool
  | [], [] => true
  | a :: as, b :: bs => a.agrees b && agreesAll as bs
  | _, _ => false

end

end Value

end FormCheck
