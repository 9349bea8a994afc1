/-!
The names of rules that a run treats in a way of their own.
-/
namespace FormCheck

def crossFieldNames : List String := ["confirmed", "same", "different"]

def isCrossField (name : String) : Bool := crossFieldNames.contains name

def testsAbsent (name : String) : Bool := name == "required" || name == "filled"

end FormCheck
