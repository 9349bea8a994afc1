import FormCheck.Text.Split

/-!
What the tokens of a message stand for when a field fails a rule.
-/
namespace FormCheck

def confirmationField (field : String) : String := field ++ "_confirmation"

def rulePlaceholders (field rule : String) (params : List String) : List (String × String) :=
  let first := params.head?
  match rule with
  | "between" =>
    (first.map fun p => ("min", p)).toList ++ (params[1]?.map fun p => ("max", p)).toList
  | "in" => [("allowed", Text.join ", " params)]
  | "min" | "max" | "size" => (first.map fun p => (rule, p)).toList
  | "same" | "different" => (first.map fun p => ("other", p)).toList
  | "confirmed" => [("other", confirmationField field)]
  | _ => []

/-- The field comes first, the first parameter as a value last. -/
def placeholders (field rule : String) (params : List String) : List (String × String) :=
  ("field", field) :: rulePlaceholders field rule params ++
    (params.head?.map fun p => ("value", p)).toList

end FormCheck
