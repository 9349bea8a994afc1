import FormCheck.Rules.Registry

/-!
The test of membership in a list of texts.
-/
namespace FormCheck.Checks

def allowed (params : List String) : Value → Bool
  | .text s => params.contains s
  | .int n => params.contains (Value.int n).display
  | .float x => params.contains (Value.float x).display
  | _ => false

/-- Of a list every item must be allowed. -/
def oneOf (v : Value) (params : List String) : Bool :=
  match v with
  | .list items => items.all (allowed params)
  | v => allowed params v

end FormCheck.Checks
