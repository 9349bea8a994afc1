import FormCheck.Value

/-!
The outcome of a run: the messages of the fields that failed and the values of those that passed.
-/
namespace FormCheck

structure Report where
  errors : OrderedMap (List String)
  validated : Data

namespace Report

def empty : Report := ⟨.empty, .empty⟩

instance : Inhabited Report := ⟨empty⟩

def fieldErrors (r : Report) (field : String) : List String :=
  (r.errors.get? field).getD []

def addError (r : Report) (field message : String) : Report :=
  { r with errors := r.errors.insert field (r.fieldErrors field ++ [message]) }

def hasFieldErrors (r : Report) (field : String) : Bool := r.errors.contains field

/-- A field has passed so far if it has no message. -/
def settle (r : Report) (field : String) (value : Value) : Report :=
  if r.hasFieldErrors field then { r with validated := r.validated.erase field }
  else { r with validated := r.validated.insert field value }

def isValid (r : Report) : Bool := r.errors.isEmpty

def hasErrors (r : Report) : Bool := !r.isValid

def firstError? (r : Report) (field : String) : Option String := (r.fieldErrors field).head?

def allErrors (r : Report) : List String := r.errors.values.flatten

def errorCount (r : Report) : Nat :=
  r.errors.values.foldl (fun count messages => count + messages.length) 0

def value? (r : Report) (field : String) : Option Value := r.validated.get? field

def valueOr (r : Report) (field : String) (default : Value) : Value :=
  (r.value? field).getD default

end Report

end FormCheck
