import FormCheck.Error
import FormCheck.Event
import FormCheck.Surroundings
import FormCheck.Value

/-!
Rules by name. A rule is a test of a value against parameters, with the template of its message;
registering a name again replaces its rule.
-/
namespace FormCheck

/-- Whether a value satisfies a rule with parameters, in given surroundings. -/
abbrev Test := Surroundings → Value → List String → Bool

structure Rule where
  name : String
  test : Test
  template : String

structure Registry where
  rules : OrderedMap Rule

namespace Registry

def empty : Registry := ⟨.empty⟩

def insert (r : Registry) (rule : Rule) : Registry := ⟨r.rules.insert rule.name rule⟩

def has (r : Registry) (name : String) : Bool := r.rules.contains name

def get? (r : Registry) (name : String) : Option Rule := r.rules.get? name

def find (r : Registry) (name : String) : Except Mistake Rule :=
  (r.get? name).elim (.error (.unknownRule name)) .ok

/-- Registers a rule; taking the place of another is logged. -/
def register (r : Registry) (rule : Rule) : Logged Registry :=
  ⟨r.insert rule, if r.has rule.name then [.ruleOverridden rule.name] else []⟩

def ofList (rules : List Rule) : Registry := rules.foldl insert empty

def names (r : Registry) : List String := r.rules.sortedKeys

def size (r : Registry) : Nat := r.rules.size

end Registry

end FormCheck
