import FormCheck.Messages.LocaleTable
import FormCheck.Messages.Overrides

/-!
Message overrides as JSON and back. A string is a template, an object of strings a table.
-/
namespace FormCheck

namespace MessageEntry

def decode? : Json → Option MessageEntry
  | .string s => some (template s)
  | .object members => (LocaleTable.stringMembers? members).map fun ms => byRule (.ofList ms)
  | _ => none

def toJson : MessageEntry → Json
  | template s => .string s
  | byRule templates => .object (templates.entries.map fun (rule, s) => (rule, .string s))

end MessageEntry

namespace Overrides

def decodeMembers? : List (String × Json) → Option (List (String × MessageEntry))
  | [] => some []
  | (key, j) :: members => do return (key, ← MessageEntry.decode? j) :: (← decodeMembers? members)

def decode? : Json → Option Overrides
  | .object members => (decodeMembers? members).map fun ms => ⟨.ofList ms⟩
  | _ => none

def toJson (o : Overrides) : Json :=
  .object (o.entries.entries.map fun (key, entry) => (key, entry.toJson))

end Overrides

end FormCheck
