import FormCheck.OrderedMap
import FormCheck.Error

/-!
The message templates of one language, by the names of rules.
-/
namespace FormCheck

structure LocaleTable where
  entries : OrderedMap String
  deriving DecidableEq

namespace LocaleTable

def empty : LocaleTable := ⟨.empty⟩

instance : Inhabited LocaleTable := ⟨empty⟩

def ofList (entries : List (String × String)) : LocaleTable := ⟨.ofList entries⟩

def get? (t : LocaleTable) (key : String) : Option String := t.entries.get? key

def contains (t : LocaleTable) (key : String) : Bool := t.entries.contains key

def size (t : LocaleTable) : Nat := t.entries.size

def isEmpty (t : LocaleTable) : Bool := t.entries.isEmpty

def insert (t : LocaleTable) (key text : String) : LocaleTable := ⟨t.entries.insert key text⟩

def merge (t other : LocaleTable) : LocaleTable := ⟨t.entries.insertAll other.entries.entries⟩

def sorted (t : LocaleTable) : List (String × String) :=
  t.entries.sortedKeys.filterMap fun k => (t.get? k).map fun text => (k, text)

def stringMembers? : List (String × Json) → Option (List (String × String))
  | [] => some []
  | (k, .string s) :: members => (stringMembers? members).map ((k, s) :: ·)
  | _ :: _ => none

def ofJson? : Json → Option LocaleTable
  | .object members => (stringMembers? members).map ofList
  | _ => none

def parse (locale text : String) : Except Mistake LocaleTable :=
  ((Json.readRepeated? text).bind ofJson?).elim (.error (.badTable locale)) .ok

def load (files : Files.Tree) (locale path : String) : Except Mistake LocaleTable :=
  match files.readText path with
  | .ok text => parse locale text
  | .error reason => .error (.unreadable path reason)

end LocaleTable

end FormCheck
