import FormCheck.Pattern.Basic
import FormCheck.Unicode.Binary
import FormCheck.Unicode.Category
import FormCheck.Unicode.Script
import FormCheck.Unicode.ScriptExtension

/-!
The classes of characters that have names: digits, blanks and words, the classes of ASCII, and the
properties of Unicode, whose names are compared loosely.
-/
namespace FormCheck.Pattern

open Unicode (Property lookup? categories scripts scriptExtensions binaryProperties)

def ofTables (table : List Property) (names : List String) : CharSet :=
  .ofRanges (names.flatMap fun name =>
    ((lookup? table name).map fun r => r.bounds.toList).getD [])

def categoryGroups : List (List String × List String) :=
  [(["l", "letter"], ["lu", "ll", "lt", "lm", "lo"]),
    (["lc", "casedletter"], ["lu", "ll", "lt"]),
    (["m", "mark", "combiningmark"], ["mn", "mc", "me"]),
    (["n", "number"], ["nd", "nl", "no"]),
    (["p", "punctuation", "punct"], ["pc", "pd", "ps", "pe", "pi", "pf", "po"]),
    (["s", "symbol"], ["sm", "sc", "sk", "so"]),
    (["z", "separator"], ["zs", "zl", "zp"]),
    (["c", "other"], ["cc", "cf", "co", "cn"])]

def anyChar : CharSet := ⟨[(0, 0x10FFFF)]⟩

def category? (name : String) : Option CharSet :=
  if name = "any" then some anyChar
  else if name = "assigned" then some (ofTables categories ["cn"]).compl
  else if name = "ascii" then some .ascii
  else match categoryGroups.find? fun group => group.1.contains name with
    | some (_, members) => some (ofTables categories members)
    | none => (lookup? categories name).map .ofTable

def script? (name : String) : Option CharSet :=
  (lookup? scripts name).map .ofTable

def scriptExtension? (name : String) : Option CharSet :=
  ((lookup? scriptExtensions name).map .ofTable).or (script? name)

/-- A name in small letters without blanks, dashes, underscores and an "is" at its front. -/
def normalizeName (name : List Char) : String :=
  let (marked, rest) := match name with
    | 'i' :: 's' :: rest | 'I' :: 's' :: rest | 'i' :: 'S' :: rest | 'I' :: 'S' :: rest =>
      (true, rest)
    | _ => (false, name)
  let kept := (rest.filter fun c => c.toNat < 128 && !" _-".toList.contains c).map Char.toLower
  if marked && kept == ['c'] then "isc" else String.ofList kept

/-- The names that are short for a category though a property has them too. -/
def categoryFirst : List String := ["cf", "sc", "lc"]

def named? (name : List Char) : Option CharSet :=
  let name := normalizeName name
  let binary := if categoryFirst.contains name then none else lookup? binaryProperties name
  ((binary.map .ofTable).or (category? name)).or (script? name)

def valued? (name value : List Char) : Option CharSet :=
  let value := normalizeName value
  match normalizeName name with
  | "gc" | "generalcategory" => category? value
  | "sc" | "script" => script? value
  | "scx" | "scriptextensions" => scriptExtension? value
  | _ => none

inductive Short where
  | digit
  | blank
  | word
  deriving DecidableEq

def digitSet : CharSet := ofTables categories ["nd"]

def blankSet : CharSet := ofTables binaryProperties ["wspace"]

def wordSet : CharSet :=
  (ofTables binaryProperties ["alpha", "joinc"]).union
    (ofTables categories ["mn", "mc", "me", "nd", "pc"])

def asciiDigits : CharSet := .span '0' '9'

def asciiBlanks : CharSet := .ofRanges [(9, 13), (32, 32)]

def asciiWord : CharSet := .ofRanges [(48, 57), (65, 90), (95, 95), (97, 122)]

def Short.set : Short → Alphabet → CharSet
  | .digit, .unicode => digitSet
  | .blank, .unicode => blankSet
  | .word, .unicode => wordSet
  | .digit, .ascii => asciiDigits
  | .blank, .ascii => asciiBlanks
  | .word, .ascii => asciiWord

def asciiClass? : String → Option CharSet
  | "alnum" => some (.ofRanges [(48, 57), (65, 90), (97, 122)])
  | "alpha" => some (.ofRanges [(65, 90), (97, 122)])
  | "ascii" => some .ascii
  | "blank" => some (.ofRanges [(9, 9), (32, 32)])
  | "cntrl" => some (.ofRanges [(0, 31), (127, 127)])
  | "digit" => some asciiDigits
  | "graph" => some (.ofRanges [(33, 126)])
  | "lower" => some (.ofRanges [(97, 122)])
  | "print" => some (.ofRanges [(32, 126)])
  | "punct" => some (.ofRanges [(33, 47), (58, 64), (91, 96), (123, 126)])
  | "space" => some asciiBlanks
  | "upper" => some (.ofRanges [(65, 90)])
  | "word" => some asciiWord
  | "xdigit" => some (.ofRanges [(48, 57), (65, 70), (97, 102)])
  | _ => none

end FormCheck.Pattern
