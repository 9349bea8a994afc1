import FormCheck.Markup.Escape
import FormCheck.Value

/-!
Values made clean before they are checked: texts lose the padding at their ends and are escaped,
lists are cleaned item by item, other values stay as they are.
-/
namespace FormCheck

def isPadding (c : Char) : Bool :=
  c == ' ' || c == '\t' || c == '\n' || c == '\r' || c == '\x00' || c == '\x0B'

def stripPadding (s : List Char) : List Char := Text.strip isPadding s

def sanitizeText (s : String) : String :=
  String.ofList (Markup.escapeChars (stripPadding s.toList))

namespace Value

mutual

def sanitize : Value → Value
  | text s => text (sanitizeText s)
  | list items => list (sanitizeAll items)
  | null => null
  | bool b => bool b
  | int n => int n
  | float x => float x
  | upload u => upload u

def sanitizeAll : List Value → List Value
  | [] => []
  | v :: vs => v.sanitize :: sanitizeAll vs

end

end Value

end FormCheck
