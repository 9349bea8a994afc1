import FormCheck.Markup.Reference

/-!
Text made safe for markup: the four characters of tags and quotes are written as references, and
so is an ampersand that does not begin one already.
-/
namespace FormCheck.Markup

def referenceOf? : Char → Option String
  | '<' => some "&lt;"
  | '>' => some "&gt;"
  | '"' => some "&quot;"
  | '\'' => some "&#039;"
  | _ => none

/-- What a character becomes before the text `rest`. -/
def escapeChar (c : Char) (rest : List Char) : List Char :=
  match referenceOf? c with
  | some reference => reference.toList
  | none => if c = '&' ∧ !completesReference rest then "&amp;".toList else [c]

def escapeChars : List Char → List Char
  | [] => []
  | c :: cs => escapeChar c cs ++ escapeChars cs

def escape (s : String) : String := String.ofList (escapeChars s.toList)

end FormCheck.Markup
