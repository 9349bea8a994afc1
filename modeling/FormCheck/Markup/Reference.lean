import FormCheck.Text.Hex
import FormCheck.Text.Split

/-!
Character references of marked-up text: `&name;`, `&#digits;` and `&#xhex;`. `startsWithReference`
asks whether a text begins with one.
-/
namespace FormCheck.Markup

def isReferenceBody : List Char → Bool
  | '#' :: 'x' :: hex | '#' :: 'X' :: hex => !hex.isEmpty && hex.all Text.isHexDigit
  | '#' :: digits => !digits.isEmpty && digits.all Char.isDigit
  | c :: cs => c.isAlpha && cs.all Char.isAlphanum
  | [] => false

/-- Whether the text behind an ampersand makes it a reference: a body up to the first semicolon. -/
def completesReference (rest : List Char) : Bool :=
  match Text.splitFirst? ';' rest with
  | some (body, _) => isReferenceBody body
  | none => false

def startsWithReference : List Char → Bool
  | '&' :: rest => completesReference rest
  | _ => false

end FormCheck.Markup
